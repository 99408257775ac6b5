import Mathlib.Data.List.Induction
import Mathlib.Data.List.TakeWhile
import LabelBasic.Source.Line
import LabelBasic.Proofs.Text.Words

namespace LabelBasic.Text

theorem exists_trimStart (t : Text) : ∃ u, t = u ++ t.trimStart ∧ ∀ c ∈ u, isBlank c = true :=
  ⟨t.takeWhile isBlank, List.takeWhile_append_dropWhile.symm, fun _ ↦ blank_of_mem_takeWhile⟩

theorem head?_trimStart {t : Text} {c : Char} (h : t.trimStart.head? = some c) :
    isBlank c = false := by
  have hc := List.head?_dropWhile_not isBlank t
  rw [trimStart] at h
  rw [h] at hc
  exact hc

theorem getLast?_trimEnd {t : Text} {c : Char} (h : t.trimEnd.getLast? = some c) :
    isBlank c = false := by
  rw [trimEnd, List.getLast?_reverse] at h
  exact head?_trimStart h

theorem head?_trim {t : Text} {c : Char} (h : t.trim.head? = some c) : isBlank c = false := by
  obtain ⟨v, hv, -⟩ := exists_trimEnd t.trimStart
  obtain ⟨u, hu⟩ := List.head?_eq_some_iff.mp h
  apply head?_trimStart (t := t)
  rw [hv, ← trim, hu]
  rfl

theorem mem_of_mem_trim {t : Text} {c : Char} (h : c ∈ t.trim) : c ∈ t := by
  obtain ⟨u, hu, -⟩ := exists_trimStart t
  obtain ⟨v, hv, -⟩ := exists_trimEnd t.trimStart
  rw [hu, hv]
  exact List.mem_append_right u (List.mem_append_left v h)

theorem trimStart_eq_self {t : Text} (h : ∀ c, t.head? = some c → isBlank c = false) :
    t.trimStart = t := by
  cases t with
  | nil => rfl
  | cons c t => exact List.dropWhile_cons_of_neg (by rw [h c rfl]; exact Bool.false_ne_true)

theorem trim_eq_self {t : Text} (hh : ∀ c, t.head? = some c → isBlank c = false)
    (hl : ∀ c, t.getLast? = some c → isBlank c = false) : t.trim = t := by
  have hr : trimStart t.reverse = t.reverse := by
    apply trimStart_eq_self
    intro c hc
    rw [List.head?_reverse] at hc
    exact hl c hc
  calc t.trim = t.trimEnd := by rw [trim, trimStart_eq_self hh]
    _ = (trimStart t.reverse).reverse := rfl
    _ = t := by rw [hr, List.reverse_reverse]

theorem trim_trim (t : Text) : t.trim.trim = t.trim :=
  trim_eq_self (fun _ ↦ head?_trim) fun _ ↦ getLast?_trimEnd

theorem words_ne_nil {t : Text} {c : Char} (hc : c ∈ t) (hb : isBlank c = false) :
    words t ≠ [] := by
  induction t with
  | nil => cases hc
  | cons d t ih =>
    cases hd : isBlank d
    · obtain ⟨w, ws, h⟩ := words_cons_of_not_blank hd t
      rw [h]
      exact List.cons_ne_nil _ _
    · rw [words_cons_blank hd]
      rcases List.mem_cons.mp hc with rfl | hc
      · rw [hd] at hb
        cases hb
      · exact ih hc

theorem words_ne_nil_of_trim {t u v : Text} {c : Char} (h : trim t = u ++ c :: v)
    (hb : isBlank c = true) : words u ≠ [] ∧ words v ≠ [] := by
  constructor
  · cases u with
    | nil =>
      have hd := head?_trim (t := t) (c := c) (by rw [h]; rfl)
      rw [hb] at hd
      cases hd
    | cons d u => exact words_ne_nil List.mem_cons_self (head?_trim (t := t) (by rw [h]; rfl))
  · rcases List.eq_nil_or_concat v with rfl | ⟨v, d, rfl⟩
    · have hd := getLast?_trimEnd (t := trimStart t) (c := c) (by rw [← trim, h]; simp)
      rw [hb] at hd
      cases hd
    · have hl : (trim t).getLast? = some d :=
        List.getLast?_eq_some_iff.mpr ⟨u ++ c :: v, by simp [h]⟩
      exact words_ne_nil (by simp) (getLast?_trimEnd (t := trimStart t) hl)

theorem trim_of_words {t w : Text} (h : words t = [w]) : trim t = w := by
  have hw : words (trim t) = [w] := (words_trim t).trans h
  have hword : IsWord (trim t) := by
    refine ⟨fun he ↦ ?_, fun c hc ↦ ?_⟩
    · rw [he] at hw
      cases hw
    · by_contra hb
      rw [Bool.not_eq_false] at hb
      obtain ⟨u, v, huv⟩ := List.append_of_mem hc
      obtain ⟨hu, hv⟩ := words_ne_nil_of_trim huv hb
      have hl := congrArg List.length hw
      rw [huv, words_append_blank hb, List.length_append, List.length_singleton] at hl
      have := List.length_pos_iff.mpr hu
      have := List.length_pos_iff.mpr hv
      omega
  rw [words_of_isWord hword] at hw
  exact List.singleton_inj.mp hw

theorem trimStart_eq_nil {t : Text} (h : ∀ c ∈ t, isBlank c = true) : trimStart t = [] :=
  List.dropWhile_eq_nil_iff.mpr h

theorem trimStart_append {t : Text} (h : words t ≠ []) (u : Text) :
    trimStart (t ++ u) = trimStart t ++ u := by
  have hne : ¬ (t.dropWhile isBlank).isEmpty := by
    intro he
    apply h
    exact words_eq_nil_of_blank (List.dropWhile_eq_nil_iff.mp (List.isEmpty_iff.mp he))
  rw [trimStart, trimStart, List.dropWhile_append, if_neg hne]

theorem trimEnd_append (t : Text) {u : Text} (h : ∀ c ∈ u, isBlank c = true) :
    trimEnd (t ++ u) = trimEnd t := by
  rw [trimEnd, trimEnd, List.reverse_append,
    List.dropWhile_append_of_pos fun c hc ↦ h c (List.mem_reverse.mp hc)]

theorem trim_append (t : Text) {u : Text} (h : ∀ c ∈ u, isBlank c = true) :
    trim (t ++ u) = trim t := by
  by_cases ht : ∀ c ∈ t, isBlank c = true
  · rw [trim, trim, trimStart_eq_nil ht, trimStart_eq_nil]
    intro c hc
    exact (List.mem_append.mp hc).elim (ht c) (h c)
  · push Not at ht
    obtain ⟨c, hc, hb⟩ := ht
    rw [trim, trimStart_append (words_ne_nil hc (by simpa using hb)), trimEnd_append _ h, ← trim]

@[simp] theorem dropReturn_append_return (t : Text) : dropReturn (t ++ ['\r']) = t := by
  simp [dropReturn]

theorem dropReturn_eq_self {t : Text} (h : t.getLast? ≠ some '\r') : t.dropReturn = t := if_neg h

theorem exists_dropReturn (t : Text) :
    t = t.dropReturn ∨ t = t.dropReturn ++ ['\r'] := by
  unfold dropReturn
  split
  · obtain ⟨u, rfl⟩ := List.getLast?_eq_some_iff.mp ‹_›
    exact .inr (by simp)
  · exact .inl rfl

theorem trim_dropReturn (t : Text) : t.dropReturn.trim = t.trim := by
  rcases exists_dropReturn t with h | h
  · exact congrArg trim h.symm
  · conv_rhs => rw [h, trim_append t.dropReturn (List.forall_mem_singleton.mpr (by decide))]

theorem words_dropReturn (t : Text) : t.dropReturn.words = t.words := by
  rw [← words_trim, trim_dropReturn, words_trim]

theorem byteSize_dropReturn_le (t : Text) : t.dropReturn.byteSize ≤ t.byteSize := by
  rcases exists_dropReturn t with h | h
  · exact Nat.le_of_eq (congrArg byteSize h.symm)
  · conv_rhs => rw [h, byteSize_append]
    exact Nat.le_add_right _ _

end LabelBasic.Text
