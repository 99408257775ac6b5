import LabelBasic.Text.Blank

namespace LabelBasic.Text

/-- A text that can be a word: it has a character, and none of its characters is blank. -/
def IsWord (w : Text) : Prop := w ≠ [] ∧ ∀ c ∈ w, isBlank c = false

instance (w : Text) : Decidable (IsWord w) :=
  decidable_of_iff (w ≠ [] ∧ w.all (!isBlank ·)) (by simp [IsWord])

theorem IsWord.append {u v : Text} (hu : IsWord u) (hv : ∀ c ∈ v, isBlank c = false) :
    IsWord (u ++ v) := by
  refine ⟨fun h ↦ hu.1 (List.append_eq_nil_iff.mp h).1, fun c hc ↦ ?_⟩
  rcases List.mem_append.mp hc with hc | hc
  · exact hu.2 c hc
  · exact hv c hc

theorem IsWord.not_break {w : Text} (h : IsWord w) : '\n' ∉ w := by
  intro hc
  exact absurd (h.2 '\n' hc) (by decide)

theorem isBlank_of_isDigit {c : Char} (h : c.isDigit = true) : isBlank c = false := by
  have hc : 48 ≤ c.toNat ∧ c.toNat ≤ 57 := Char.isDigit_iff_toNat.mp h
  simp only [isBlank, blankRanges, List.any_cons, List.any_nil, Bool.or_eq_false_iff,
    Bool.and_eq_false_iff, decide_eq_false_iff_not, Nat.not_le, and_true]
  omega

theorem isBlank_of_mem_decimal {n : Nat} {c : Char} (h : c ∈ decimal n) : isBlank c = false :=
  isBlank_of_isDigit (Nat.isDigit_of_mem_toDigits (by decide) (by decide) h)

@[simp] theorem words_nil : words [] = [] := rfl

theorem words_append_blank {c : Char} (hc : isBlank c = true) (s t : Text) :
    words (s ++ c :: t) = words s ++ words t := by
  rw [words, List.splitOnP_append_cons s t hc, List.filter_append]
  rfl

theorem words_cons_blank {c : Char} (hc : isBlank c = true) (t : Text) :
    words (c :: t) = words t := by
  simpa using words_append_blank hc [] t

theorem words_cons_of_not_blank {c : Char} (hc : isBlank c = false) (t : Text) :
    ∃ w ws, words (c :: t) = (c :: w) :: ws := by
  obtain ⟨p, ps, h⟩ := List.exists_cons_of_ne_nil (List.splitOnP_ne_nil isBlank t)
  refine ⟨p, ps.filter fun w ↦ !w.isEmpty, ?_⟩
  rw [words, List.splitOnP_cons_eq_if_modifyHead, h]
  simp [hc]

theorem words_of_isWord {w : Text} (h : IsWord w) : words w = [w] := by
  rw [words, List.splitOnP_eq_singleton h.2]
  simp [h.1]

theorem words_append_space {w : Text} (h : IsWord w) (t : Text) :
    words (w ++ ' ' :: t) = w :: words t := by
  rw [words_append_blank (by decide), words_of_isWord h]
  rfl

theorem append_space_inj {v w s t : Text} (hv : IsWord v) (hw : IsWord w) :
    v ++ ' ' :: s = w ++ ' ' :: t ↔ v = w ∧ s = t := by
  constructor
  · intro h
    have hvw : v = w := by
      have hwords := congrArg words h
      rw [words_append_space hv, words_append_space hw] at hwords
      exact (List.cons.inj hwords).1
    subst hvw
    exact ⟨rfl, (List.cons.inj (List.append_cancel_left h)).2⟩
  · intro h
    rw [h.1, h.2]

theorem words_eq_nil_of_blank {t : Text} (h : ∀ c ∈ t, isBlank c = true) : words t = [] := by
  induction t with
  | nil => rfl
  | cons c t ih =>
    rw [words_cons_blank (h c List.mem_cons_self)]
    exact ih fun d hd ↦ h d (List.mem_cons_of_mem c hd)

theorem words_append_of_blank (s : Text) {t : Text} (h : ∀ c ∈ t, isBlank c = true) :
    words (s ++ t) = words s := by
  cases t with
  | nil => rw [List.append_nil]
  | cons c t =>
    rw [words_append_blank (h c List.mem_cons_self),
      words_eq_nil_of_blank fun d hd ↦ h d (List.mem_cons_of_mem c hd), List.append_nil]

theorem words_trimStart (t : Text) : words (trimStart t) = words t := by
  induction t with
  | nil => rfl
  | cons c t ih =>
    cases hc : isBlank c
    · simp [trimStart, hc]
    · rw [words_cons_blank hc, ← ih]
      simp [trimStart, hc]

theorem blank_of_mem_takeWhile {t : Text} {c : Char} (h : c ∈ t.takeWhile isBlank) :
    isBlank c = true :=
  List.all_eq_true.mp List.all_takeWhile c h

theorem exists_trimEnd (t : Text) : ∃ v, t = t.trimEnd ++ v ∧ ∀ c ∈ v, isBlank c = true := by
  refine ⟨(t.reverse.takeWhile isBlank).reverse, ?_, ?_⟩
  · rw [trimEnd, ← List.reverse_append, List.takeWhile_append_dropWhile, List.reverse_reverse]
  · intro c hc
    exact blank_of_mem_takeWhile (List.mem_reverse.mp hc)

theorem words_trimEnd (t : Text) : words (trimEnd t) = words t := by
  obtain ⟨v, ht, hv⟩ := exists_trimEnd t
  calc words (trimEnd t)
      = words (trimEnd t ++ v) := (words_append_of_blank _ hv).symm
    _ = words t := by rw [← ht]

@[simp] theorem words_trim (t : Text) : words (trim t) = words t := by
  rw [trim, words_trimEnd, words_trimStart]

theorem isWord_of_mem_words {t w : Text} (h : w ∈ words t) : IsWord w := by
  obtain ⟨hw, hne⟩ := List.mem_filter.mp h
  refine ⟨by simpa using hne, ?_⟩
  clear h hne
  induction t generalizing w with
  | nil => simp_all
  | cons c t ih =>
    obtain ⟨p, ps, hp⟩ := List.exists_cons_of_ne_nil (List.splitOnP_ne_nil isBlank t)
    rw [List.splitOnP_cons_eq_if_modifyHead] at hw
    split at hw
    case isTrue =>
      rcases List.mem_cons.mp hw with rfl | hw
      · simp
      · exact ih hw
    case isFalse hc =>
      rw [hp, List.modifyHead_cons] at hw
      rcases List.mem_cons.mp hw with rfl | hw
      · intro d hd
        rcases List.mem_cons.mp hd with rfl | hd
        · simpa using hc
        · exact ih (hp ▸ List.mem_cons_self) d hd
      · exact ih (hp ▸ List.mem_cons_of_mem p hw)

end LabelBasic.Text
