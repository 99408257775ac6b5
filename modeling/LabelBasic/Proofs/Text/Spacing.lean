import LabelBasic.Proofs.Text.Trim

namespace LabelBasic.Text

def IsGap (t : Text) : Prop := ∀ c ∈ t, isBlank c = true

/-- The words in order, each after a gap that is not empty, and then a last gap. -/
inductive Follow : List Text → Text → Prop
  | nil {gap : Text} (hg : gap.IsGap) : Follow [] gap
  | cons {gap w rest : Text} {ws : List Text} (hg : gap.IsGap) (hne : gap ≠ []) (hw : IsWord w)
      (hr : Follow ws rest) : Follow (w :: ws) (gap ++ (w ++ rest))

def StartsBlank (t : Text) : Prop := ∀ c, t.head? = some c → isBlank c = true

variable {t gap w rest : Text} {ws : List Text}

theorem words_eq_nil_iff : words t = [] ↔ t.IsGap := by
  refine ⟨fun h c hc ↦ ?_, words_eq_nil_of_blank⟩
  by_contra hb
  exact words_ne_nil hc (by simpa using hb) h

theorem IsGap.startsBlank (h : gap.IsGap) : gap.StartsBlank := by
  intro c hc
  exact h c (List.mem_of_head? hc)

theorem startsBlank_append (h : gap.IsGap) (hne : gap ≠ []) (rest : Text) :
    (gap ++ rest).StartsBlank := by
  obtain ⟨d, u, rfl⟩ := List.exists_cons_of_ne_nil hne
  rintro c ⟨⟩
  exact h d List.mem_cons_self

theorem words_gap_append (h : gap.IsGap) (t : Text) : words (gap ++ t) = words t := by
  induction gap with
  | nil => rfl
  | cons c gap ih =>
    rw [IsGap, List.forall_mem_cons] at h
    rw [List.cons_append, words_cons_blank h.1, ih h.2]

theorem words_word_append (hw : IsWord w) (hr : rest.StartsBlank) :
    words (w ++ rest) = w :: words rest := by
  cases rest with
  | nil => rw [List.append_nil, words_of_isWord hw, words_nil]
  | cons c rest =>
    have hc : isBlank c = true := hr c rfl
    rw [words_append_blank hc, words_of_isWord hw, words_cons_blank hc, List.singleton_append]

theorem words_gap_word_append (hg : gap.IsGap) (hw : IsWord w) (hr : rest.StartsBlank) :
    words (gap ++ (w ++ rest)) = w :: words rest := by
  rw [words_gap_append hg, words_word_append hw hr]

theorem Follow.startsBlank (h : Follow ws rest) : rest.StartsBlank := by
  cases h with
  | nil hg => exact hg.startsBlank
  | cons hg hne hw hr => exact startsBlank_append hg hne _

theorem Follow.words_eq (h : Follow ws rest) : words rest = ws := by
  induction h with
  | nil hg => exact words_eq_nil_iff.mpr hg
  | cons hg hne hw hr ih => rw [words_gap_word_append hg hw hr.startsBlank, ih]

theorem exists_word_append {c : Char} (hc : isBlank c = false) (t : Text) :
    ∃ w rest : Text, c :: t = w ++ rest ∧ IsWord w ∧ rest.StartsBlank := by
  have hrest := List.head?_dropWhile_not (fun d ↦ !isBlank d) (c :: t)
  refine ⟨(c :: t).takeWhile fun d ↦ !isBlank d, (c :: t).dropWhile fun d ↦ !isBlank d,
    List.takeWhile_append_dropWhile.symm, ⟨?_, ?_⟩, ?_⟩
  · rw [List.takeWhile_cons_of_pos (by simpa using hc)]
    exact List.cons_ne_nil _ _
  · intro d hd
    simpa using List.mem_takeWhile_imp hd
  · intro d hd
    rw [hd] at hrest
    simpa using hrest

theorem exists_first_word (h : words t = w :: ws) :
    ∃ gap rest, t = gap ++ (w ++ rest) ∧ gap.IsGap ∧ IsWord w ∧ rest.StartsBlank ∧
      words rest = ws := by
  obtain ⟨gap, ht, hg⟩ := exists_trimStart t
  rw [← words_trimStart] at h
  cases hs : t.trimStart with
  | nil =>
    rw [hs] at h
    cases h
  | cons c u =>
    have hc : isBlank c = false := head?_trimStart (t := t) (by rw [hs, List.head?_cons])
    obtain ⟨v, rest, hv, hword, hrest⟩ := exists_word_append hc u
    rw [hs, hv, words_word_append hword hrest] at h
    obtain ⟨rfl, rfl⟩ := List.cons.inj h
    rw [hs, hv] at ht
    exact ⟨gap, rest, ht, hg, hword, hrest, rfl⟩

theorem StartsBlank.follow (h : rest.StartsBlank) : Follow (words rest) rest := by
  generalize hws : words rest = ws
  induction ws generalizing rest with
  | nil => exact .nil (words_eq_nil_iff.mp hws)
  | cons w ws ih =>
    obtain ⟨gap, rest', rfl, hg, hw, hr, hws'⟩ := exists_first_word hws
    refine .cons hg ?_ hw (ih hr hws')
    rintro rfl
    obtain ⟨c, u, rfl⟩ := List.exists_cons_of_ne_nil hw.1
    have hb := h c rfl
    rw [hw.2 c List.mem_cons_self] at hb
    cases hb

theorem words_eq_cons_iff : words t = w :: ws ↔
    ∃ gap rest, t = gap ++ (w ++ rest) ∧ gap.IsGap ∧ IsWord w ∧ Follow ws rest := by
  constructor
  · intro h
    obtain ⟨gap, rest, ht, hg, hw, hr, rfl⟩ := exists_first_word h
    exact ⟨gap, rest, ht, hg, hw, hr.follow⟩
  · rintro ⟨gap, rest, rfl, hg, hw, hr⟩
    rw [words_gap_word_append hg hw hr.startsBlank, hr.words_eq]

end LabelBasic.Text
