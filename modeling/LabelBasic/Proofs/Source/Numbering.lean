import LabelBasic.Source.Line

namespace LabelBasic

namespace Text

@[simp] theorem rawLines_nil : rawLines [] = [] := rfl

theorem rawLines_newline (t : Text) : rawLines ('\n' :: t) = [] :: rawLines t := by
  obtain ⟨p, ps, h⟩ := List.exists_cons_of_ne_nil (List.splitOn_ne_nil '\n' t)
  have hs : List.splitOn '\n' ('\n' :: t) = [] :: p :: ps := by
    rw [List.splitOn_cons_eq_if_modifyHead, h]
    rfl
  simp only [rawLines, hs, h, List.getLast?_cons_cons, List.dropLast_cons_cons]
  split <;> rfl

theorem rawLines_cons {c : Char} (hc : c ≠ '\n') (t : Text) :
    rawLines (c :: t) = (c :: (rawLines t).headD []) :: (rawLines t).tail := by
  obtain ⟨p, ps, h⟩ := List.exists_cons_of_ne_nil (List.splitOn_ne_nil '\n' t)
  have hs : List.splitOn '\n' (c :: t) = (c :: p) :: ps := by
    rw [List.splitOn_cons_eq_if_modifyHead, h]
    simp [hc]
  cases ps with
  | nil =>
    simp only [rawLines, hs, h, List.getLast?_singleton]
    by_cases hp : p = [] <;> simp [hp]
  | cons q qs =>
    simp only [rawLines, hs, h, List.getLast?_cons_cons, List.dropLast_cons_cons]
    split <;> rfl

theorem length_rawLines_le (t : Text) : (rawLines t).length ≤ t.byteSize := by
  induction t with
  | nil => exact Nat.le_refl _
  | cons c t ih =>
    have hpos := c.utf8Size_pos
    rw [byteSize_cons]
    by_cases hc : c = '\n'
    · rw [hc, rawLines_newline, List.length_cons]
      rw [hc] at hpos
      omega
    · rw [rawLines_cons hc, List.length_cons, List.length_tail]
      omega

end Text

theorem length_numberLines (number offset : Nat) (raws : List Text) :
    (numberLines number offset raws).length = raws.length := by
  induction raws generalizing number offset with
  | nil => rfl
  | cons raw raws ih => simp only [numberLines, List.length_cons, ih]

theorem length_sourceLines_le (t : Text) : (sourceLines t).length ≤ t.byteSize := by
  rw [sourceLines, length_numberLines]
  exact Text.length_rawLines_le t

theorem number_of_numberLines {number offset k : Nat} {raws : List Text} {l : SourceLine}
    (h : (numberLines number offset raws)[k]? = some l) (hn : number + raws.length ≤ maxOffset) :
    l.number = number + k + 1 := by
  induction raws generalizing number offset k with
  | nil => simp [numberLines] at h
  | cons raw raws ih =>
    rw [List.length_cons] at hn
    have hs : saturate (number + 1) = number + 1 := saturate_of_le (by omega)
    rw [numberLines, hs] at h
    cases k with
    | zero =>
      obtain rfl : SourceLine.ofText (number + 1) offset raw.dropReturn = l := by simpa using h
      rfl
    | succ k =>
      have hl := ih (k := k) (by simpa using h) (by omega)
      omega

/-- The number of a line is its position among the lines of the source, counted from one. -/
theorem number_of_sourceLines {t : Text} (ht : t.byteSize ≤ maxOffset)
    {before after : List SourceLine} {l : SourceLine}
    (h : sourceLines t = before ++ l :: after) : l.number = before.length + 1 := by
  have hl : (numberLines 0 0 t.rawLines)[before.length]? = some l := by
    rw [← sourceLines, h]
    simp
  have hn := number_of_numberLines hl (by
    have := Text.length_rawLines_le t
    omega)
  omega

end LabelBasic
