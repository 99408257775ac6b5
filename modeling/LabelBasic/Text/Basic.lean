namespace LabelBasic

abbrev Text := List Char

namespace Text

instance : LawfulBEq Text := inferInstance

def byteSize (t : Text) : Nat := t.foldr (fun c n ↦ c.utf8Size + n) 0

@[simp] theorem byteSize_nil : byteSize [] = 0 := rfl

@[simp] theorem byteSize_cons (c : Char) (t : Text) :
    byteSize (c :: t) = c.utf8Size + byteSize t := rfl

@[simp] theorem byteSize_append (s t : Text) : byteSize (s ++ t) = byteSize s + byteSize t := by
  induction s with
  | nil => simp
  | cons c s ih => rw [List.cons_append, byteSize_cons, byteSize_cons, ih, Nat.add_assoc]

/-- A text without its first `n` bytes. There is no such text when it is shorter or when the cut
would fall inside a character. -/
def dropBytes? : Nat → Text → Option Text
  | 0, t => some t
  | _ + 1, [] => none
  | n + 1, c :: t => if c.utf8Size ≤ n + 1 then dropBytes? (n + 1 - c.utf8Size) t else none

def takeBytes? : Nat → Text → Option Text
  | 0, _ => some []
  | _ + 1, [] => none
  | n + 1, c :: t =>
    if c.utf8Size ≤ n + 1 then (takeBytes? (n + 1 - c.utf8Size) t).map (c :: ·) else none

@[simp] theorem dropBytes?_zero (t : Text) : dropBytes? 0 t = some t := by cases t <;> rfl

@[simp] theorem takeBytes?_zero (t : Text) : takeBytes? 0 t = some [] := by cases t <;> rfl

theorem dropBytes?_cons (c : Char) (t : Text) (n : Nat) :
    dropBytes? (c.utf8Size + n) (c :: t) = dropBytes? n t := by
  obtain ⟨k, hk⟩ : ∃ k, c.utf8Size = k + 1 := ⟨c.utf8Size - 1, by have := c.utf8Size_pos; omega⟩
  have hn : c.utf8Size + n = k + n + 1 := by omega
  rw [hn, dropBytes?, if_pos (by omega), ← hn, Nat.add_sub_cancel_left]

theorem takeBytes?_cons (c : Char) (t : Text) (n : Nat) :
    takeBytes? (c.utf8Size + n) (c :: t) = (takeBytes? n t).map (c :: ·) := by
  obtain ⟨k, hk⟩ : ∃ k, c.utf8Size = k + 1 := ⟨c.utf8Size - 1, by have := c.utf8Size_pos; omega⟩
  have hn : c.utf8Size + n = k + n + 1 := by omega
  rw [hn, takeBytes?, if_pos (by omega), ← hn, Nat.add_sub_cancel_left]

@[simp] theorem dropBytes?_byteSize_append (s t : Text) :
    dropBytes? (byteSize s) (s ++ t) = some t := by
  induction s with
  | nil => simp
  | cons c s ih => rw [byteSize_cons, List.cons_append, dropBytes?_cons, ih]

@[simp] theorem takeBytes?_byteSize_append (s t : Text) :
    takeBytes? (byteSize s) (s ++ t) = some s := by
  induction s with
  | nil => simp
  | cons c s ih => rw [byteSize_cons, List.cons_append, takeBytes?_cons, ih]; rfl

/-- The `size` bytes from byte `start` on, if both ends lie between characters of the text. -/
def slice? (t : Text) (start size : Nat) : Option Text :=
  (t.dropBytes? start).bind (takeBytes? size)

theorem slice?_append_append (s t u : Text) :
    slice? (s ++ (t ++ u)) s.byteSize t.byteSize = some t := by
  simp [slice?]

def join (separator : Text) (ts : List Text) : Text := List.intercalate separator ts

def after? (t start : Text) : Option Text :=
  if start.isPrefixOf t then some (t.drop start.length) else none

theorem after?_eq_some_iff {t start rest : Text} :
    t.after? start = some rest ↔ t = start ++ rest := by
  simp only [after?, Option.ite_none_right_eq_some, List.isPrefixOf_iff_prefix, Option.some.injEq]
  constructor
  · rintro ⟨⟨u, rfl⟩, h⟩
    simpa using h
  · rintro rfl
    simp

def decimal (n : Nat) : Text := Nat.toDigits 10 n

theorem decimal_inj {m n : Nat} : decimal m = decimal n ↔ m = n := by
  refine ⟨fun h ↦ ?_, fun h ↦ h ▸ rfl⟩
  rw [← @Nat.ofDigitChars_ten_toDigits m, ← @Nat.ofDigitChars_ten_toDigits n]
  exact congrArg (Nat.ofDigitChars 10 · 0) h

end Text

end LabelBasic
