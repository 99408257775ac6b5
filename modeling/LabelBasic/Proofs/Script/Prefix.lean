import LabelBasic.Proofs.Script.Reading

namespace LabelBasic

abbrev Script := List SourceLine

section Gather

variable {α β γ : Type}

/-- The contributions of the elements of a list, one after the other, where each may depend on the
elements before its own. -/
def gather (f : List α → α → List β) : List α → List β
  | [] => []
  | a :: s => f [] a ++ gather (fun before ↦ f (a :: before)) s

theorem gather_append (f : List α → α → List β) (s t : List α) :
    gather f (s ++ t) = gather f s ++ gather (fun before ↦ f (s ++ before)) t := by
  induction s generalizing f with
  | nil => rfl
  | cons a s ih => simp only [List.cons_append, gather, ih, List.append_assoc]

@[simp] theorem gather_singleton (f : List α → α → List β) (a : α) : gather f [a] = f [] a := by
  simp [gather]

theorem gather_append_singleton (f : List α → α → List β) (s : List α) (a : α) :
    gather f (s ++ [a]) = gather f s ++ f s a := by
  rw [gather_append, gather_singleton, List.append_nil]

theorem gather_append_cons (f : List α → α → List β) (s : List α) (a : α) (t : List α) :
    gather f (s ++ a :: t) =
      gather f s ++ (f s a ++ gather (fun before ↦ f (s ++ a :: before)) t) := by
  rw [gather_append, gather, List.append_nil]

theorem filterMap_gather (g : β → Option γ) (f : List α → α → List β) (s : List α) :
    (gather f s).filterMap g = gather (fun before a ↦ (f before a).filterMap g) s := by
  induction s generalizing f with
  | nil => rfl
  | cons a s ih => simp only [gather, List.filterMap_append, ih]

theorem map_gather (g : β → γ) (f : List α → α → List β) (s : List α) :
    (gather f s).map g = gather (fun before a ↦ (f before a).map g) s := by
  induction s generalizing f with
  | nil => rfl
  | cons a s ih => simp only [gather, List.map_append, ih]

theorem filter_gather (p : β → Bool) (f : List α → α → List β) (s : List α) :
    (gather f s).filter p = gather (fun before a ↦ (f before a).filter p) s := by
  induction s generalizing f with
  | nil => rfl
  | cons a s ih => simp only [gather, List.filter_append, ih]

theorem gather_map {δ : Type} (g : δ → α) (f : List α → α → List β) (s : List δ) :
    gather f (s.map g) = gather (fun before a ↦ f (before.map g) (g a)) s := by
  induction s generalizing f with
  | nil => rfl
  | cons a s ih => simp only [List.map_cons, gather, List.map_nil, ih]

theorem mem_gather {f : List α → α → List β} {s : List α} {b : β} :
    b ∈ gather f s ↔ ∃ before a after, s = before ++ a :: after ∧ b ∈ f before a := by
  constructor
  · intro h
    induction s generalizing f with
    | nil => cases h
    | cons a s ih =>
      rcases List.mem_append.mp h with h | h
      · exact ⟨[], a, s, rfl, h⟩
      · obtain ⟨before, c, after, rfl, hb⟩ := ih h
        exact ⟨a :: before, c, after, rfl, hb⟩
  · rintro ⟨before, a, after, rfl, hb⟩
    rw [gather_append_cons]
    exact List.mem_append_right _ (List.mem_append_left _ hb)

theorem gather_eq_append_cons {f : List α → α → List β} {s : List α} {u v : List β} {b : β}
    (h : gather f s = u ++ b :: v) :
    ∃ before a after u' v', s = before ++ a :: after ∧ f before a = u' ++ b :: v' ∧
      u = gather f before ++ u' ∧ v = v' ++ gather (fun c ↦ f (before ++ a :: c)) after := by
  induction s generalizing f u with
  | nil => simp [gather] at h
  | cons a s ih =>
    rw [gather, List.append_eq_append_iff] at h
    rcases h with ⟨w, rfl, h⟩ | ⟨w, hw, h⟩
    · obtain ⟨before, c, after, u', v', rfl, hf, rfl, rfl⟩ := ih h
      exact ⟨a :: before, c, after, u', v', rfl, hf, by simp [gather], rfl⟩
    · cases w with
      | nil =>
        rw [List.append_nil] at hw
        obtain ⟨before, c, after, u', v', rfl, hf, hu, rfl⟩ := ih (u := []) h.symm
        obtain ⟨hg, rfl⟩ := List.append_eq_nil_iff.mp hu.symm
        exact ⟨a :: before, c, after, [], v', rfl, hf, by simp [gather, hw, hg], rfl⟩
      | cons d w =>
        obtain ⟨rfl, rfl⟩ := List.cons.inj h
        exact ⟨[], a, s, u, w, rfl, hw, rfl, rfl⟩

theorem gather_congr {f g : List α → α → List β} {s : List α}
    (h : ∀ before a after, s = before ++ a :: after → f before a = g before a) :
    gather f s = gather g s := by
  induction s generalizing f g with
  | nil => rfl
  | cons a s ih =>
    rw [gather, gather, h [] a s rfl, ih]
    rintro before c after rfl
    exact h (a :: before) c after rfl

theorem gather_eq_map (g : α → β) (s : List α) : gather (fun _ a ↦ [g a]) s = s.map g := by
  induction s with
  | nil => rfl
  | cons a s ih => rw [gather, ih, List.map_cons, List.singleton_append]

theorem gather_eq_nil (s : List α) : gather (fun _ _ ↦ ([] : List β)) s = [] := by
  induction s with
  | nil => rfl
  | cons a s ih => rw [gather, ih, List.append_nil]

theorem forall_place_iff {s : List α} {p : List α → α → Prop} :
    (∀ before a after, s = before ++ a :: after → p before a) ↔
      ∀ i (hi : i < s.length), p (s.take i) s[i] := by
  constructor
  · intro h i hi
    refine h _ _ (s.drop (i + 1)) ?_
    rw [List.getElem_cons_drop, List.take_append_drop]
  · rintro h before a after rfl
    simpa using h before.length (by simp)

end Gather

namespace Script

def linesOf (k : Keyword) (s : Script) : Script := s.filter fun l ↦ l.keyword? == some k

def numberOf (k : Keyword) (s : Script) : Nat := (linesOf k s).length

/-- After these lines the body of a function is open: not every `FUNC` has its `FUNCEND`. -/
def IsOpen (s : Script) : Prop := numberOf .funcEnd s < numberOf .func s

instance (s : Script) : Decidable s.IsOpen := inferInstanceAs (Decidable (_ < _))

def latest? (s : Script) : Option SourceLine := (linesOf .func s).getLast?

/-- The number of `FUNC` lines before the one that defines a name. -/
def position (name : Text) (s : Script) : Nat :=
  numberOf .func (s.takeWhile fun l ↦ !decide (l.Defines name))

variable {k : Keyword} {s t : Script} {l : SourceLine}

theorem linesOf_append_singleton (k : Keyword) (s : Script) (l : SourceLine) :
    linesOf k (s ++ [l]) = linesOf k s ++ if l.keyword? = some k then [l] else [] := by
  by_cases h : l.keyword? = some k <;> simp [linesOf, h]

@[simp] theorem numberOf_nil (k : Keyword) : numberOf k [] = 0 := rfl

theorem numberOf_append (k : Keyword) (s t : Script) :
    numberOf k (s ++ t) = numberOf k s + numberOf k t := by
  simp [numberOf, linesOf]

theorem numberOf_cons (k : Keyword) (l : SourceLine) (s : Script) :
    numberOf k (l :: s) = numberOf k s + if l.keyword? = some k then 1 else 0 := by
  by_cases h : l.keyword? = some k <;> simp [numberOf, linesOf, h]

@[simp] theorem numberOf_append_singleton (k : Keyword) (s : Script) (l : SourceLine) :
    numberOf k (s ++ [l]) = numberOf k s + if l.keyword? = some k then 1 else 0 := by
  rw [numberOf_append, numberOf_cons, numberOf_nil, Nat.zero_add]

theorem numberOf_le_length (k : Keyword) (s : Script) : numberOf k s ≤ s.length :=
  List.length_filter_le _ s

theorem numberOf_eq_zero (h : ∀ l ∈ s, l.keyword? ≠ some k) : numberOf k s = 0 := by
  rw [numberOf, linesOf, List.length_eq_zero_iff, List.filter_eq_nil_iff]
  exact fun l hl ↦ by simpa using h l hl

theorem latest?_of_func (s : Script) (h : l.keyword? = some .func) :
    latest? (s ++ [l]) = some l := by
  simp [latest?, linesOf, h]

theorem latest?_of_not_func (s : Script) (h : l.keyword? ≠ some .func) :
    latest? (s ++ [l]) = latest? s := by
  simp [latest?, linesOf, h]

theorem IsOpen.latest? (h : s.IsOpen) : ∃ d, s.latest? = some d := by
  have hne : linesOf .func s ≠ [] := List.ne_nil_of_length_pos (Nat.zero_lt_of_lt h)
  exact ⟨_, List.getLast?_eq_some_getLast hne⟩

theorem mem_of_latest? {d : SourceLine} (h : s.latest? = some d) :
    d ∈ s ∧ d.keyword? = some .func := by
  have hd := List.mem_filter.mp (List.mem_of_getLast? h)
  exact ⟨hd.1, by simpa using hd.2⟩

theorem exists_first {n : Text} {d : SourceLine} (hd : d ∈ s) (hn : d.Defines n) :
    ∃ before first after, s = before ++ first :: after ∧ first.Defines n ∧
      ∀ x ∈ before, ¬ x.Defines n := by
  induction s with
  | nil => cases hd
  | cons l s ih =>
    by_cases hl : l.Defines n
    · exact ⟨[], l, s, rfl, hl, nofun⟩
    · have hs : d ∈ s := by
        rcases List.mem_cons.mp hd with rfl | hd
        · exact absurd hn hl
        · exact hd
      obtain ⟨before, first, after, rfl, hf, hb⟩ := ih hs
      refine ⟨l :: before, first, after, rfl, hf, fun x hx ↦ ?_⟩
      rcases List.mem_cons.mp hx with rfl | hx
      · exact hl
      · exact hb x hx

theorem position_of_first {n : Text} {before after : Script} {d : SourceLine} (hd : d.Defines n)
    (hb : ∀ x ∈ before, ¬ x.Defines n) :
    position n (before ++ d :: after) = numberOf .func before := by
  have hp : ∀ x ∈ before, (!decide (x.Defines n)) = true := fun x hx ↦ by simp [hb x hx]
  rw [position, List.takeWhile_append_of_pos hp, List.takeWhile_cons_of_neg (by simp [hd]),
    List.append_nil]

end Script

end LabelBasic
