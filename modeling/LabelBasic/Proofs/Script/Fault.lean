import Mathlib.Data.List.Induction
import LabelBasic.Expansion.Fault
import LabelBasic.Proofs.Script.Prefix

namespace LabelBasic.Script

open SourceLine

/-- The line breaks a rule when it comes after the lines `before`. -/
def IsBad (before : Script) (l : SourceLine) : Prop :=
  (∃ k, l.LacksOperand k) ∨
  (∃ n, l.Defines n ∧ before.IsOpen) ∨
  (∃ n, l.Defines n ∧ ¬ before.IsOpen ∧ ∃ d ∈ before, d.Defines n) ∨
  (l.keyword? = some .funcEnd ∧ ¬ before.IsOpen) ∨
  ∃ n arguments, l.Calls n arguments ∧ ∀ d ∈ before, ¬ d.Defines n

/-- What is reported of a line that is bad after lines that are not. -/
inductive FaultAfter (before : Script) (l : SourceLine) : Fault → Prop
  | missing {k : Keyword} (h : l.LacksOperand k) :
      FaultAfter before l (.missingOperand ⟨k, k.expected⟩)
  | nested {n m : Text} {outer : SourceLine} (h : l.Defines n) (ho : before.IsOpen)
      (hl : before.latest? = some outer) (hm : outer.Defines m) :
      FaultAfter before l (.nestedFunction n m outer.number)
  | duplicate {n : Text} {first : SourceLine} (h : l.Defines n) (ho : ¬ before.IsOpen)
      (hf : before.filter (·.Defines n) = [first]) :
      FaultAfter before l (.duplicateFunction n first.number)
  | unmatched (h : l.keyword? = some .funcEnd) (ho : ¬ before.IsOpen) :
      FaultAfter before l .unmatchedEnd
  | undefined {n : Text} {arguments : List Text} (h : l.Calls n arguments)
      (hn : ∀ d ∈ before, ¬ d.Defines n) : FaultAfter before l (.undefinedFunction n)

def Faultless (s : Script) : Prop :=
  ∀ before l after, s = before ++ l :: after → ¬ IsBad before l

variable {s t : Script} {l : SourceLine}

theorem faultless_nil : Faultless [] := by
  intro before l after h
  simp at h

theorem Faultless.of_append (h : Faultless (s ++ t)) : Faultless s := by
  rintro before l after rfl
  exact h before l (after ++ t) (by simp)

theorem faultless_append_singleton : Faultless (s ++ [l]) ↔ Faultless s ∧ ¬ IsBad s l := by
  refine ⟨fun h ↦ ⟨h.of_append, h s l [] rfl⟩, ?_⟩
  rintro ⟨hs, hl⟩ before d after h
  rcases List.eq_nil_or_concat after with rfl | ⟨after, x, rfl⟩
  · obtain ⟨rfl, hd⟩ := List.append_inj' h rfl
    obtain rfl : l = d := by simpa using hd
    exact hl
  · rw [List.concat_eq_append, ← List.cons_append, ← List.append_assoc] at h
    exact hs before d after (List.append_inj' h rfl).1

theorem exists_first_bad (h : ¬ Faultless s) :
    ∃ before l after, s = before ++ l :: after ∧ Faultless before ∧ IsBad before l := by
  induction s using List.reverseRecOn with
  | nil => exact absurd faultless_nil h
  | append_singleton s l ih =>
    by_cases hs : Faultless s
    · exact ⟨s, l, [], rfl, hs, by simpa [faultless_append_singleton, hs] using h⟩
    · obtain ⟨before, d, after, rfl, hb, hd⟩ := ih hs
      exact ⟨before, d, after ++ [l], by simp, hb, hd⟩

section Faultless

theorem Faultless.not_lacksOperand (h : Faultless s) (hl : l ∈ s) (k : Keyword) :
    ¬ l.LacksOperand k := by
  obtain ⟨before, after, rfl⟩ := List.append_of_mem hl
  exact fun hk ↦ h before l after rfl (.inl ⟨k, hk⟩)

theorem Faultless.exists_defines (h : Faultless s) (hl : l ∈ s) (hk : l.keyword? = some .func) :
    ∃ n, l.Defines n := by
  cases ho : l.operands with
  | nil => exact absurd ⟨hk, nofun, ho⟩ (h.not_lacksOperand hl .func)
  | cons n ws => exact ⟨n, hk, by rw [ho]; rfl⟩

theorem Faultless.not_open_of_func (h : Faultless (s ++ l :: t)) (hk : l.keyword? = some .func) :
    ¬ s.IsOpen := by
  obtain ⟨n, hn⟩ := h.exists_defines (List.mem_append_right _ List.mem_cons_self) hk
  exact fun ho ↦ h s l t rfl (.inr (.inl ⟨n, hn, ho⟩))

theorem Faultless.open_of_funcEnd (h : Faultless (s ++ l :: t)) (hk : l.keyword? = some .funcEnd) :
    s.IsOpen :=
  Decidable.not_not.mp fun ho ↦ h s l t rfl (.inr (.inr (.inr (.inl ⟨hk, ho⟩))))

theorem Faultless.exists_first (h : Faultless (s ++ l :: t)) {n : Text} {arguments : List Text}
    (hc : l.Calls n arguments) :
    ∃ before first after, s = before ++ first :: after ∧ first.Defines n ∧
      ∀ x ∈ before, ¬ x.Defines n := by
  have hd : ∃ d ∈ s, d.Defines n := by
    by_contra hd
    push Not at hd
    exact h s l t rfl (.inr (.inr (.inr (.inr ⟨n, arguments, hc, hd⟩))))
  obtain ⟨d, hd, hn⟩ := hd
  exact Script.exists_first hd hn

theorem Faultless.not_defines {before after : Script} {d : SourceLine} {n : Text}
    (h : Faultless (before ++ d :: after)) (hd : d.Defines n) {x : SourceLine} (hx : x ∈ after) :
    ¬ x.Defines n := by
  obtain ⟨mid, rest, rfl⟩ := List.append_of_mem hx
  have hbad := h (before ++ d :: mid) x rest (by simp)
  intro hn
  by_cases ho : IsOpen (before ++ d :: mid)
  · exact hbad (.inr (.inl ⟨n, hn, ho⟩))
  · exact hbad (.inr (.inr (.inl ⟨n, hn, ho, d, by simp, hd⟩)))

theorem Faultless.filter_defines (h : Faultless s) {d : SourceLine} {n : Text} (hd : d ∈ s)
    (hn : d.Defines n) : ∃ first, s.filter (·.Defines n) = [first] := by
  obtain ⟨before, first, after, rfl, hf, hb⟩ := Script.exists_first hd hn
  refine ⟨first, ?_⟩
  rw [List.filter_append, List.filter_cons_of_pos (by simpa using hf),
    List.filter_eq_nil_iff.mpr fun x hx ↦ by simpa using hb x hx,
    List.filter_eq_nil_iff.mpr fun x hx ↦ by simpa using h.not_defines hf hx]
  rfl

theorem Faultless.balance (h : Faultless s) :
    numberOf .funcEnd s ≤ numberOf .func s ∧ numberOf .func s ≤ numberOf .funcEnd s + 1 := by
  induction s using List.reverseRecOn with
  | nil => simp
  | append_singleton s l ih =>
    have hs := ih h.of_append
    have hf := h.not_open_of_func (l := l) (t := [])
    have he := h.open_of_funcEnd (l := l) (t := [])
    simp only [IsOpen] at hf he
    rw [numberOf_append_singleton, numberOf_append_singleton]
    by_cases hk : l.keyword? = some .func
    · have hne : l.keyword? ≠ some .funcEnd := by rw [hk]; nofun
      have := hf hk
      rw [if_pos hk, if_neg hne]
      omega
    · rw [if_neg hk]
      split
      · have := he ‹_›
        omega
      · omega

theorem Faultless.isOpen_of_func (h : Faultless (s ++ l :: t)) (hk : l.keyword? = some .func) :
    IsOpen (s ++ [l]) := by
  have hb := (h.of_append (t := l :: t)).balance
  have ho := h.not_open_of_func hk
  simp only [IsOpen, numberOf_append_singleton, hk, reduceCtorEq, Option.some.injEq, if_true,
    if_false] at ho ⊢
  omega

theorem Faultless.not_isOpen_of_funcEnd (h : Faultless (s ++ l :: t))
    (hk : l.keyword? = some .funcEnd) : ¬ IsOpen (s ++ [l]) := by
  have hb := (h.of_append (t := l :: t)).balance
  have ho := h.open_of_funcEnd hk
  simp only [IsOpen, numberOf_append_singleton, hk, reduceCtorEq, Option.some.injEq, if_true,
    if_false] at ho ⊢
  omega

theorem isOpen_append_of_isInner (h : l.IsInner) : IsOpen (s ++ [l]) ↔ s.IsOpen := by
  simp [IsOpen, h.1, h.2]

theorem IsBad.fault (hs : Faultless s) (h : IsBad s l) : ∃ f, FaultAfter s l f := by
  rcases h with ⟨k, h⟩ | ⟨n, h, ho⟩ | ⟨n, h, ho, d, hd, hn⟩ | ⟨h, ho⟩ | ⟨n, arguments, h, hn⟩
  · exact ⟨_, .missing h⟩
  · obtain ⟨outer, hl⟩ := ho.latest?
    obtain ⟨hmem, hk⟩ := mem_of_latest? hl
    obtain ⟨m, hm⟩ := hs.exists_defines hmem hk
    exact ⟨_, .nested h ho hl hm⟩
  · obtain ⟨first, hf⟩ := hs.filter_defines hd hn
    exact ⟨_, .duplicate h ho hf⟩
  · exact ⟨_, .unmatched h ho⟩
  · exact ⟨_, .undefined h hn⟩

end Faultless

end LabelBasic.Script
