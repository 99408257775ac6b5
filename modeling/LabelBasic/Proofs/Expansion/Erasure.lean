import LabelBasic.Proofs.Expansion.Outcome

namespace LabelBasic.Expander

def accepted (e : Expander) (ls : List SourceLine) : List SourceLine :=
  ((ls.zip (e.answers ls)).filter fun a ↦ a.2.isNone).map Prod.fst

/-- The line found no number for the function after the one it ends. -/
def Overflows (answer : Option Failure) : Prop :=
  answer.map Failure.fault = some (.labelOverflow "function".toList)

instance (answer : Option Failure) : Decidable (Overflows answer) :=
  inferInstanceAs (Decidable (_ = _))

variable {e : Expander} {l : SourceLine}

theorem feed_cases (e : Expander) (l : SourceLine) :
    (e.feed l).2 = none ∨ (e.feed l).1 = e ∨ Overflows (e.feed l).2 := by
  have hstep := Scan.outcome_step e.options e.scan l
  generalize hanswer : e.scan.step e.options l = answer at hstep
  cases hstep with
  | copied | opened | returned | closed | called =>
    exact .inl (by rw [feed_of_ok hanswer])
  | refused =>
    exact .inr (.inl (by rw [feed_of_error hanswer]))
  | abandoned =>
    exact .inr (.inr (by rw [feed_of_error hanswer]; rfl))

/-- A line that fails changes neither the state nor the output nor the log. -/
theorem feed_of_failure (h : (e.feed l).2 ≠ none) (ho : ¬ Overflows (e.feed l).2) :
    (e.feed l).1 = e :=
  ((feed_cases e l).resolve_left h).resolve_right ho

theorem accepted_cons_of_none {ls : List SourceLine} (h : (e.feed l).2 = none) :
    e.accepted (l :: ls) = l :: (e.feed l).1.accepted ls := by
  simp [accepted, answers, h]

theorem accepted_cons_of_ne_none {ls : List SourceLine} (h : (e.feed l).2 ≠ none) :
    e.accepted (l :: ls) = (e.feed l).1.accepted ls := by
  simp [accepted, answers, Option.isNone_iff_eq_none, h]

theorem afterEach_accepted {ls : List SourceLine} (h : ∀ answer ∈ e.answers ls, ¬ Overflows answer) :
    e.afterEach (e.accepted ls) = e.afterEach ls ∧
      ∀ answer ∈ e.answers (e.accepted ls), answer = none := by
  induction ls generalizing e with
  | nil => exact ⟨rfl, nofun⟩
  | cons l ls ih =>
    rw [answers, List.forall_mem_cons] at h
    obtain ⟨hstate, hanswers⟩ := ih h.2
    by_cases hl : (e.feed l).2 = none
    · rw [accepted_cons_of_none hl, afterEach_cons, hstate, answers]
      refine ⟨rfl, fun answer ha ↦ ?_⟩
      rcases List.mem_cons.mp ha with rfl | ha
      · exact hl
      · exact hanswers answer ha
    · have hself := feed_of_failure hl h.1
      rw [accepted_cons_of_ne_none hl, afterEach_cons]
      rw [hself] at hstate hanswers ⊢
      exact ⟨hstate, hanswers⟩

/-- Lines that fail can be left out of a run. The expander that results is the same in its state,
its output and its log, and so gives the same expansion. -/
theorem erase_failing {ls : List SourceLine} (h : ∀ answer ∈ e.answers ls, ¬ Overflows answer) :
    (∀ before l after, ls = before ++ l :: after → ((e.afterEach before).feed l).2 ≠ none →
      ((e.afterEach before).feed l).1 = e.afterEach before) ∧
    e.afterEach (e.accepted ls) = e.afterEach ls ∧
    (∀ answer ∈ e.answers (e.accepted ls), answer = none) ∧
    (e.afterEach (e.accepted ls)).finish = (e.afterEach ls).finish := by
  obtain ⟨hstate, hanswers⟩ := afterEach_accepted h
  refine ⟨?_, hstate, hanswers, by rw [hstate]⟩
  rintro before l after rfl hl
  apply feed_of_failure hl
  apply h
  rw [answers_append, answers]
  simp

def faultyLines : List SourceLine :=
  ["FUNCEND", "FUNC A", "FUNC B", "CALLFUNC C", "FUNCRTN", "FUNCEND", "FUNC A", "CALLFUNC A"].map
    fun t ↦ .ofText 1 0 t.toList

theorem erase_failing_faultyLines :
    let e : Expander := {}
    let kept := ["FUNC A", "FUNCEND", "CALLFUNC A"].map fun t ↦ SourceLine.ofText 1 0 t.toList
    (∀ answer ∈ e.answers faultyLines, ¬ Overflows answer) ∧ e.accepted faultyLines = kept ∧
      e.afterEach kept = e.afterEach faultyLines ∧ (∀ answer ∈ e.answers kept, answer = none) ∧
      (e.afterEach kept).finish = (e.afterEach faultyLines).finish := by
  intro e kept
  have ho : ∀ answer ∈ e.answers faultyLines, ¬ Overflows answer := by decide +kernel
  have hkept : e.accepted faultyLines = kept := by decide +kernel
  obtain ⟨-, hstate, hanswers, hfinish⟩ := erase_failing ho
  rw [hkept] at hstate hanswers hfinish
  exact ⟨ho, hkept, hstate, hanswers, hfinish⟩

end LabelBasic.Expander
