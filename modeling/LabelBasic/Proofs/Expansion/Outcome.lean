import LabelBasic.Expansion.Expander
import LabelBasic.Proofs.Script.Reading

namespace LabelBasic

namespace Scan

inductive Refuses (s : Scan) (l : SourceLine) : Fault → Prop
  | missing {k : Keyword} (h : l.LacksOperand k) : Refuses s l (.missingOperand ⟨k, k.expected⟩)
  | nested {n : Text} {f : OpenFunction} (h : l.Defines n) (ho : s.opened = some f) :
      Refuses s l (.nestedFunction n f.name f.site.line)
  | duplicate {n : Text} {d : Definition} (h : l.Defines n) (ho : s.opened = none)
      (hd : s.lookup? n = some d) : Refuses s l (.duplicateFunction n d.line)
  | unmatched (h : l.keyword? = some .funcEnd) (ho : s.opened = none) : Refuses s l .unmatchedEnd
  | undefined {n : Text} {arguments : List Text} (h : l.Calls n arguments)
      (hn : s.lookup? n = none) : Refuses s l (.undefinedFunction n)
  | full {n : Text} {arguments : List Text} {d : Definition} (h : l.Calls n arguments)
      (hd : s.lookup? n = some d) (hr : ¬ s.nextCallSite < maxLabel) :
      Refuses s l (.labelOverflow "call site".toList)

/-- The state after a line, and what the line becomes or fails with. -/
inductive Outcome (o : Options) (s : Scan) (l : SourceLine) : Scan × Except Fault Emission → Prop
  | copied (h : l.keyword? = none) : Outcome o s l (s, .ok { lines := [.copied (lineText o l)] })
  | opened {n : Text} (h : l.Defines n) (ho : s.opened = none) (hn : s.lookup? n = none) :
      Outcome o s l
        ({ s with
            functions := s.functions ++ [⟨n, s.nextDefinition, l.number⟩]
            opened := some ⟨n, s.nextDefinition, l.site⟩ },
          .ok (.ofCode (openingCode o.markers n s.nextDefinition)
            [.functionOpened n s.nextDefinition l.number]))
  | returned {v : Text} (h : l.Returns v) : Outcome o s l (s, .ok (.ofCode (returningCode v) []))
  | closed {f : OpenFunction} (h : l.keyword? = some .funcEnd) (ho : s.opened = some f)
      (hr : s.nextDefinition < maxLabel) :
      Outcome o s l
        ({ s with nextDefinition := s.nextDefinition + 1, opened := none },
          .ok (.ofCode (closingCode o.markers f.id) [.functionClosed f.name f.id l.number]))
  | called {n : Text} {arguments : List Text} {d : Definition} (h : l.Calls n arguments)
      (hd : s.lookup? n = some d) (hr : s.nextCallSite < maxLabel) :
      Outcome o s l
        ({ s with nextCallSite := s.nextCallSite + 1 },
          .ok (.ofCode (callingCode d.id s.nextCallSite arguments)
            (s.callWarning o n l.number ++ [.callExpanded n (.resume s.nextCallSite) l.number])))
  | refused {f : Fault} (h : s.Refuses l f) : Outcome o s l (s, .error f)
  /-- The body is closed, but the line fails. -/
  | abandoned {f : OpenFunction} (h : l.keyword? = some .funcEnd) (ho : s.opened = some f)
      (hr : ¬ s.nextDefinition < maxLabel) :
      Outcome o s l ({ s with opened := none }, .error (.labelOverflow "function".toList))

variable (o : Options) (s : Scan) {l : SourceLine}

theorem outcome_of_defines {n : Text} (h : l.Defines n) : Outcome o s l (s.step o l) := by
  rw [step_of_defines o s h, openFunction]
  cases ho : s.opened with
  | some f => exact .refused (.nested h ho)
  | none =>
    cases hn : s.lookup? n with
    | some d => exact .refused (.duplicate h ho hn)
    | none => exact .opened h ho hn

theorem outcome_of_closes (h : l.keyword? = some .funcEnd) : Outcome o s l (s.step o l) := by
  rw [step_of_closes o s h, closeFunction]
  cases ho : s.opened with
  | none => exact .refused (.unmatched h ho)
  | some f =>
    by_cases hr : s.nextDefinition < maxLabel
    · simp only [if_pos hr]
      exact .closed h ho hr
    · simp only [if_neg hr]
      exact .abandoned h ho hr

theorem outcome_of_calls {n : Text} {arguments : List Text} (h : l.Calls n arguments) :
    Outcome o s l (s.step o l) := by
  rw [step_of_calls o s h, callFunction]
  cases hd : s.lookup? n with
  | none => exact .refused (.undefined h hd)
  | some d =>
    by_cases hr : s.nextCallSite < maxLabel
    · simp only [if_pos hr]
      exact .called h hd hr
    · simp only [if_neg hr]
      exact .refused (.full h hd hr)

theorem outcome_step (l : SourceLine) : Outcome o s l (s.step o l) := by
  rcases l.reading_cases with h | ⟨k, h⟩ | ⟨n, h⟩ | ⟨v, h⟩ | h | ⟨n, arguments, h⟩
  · rw [step_of_plain o s h]
    exact .copied h
  · rw [step_of_lacksOperand o s h]
    exact .refused (.missing h)
  · exact outcome_of_defines o s h
  · rw [step_of_returns o s h]
    exact .returned h
  · exact outcome_of_closes o s h
  · exact outcome_of_calls o s h

end Scan

namespace Expander

variable {e : Expander} {l : SourceLine} {scan : Scan}

theorem feed_of_ok {emission : Emission} (h : e.scan.step e.options l = (scan, .ok emission)) :
    e.feed l = ({ e with
      scan := scan
      output := e.output ++ emission.lines
      log := e.log ++ emission.events }, none) := by
  rw [feed, h]

theorem feed_of_error {fault : Fault} (h : e.scan.step e.options l = (scan, .error fault)) :
    e.feed l = ({ e with scan := scan }, some ⟨fault, l.site⟩) := by
  rw [feed, h]

/-- The expander after the lines, which goes on after those that fail. -/
def afterEach (e : Expander) (ls : List SourceLine) : Expander :=
  ls.foldl (fun e l ↦ (e.feed l).1) e

/-- What each of the lines fails with, if it does. -/
def answers (e : Expander) : List SourceLine → List (Option Failure)
  | [] => []
  | l :: ls => (e.feed l).2 :: (e.feed l).1.answers ls

theorem afterEach_cons (e : Expander) (l : SourceLine) (ls : List SourceLine) :
    e.afterEach (l :: ls) = (e.feed l).1.afterEach ls := rfl

theorem afterEach_append (e : Expander) (s t : List SourceLine) :
    e.afterEach (s ++ t) = (e.afterEach s).afterEach t := List.foldl_append

theorem answers_append (e : Expander) (s t : List SourceLine) :
    e.answers (s ++ t) = e.answers s ++ (e.afterEach s).answers t := by
  induction s generalizing e with
  | nil => rfl
  | cons l s ih => rw [List.cons_append, answers, ih, answers, afterEach_cons, List.cons_append]

end Expander

end LabelBasic
