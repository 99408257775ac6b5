import LabelBasic.Proofs.Expansion.Pinpoint

namespace LabelBasic

open Text

namespace SourceLine

/-- The lines have one number and are read alike, whatever their places. -/
structure Alike (o : Options) (l l' : SourceLine) : Prop where
  number : l.number = l'.number
  text : Scan.lineText o l = Scan.lineText o l'

end SourceLine

def OpenFunction.heading (f : OpenFunction) : Text × Nat × Nat := (f.name, f.id, f.site.line)

def Failure.heading (f : Failure) : Fault × Nat := (f.fault, f.site.line)

namespace Scan

structure Alike (s s' : Scan) : Prop where
  functions : s.functions = s'.functions
  nextDefinition : s.nextDefinition = s'.nextDefinition
  nextCallSite : s.nextCallSite = s'.nextCallSite
  opened : s.opened.map OpenFunction.heading = s'.opened.map OpenFunction.heading

def AlikeAnswers {α : Type} (a a' : Scan × α) : Prop := a.1.Alike a'.1 ∧ a.2 = a'.2

theorem Alike.cases {s s' : Scan} (h : s.Alike s') :
    s.opened = none ∧ s'.opened = none ∨
      ∃ f f', s.opened = some f ∧ s'.opened = some f' ∧ f.name = f'.name ∧ f.id = f'.id ∧
        f.site.line = f'.site.line := by
  have ho := h.opened
  cases hs : s.opened with
  | none =>
    rw [hs] at ho
    exact .inl ⟨rfl, Option.map_eq_none_iff.mp ho.symm⟩
  | some f =>
    rw [hs] at ho
    obtain ⟨f', hf', he⟩ := Option.map_eq_some_iff.mp ho.symm
    simp only [OpenFunction.heading, Prod.mk.injEq] at he
    exact .inr ⟨f, f', rfl, hf', he.1.symm, he.2.1.symm, he.2.2.symm⟩

variable {o : Options} {s s' : Scan} {place place' : Site}

theorem Alike.lookup? (h : s.Alike s') (name : Text) : s.lookup? name = s'.lookup? name := by
  rw [Scan.lookup?, Scan.lookup?, h.functions]

theorem Alike.openFunction (h : s.Alike s') (hp : place.line = place'.line) (name : Text) :
    AlikeAnswers (s.openFunction o name place) (s'.openFunction o name place') := by
  unfold Scan.openFunction
  rw [h.lookup? name]
  rcases h.cases with ⟨hs, hs'⟩ | ⟨f, f', hs, hs', hname, hid, hline⟩
  · rw [hs, hs']
    cases s'.lookup? name with
    | some first => exact ⟨h, rfl⟩
    | none =>
      simp only [h.nextDefinition, hp]
      refine ⟨⟨?_, rfl, h.nextCallSite, ?_⟩, rfl⟩
      · simp only [h.functions]
      · simp only [Option.map_some, OpenFunction.heading, hp]
  · rw [hs, hs']
    exact ⟨h, by simp only [hname, hline]⟩

theorem Alike.closeFunction (h : s.Alike s') (hp : place.line = place'.line) :
    AlikeAnswers (s.closeFunction o place) (s'.closeFunction o place') := by
  unfold Scan.closeFunction
  rcases h.cases with ⟨hs, hs'⟩ | ⟨f, f', hs, hs', hname, hid, hline⟩
  · rw [hs, hs']
    exact ⟨h, rfl⟩
  · rw [hs, hs']
    simp only [h.nextDefinition, hname, hid, hp]
    split
    · exact ⟨⟨h.functions, rfl, h.nextCallSite, rfl⟩, rfl⟩
    · exact ⟨⟨h.functions, rfl, h.nextCallSite, rfl⟩, rfl⟩

theorem Alike.callWarning (h : s.Alike s') (callee : Text) (line : Nat) :
    s.callWarning o callee line = s'.callWarning o callee line := by
  unfold Scan.callWarning
  rcases h.cases with ⟨hs, hs'⟩ | ⟨f, f', hs, hs', hname, -, -⟩
  · rw [hs, hs']
  · simp only [hs, hs', hname]

theorem Alike.callFunction (h : s.Alike s') (hp : place.line = place'.line) (name : Text)
    (arguments : List Text) :
    AlikeAnswers (s.callFunction o name arguments place)
      (s'.callFunction o name arguments place') := by
  unfold Scan.callFunction
  rw [h.lookup? name]
  cases s'.lookup? name with
  | none => exact ⟨h, rfl⟩
  | some callee =>
    simp only [h.nextCallSite, h.callWarning, hp]
    split
    · exact ⟨⟨h.functions, h.nextDefinition, rfl, h.opened⟩, rfl⟩
    · exact ⟨h, rfl⟩

theorem Alike.obey (h : s.Alike s') (hp : place.line = place'.line) (d : Directive) :
    AlikeAnswers (s.obey o d place) (s'.obey o d place') := by
  cases d with
  | opening name => exact h.openFunction hp name
  | returning value => exact ⟨h, rfl⟩
  | closing => exact h.closeFunction hp
  | calling name arguments => exact h.callFunction hp name arguments

theorem Alike.step (h : s.Alike s') {l l' : SourceLine} (hl : l.Alike o l') :
    AlikeAnswers (s.step o l) (s'.step o l') := by
  unfold Scan.step
  rw [hl.text]
  cases Line.classify (lineText o l') with
  | error missing => exact ⟨h, rfl⟩
  | ok line =>
    cases line with
    | directive d => exact h.obey hl.number d
    | blank | comment t | other t => exact ⟨h, rfl⟩

end Scan

namespace Expander

structure Alike (e e' : Expander) : Prop where
  options : e.options = e'.options
  scan : e.scan.Alike e'.scan
  output : e.output = e'.output
  log : e.log = e'.log

variable {o : Options} {e e' : Expander}

theorem Alike.feed (h : e.Alike e') {l l' : SourceLine} (hl : l.Alike e.options l') :
    (e.feed l).1.Alike (e'.feed l').1 ∧
      (e.feed l).2.map Failure.heading = (e'.feed l').2.map Failure.heading := by
  obtain ⟨hscan, ha⟩ := h.scan.step hl
  unfold Expander.feed
  rw [← h.options]
  generalize e.scan.step e.options l = answer at hscan ha ⊢
  generalize e'.scan.step e.options l' = answer' at hscan ha ⊢
  obtain ⟨scan, r⟩ := answer
  obtain ⟨scan', r'⟩ := answer'
  obtain rfl : r = r' := ha
  cases r with
  | ok emission =>
    exact ⟨⟨rfl, hscan, by simp only [h.output], by simp only [h.log]⟩, rfl⟩
  | error fault =>
    refine ⟨⟨rfl, hscan, h.output, h.log⟩, ?_⟩
    exact congrArg (fun n ↦ some (fault, n)) hl.number

/-- What one step keeps is kept by a run: a relation between two expanders that are fed related lines,
and the equality of what is told of their failures. -/
theorem feedAll_related {α : Type} {f g : Failure → α} {R : Expander → Expander → Prop}
    {P : SourceLine → SourceLine → Prop}
    (hfeed : ∀ {e e' : Expander} {l l' : SourceLine}, R e e' → P l l' →
      R (e.feed l).1 (e'.feed l').1 ∧ (e.feed l).2.map f = (e'.feed l').2.map g)
    {ls ls' : List SourceLine} (hl : List.Forall₂ P ls ls') (h : R e e') :
    R (e.feedAll ls).1 (e'.feedAll ls').1 ∧
      (e.feedAll ls).2.map f = (e'.feedAll ls').2.map g := by
  induction hl generalizing e e' with
  | nil => exact ⟨h, rfl⟩
  | @cons l l' ls ls' hd _ ih =>
    obtain ⟨hr, hfailure⟩ := hfeed h hd
    simp only [Expander.feedAll]
    generalize e.feed l = answer at hr hfailure ⊢
    generalize e'.feed l' = answer' at hr hfailure ⊢
    obtain ⟨next, failure⟩ := answer
    obtain ⟨next', failure'⟩ := answer'
    cases failure <;> cases failure'
    case none.none => exact ih hr
    case some.some => exact ⟨hr, hfailure⟩
    all_goals cases hfailure

theorem options_feed (e : Expander) (l : SourceLine) : (e.feed l).1.options = e.options := by
  unfold Expander.feed
  split <;> rfl

theorem Alike.feedAll {ls ls' : List SourceLine} (h : e.Alike e')
    (hl : List.Forall₂ (SourceLine.Alike e.options) ls ls') :
    (e.feedAll ls).1.Alike (e'.feedAll ls').1 ∧
      (e.feedAll ls).2.map Failure.heading = (e'.feedAll ls').2.map Failure.heading := by
  let R (a b : Expander) : Prop := a.Alike b ∧ a.options = e.options
  have hfeed {a b : Expander} {l l' : SourceLine} (hab : R a b) (hd : l.Alike e.options l') :
      R (a.feed l).1 (b.feed l').1 ∧
        (a.feed l).2.map Failure.heading = (b.feed l').2.map Failure.heading := by
    rw [← hab.2] at hd
    obtain ⟨hnext, hfailure⟩ := hab.1.feed hd
    exact ⟨⟨hnext, (options_feed a l).trans hab.2⟩, hfailure⟩
  obtain ⟨hr, hfailure⟩ := feedAll_related (R := R) hfeed hl ⟨h, rfl⟩
  exact ⟨hr.1, hfailure⟩

theorem Alike.finish (h : e.Alike e') :
    e.finish.mapError Failure.heading = e'.finish.mapError Failure.heading := by
  unfold Expander.finish Scan.unterminated?
  rcases h.scan.cases with ⟨hs, hs'⟩ | ⟨f, f', hs, hs', hname, -, hline⟩
  · simp only [hs, hs', Option.map_none, h.output, h.scan.functions, h.scan.nextCallSite,
      h.options]
  · simp only [hs, hs', Option.map_some, Except.mapError, Failure.heading, hname, hline]

end Expander

section Related

variable {α : Type} {o : Options} {source source' : Source} {s s' : Script} {f g : Failure → α}
  {φ : Expansion → Expansion}

theorem log_expand (hsize : source.text.byteSize ≤ maxOffset) :
    (expand o source s).log = (Expander.feedAll { options := o } s).1.log.toList := by
  rcases hr : Expander.feedAll { options := o } s with ⟨e, _ | failure⟩
  · rw [expand_of_taken hsize hr]
  · rw [expand_of_failure hsize hr]

/-- Runs that fail alike, or end in expanders that finish alike, give related results. -/
theorem expand_related (hsize : source.text.byteSize ≤ maxOffset)
    (hsize' : source'.text.byteSize ≤ maxOffset)
    (hf : (Expander.feedAll { options := o } s).2.map f =
      (Expander.feedAll { options := o } s').2.map g)
    (hfin : ((Expander.feedAll { options := o } s).1.finish.map φ).mapError f =
      (Expander.feedAll { options := o } s').1.finish.mapError g) :
    (∃ x, (expand o source s).result = .ok x ∧ (expand o source' s').result = .ok (φ x)) ∨
      ∃ a b, (expand o source s).result = .error (.failed a source) ∧
        (expand o source' s').result = .error (.failed b source') ∧ f a = g b := by
  rcases hr : Expander.feedAll { options := o } s with ⟨e, _ | failure⟩ <;>
    rcases hr' : Expander.feedAll { options := o } s' with ⟨e', _ | failure'⟩ <;>
    rw [hr, hr'] at hf hfin
  · rw [expand_of_taken hsize hr, expand_of_taken hsize' hr']
    rcases hx : e.finish with failure | x <;> rcases hx' : e'.finish with failure' | x' <;>
      rw [hx, hx'] at hfin
    · exact .inr ⟨failure, failure', rfl, rfl, Except.error.inj hfin⟩
    · cases hfin
    · cases hfin
    · obtain rfl : φ x = x' := Except.ok.inj hfin
      exact .inl ⟨x, rfl, rfl⟩
  · cases hf
  · cases hf
  · rw [expand_of_failure hsize hr, expand_of_failure hsize' hr']
    exact .inr ⟨failure, failure', rfl, rfl, Option.some.inj hf⟩

end Related

end LabelBasic
