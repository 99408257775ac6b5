import LabelBasic.Proofs.Expansion.Lockstep
import LabelBasic.Proofs.Expansion.Outcome
import LabelBasic.Proofs.Source.Renaming

namespace LabelBasic

def Definition.rename (r : Text → Text) (d : Definition) : Definition := { d with name := r d.name }

def OpenFunction.rename (r : Text → Text) (f : OpenFunction) : OpenFunction :=
  { f with name := r f.name }

def Fault.rename (r : Text → Text) : Fault → Fault
  | nestedFunction name outer outerLine => nestedFunction (r name) (r outer) outerLine
  | duplicateFunction name firstLine => duplicateFunction (r name) firstLine
  | unmatchedEnd => unmatchedEnd
  | undefinedFunction name => undefinedFunction (r name)
  | unterminatedFunction name => unterminatedFunction (r name)
  | missingOperand missing => missingOperand missing
  | labelOverflow counter => labelOverflow counter

def Failure.rename (r : Text → Text) (f : Failure) : Failure := { f with fault := f.fault.rename r }

def Event.rename (r : Text → Text) : Event → Event
  | functionOpened name id line => functionOpened (r name) id line
  | functionClosed name id line => functionClosed (r name) id line
  | nestedCall line caller callee => nestedCall line (r caller) (r callee)
  | callExpanded callee resume line => callExpanded (r callee) resume line
  | expansionFinished input functions callSites lines =>
    expansionFinished input functions callSites lines

/-- Of the lines of the output only the markers before the bodies have function names in them. -/
def Instruction.rename (r : Text → Text) : Instruction → Instruction
  | beginMarker name => beginMarker (r name)
  | i => i

def OutputLine.rename (r : Text → Text) : OutputLine → OutputLine
  | copied t => copied t
  | generated i => generated (i.rename r)

def Emission.rename (r : Text → Text) (e : Emission) : Emission where
  lines := e.lines.map (.rename r)
  events := e.events.map (.rename r)

def Expansion.rename (r : Text → Text) (x : Expansion) : Expansion :=
  { x with lines := x.lines.map (.rename r), functions := x.functions.map (.rename r) }

def Scan.rename (r : Text → Text) (s : Scan) : Scan :=
  { s with functions := s.functions.map (.rename r), opened := s.opened.map (.rename r) }

def Expander.rename (r : Text → Text) (e : Expander) : Expander :=
  { e with scan := e.scan.rename r, output := e.output.map (.rename r), log := e.log.map (.rename r) }

section Code

open Scan

variable (r : Text → Text)

theorem rename_openingCode (markers : Bool) (name : Text) (id : Nat) :
    (openingCode markers name id).map (Instruction.rename r) = openingCode markers (r name) id := by
  cases markers <;> rfl

theorem rename_closingCode (markers : Bool) (id : Nat) :
    (closingCode markers id).map (Instruction.rename r) = closingCode markers id := by
  cases markers <;> rfl

theorem rename_callingCode (id site : Nat) (arguments : List Text) :
    (callingCode id site arguments).map (Instruction.rename r) = callingCode id site arguments := by
  simp only [callingCode, List.map_append, List.map_map]
  rfl

theorem rename_ofCode (code : List Instruction) (events : List Event) :
    (Emission.ofCode code events).rename r =
      .ofCode (code.map (.rename r)) (events.map (.rename r)) := by
  simp only [Emission.rename, Emission.ofCode, List.map_map]
  rfl

end Code

namespace Scan

def renameAnswer (r : Text → Text) (a : Scan × Except Fault Emission) :
    Scan × Except Fault Emission :=
  (a.1.rename r, (a.2.map (.rename r)).mapError (.rename r))

def NamedFrom (names : List Text) (s : Scan) : Prop := ∀ d ∈ s.functions, d.name ∈ names

variable {r : Text → Text} {names : List Text} {o : Options} {s s' : Scan} {n : Text}
  {l l' : SourceLine}

theorem closeFunction_rename (site : Site) :
    (s.rename r).closeFunction o site = renameAnswer r (s.closeFunction o site) := by
  unfold closeFunction
  obtain ⟨functions, next, calls, opened⟩ := s
  cases opened with
  | none => rfl
  | some f =>
    change (if next < maxLabel then _ else _) = renameAnswer r (if next < maxLabel then _ else _)
    split
    · simp only [renameAnswer, Except.map, Except.mapError, rename_ofCode, rename_closingCode]
      rfl
    · rfl

theorem callWarning_rename (line : Nat) :
    (s.rename r).callWarning o (r n) line = (s.callWarning o n line).map (.rename r) := by
  unfold callWarning
  obtain ⟨functions, next, calls, opened⟩ := s
  cases opened with
  | none => rfl
  | some f =>
    simp only [rename, Option.map_some]
    split <;> rfl

theorem NamedFrom.step (hs : s.NamedFrom names) (hl : ∀ n, l.Defines n → n ∈ names) :
    (s.step o l).1.NamedFrom names := by
  have hstep := outcome_step o s l
  generalize s.step o l = answer at hstep ⊢
  cases hstep with
  | opened h =>
    intro d hd
    rcases List.mem_append.mp hd with hd | hd
    · exact hs d hd
    · rw [List.mem_singleton.mp hd]
      exact hl _ h
  | copied | returned | closed | called | refused | abandoned => exact hs

section Injective

variable (hr : ∀ m ∈ names, ∀ n ∈ names, r m = r n → m = n)

include hr

theorem find?_rename (hn : n ∈ names) {ds : List Definition} (hd : ∀ d ∈ ds, d.name ∈ names) :
    (ds.map (Definition.rename r)).find? (fun d ↦ d.name == r n) =
      (ds.find? fun d ↦ d.name == n).map (Definition.rename r) := by
  induction ds with
  | nil => rfl
  | cons d ds ih =>
    rw [List.forall_mem_cons] at hd
    have hname : ((d.rename r).name == r n) = (d.name == n) := by
      rw [Bool.eq_iff_iff, beq_iff_eq, beq_iff_eq]
      exact ⟨hr d.name hd.1 n hn, congrArg r⟩
    rw [List.map_cons, List.find?_cons, List.find?_cons, hname, ih hd.2]
    cases d.name == n <;> rfl

theorem lookup?_rename (hs : s.NamedFrom names) (hn : n ∈ names) :
    (s.rename r).lookup? (r n) = (s.lookup? n).map (.rename r) :=
  find?_rename hr hn hs

theorem openFunction_rename (hs : s.NamedFrom names) (hn : n ∈ names) (site : Site) :
    (s.rename r).openFunction o (r n) site = renameAnswer r (s.openFunction o n site) := by
  unfold openFunction
  rw [lookup?_rename hr hs hn]
  generalize s.lookup? n = first
  obtain ⟨functions, next, calls, opened⟩ := s
  cases opened with
  | some f => rfl
  | none =>
    cases first with
    | some d => rfl
    | none =>
      simp only [rename, renameAnswer, Except.map, Except.mapError, rename_ofCode,
        rename_openingCode, List.map_append, Option.map_none, Option.map_some]
      rfl

theorem callFunction_rename (hs : s.NamedFrom names) (hn : n ∈ names) (arguments : List Text)
    (site : Site) :
    (s.rename r).callFunction o (r n) arguments site =
      renameAnswer r (s.callFunction o n arguments site) := by
  unfold callFunction
  rw [lookup?_rename hr hs hn, callWarning_rename]
  cases s.lookup? n with
  | none => rfl
  | some d =>
    have hnext : (s.rename r).nextCallSite = s.nextCallSite := rfl
    simp only [Option.map_some, hnext]
    split
    · simp only [renameAnswer, Except.map, Except.mapError, rename_ofCode, rename_callingCode,
        List.map_append]
      rfl
    · rfl

/-- A line with another name has the answer with the other names. -/
theorem step_renamed (hs : s.NamedFrom names) (h : (s.rename r).Alike s')
    (hl : l.Renamed r names l') :
    AlikeAnswers (renameAnswer r (s.step o l)) (s'.step o l') := by
  have hsite : l.site.line = l'.site.line := hl.number.symm
  have hkept (hn : l.keyword? = some .func ∨ l.keyword? = some .callFunc → l.operands = [])
      (ha : (s.rename r).step o l = renameAnswer r (s.step o l)) :
      AlikeAnswers (renameAnswer r (s.step o l)) (s'.step o l') := by
    rw [← ha]
    exact h.step ⟨hl.number.symm, by simp only [lineText, hl.text_eq hn]⟩
  rcases l.reading_cases with hk | ⟨k, hk⟩ | ⟨n, hk⟩ | ⟨v, hk⟩ | hk | ⟨n, arguments, hk⟩
  · apply hkept
    · simp [hk]
    · rw [step_of_plain o _ hk, step_of_plain o _ hk]
      rfl
  · apply hkept
    · exact fun _ ↦ hk.2.2
    · rw [step_of_lacksOperand o _ hk, step_of_lacksOperand o _ hk]
      rfl
  · obtain ⟨hn, hl'⟩ := hl.defines hk
    rw [step_of_defines o _ hk, step_of_defines o _ hl', ← openFunction_rename hr hs hn]
    exact h.openFunction hsite (r n)
  · apply hkept
    · simp [hk.1]
    · rw [step_of_returns o _ hk, step_of_returns o _ hk]
      rfl
  · apply hkept
    · simp [hk]
    · rw [step_of_closes o _ hk, step_of_closes o _ hk, closeFunction_rename]
  · obtain ⟨hn, hl'⟩ := hl.calls hk
    rw [step_of_calls o _ hk, step_of_calls o _ hl', ← callFunction_rename hr hs hn]
    exact h.callFunction hsite (r n) arguments

end Injective

end Scan

theorem mapError_mapError {ε δ γ α : Type} (f : ε → δ) (g : δ → γ) (x : Except ε α) :
    (x.mapError f).mapError g = x.mapError fun e ↦ g (f e) := by
  cases x <;> rfl

theorem map_appendList {α β : Type} (f : α → β) (a : Array α) (l : List α) :
    (a ++ l).map f = a.map f ++ l.map f := by
  apply Array.toList_inj.mp
  simp only [Array.toList_map, Array.toList_appendList, List.map_append]

namespace Expander

variable {r : Text → Text} {names : List Text} {e e' : Expander} {l l' : SourceLine}

theorem feed_renamed (hr : ∀ m ∈ names, ∀ n ∈ names, r m = r n → m = n)
    (hs : e.scan.NamedFrom names) (h : (e.rename r).Alike e') (hl : l.Renamed r names l') :
    (e.feed l).1.scan.NamedFrom names ∧ ((e.feed l).1.rename r).Alike (e'.feed l').1 ∧
      (e.feed l).2.map (fun f ↦ (f.rename r).heading) = (e'.feed l').2.map Failure.heading := by
  have hnamed : (e.scan.step e.options l).1.NamedFrom names :=
    hs.step fun n hn ↦ (hl.defines hn).1
  obtain ⟨hscan, ha⟩ := @Scan.step_renamed r names e.options e.scan e'.scan l l' hr hs h.scan hl
  have hoptions : e'.options = e.options := h.options.symm
  unfold Expander.feed
  rw [hoptions]
  generalize e.scan.step e.options l = answer at hnamed hscan ha ⊢
  generalize e'.scan.step e.options l' = answer' at hscan ha ⊢
  obtain ⟨scan, result⟩ := answer
  obtain ⟨scan', result'⟩ := answer'
  cases result with
  | ok emission =>
    obtain rfl : .ok (emission.rename r) = result' := ha
    refine ⟨hnamed, ⟨rfl, hscan, ?_, ?_⟩, rfl⟩
    · have ho : e.output.map (.rename r) = e'.output := h.output
      simp only [Expander.rename, Emission.rename, ← ho, map_appendList]
    · have hl : e.log.map (.rename r) = e'.log := h.log
      simp only [Expander.rename, Emission.rename, ← hl, map_appendList]
  | error fault =>
    obtain rfl : .error (fault.rename r) = result' := ha
    refine ⟨hnamed, ⟨rfl, hscan, h.output, h.log⟩, ?_⟩
    exact congrArg (fun n ↦ some (fault.rename r, n)) hl.number.symm

theorem feedAll_renamed (hr : ∀ m ∈ names, ∀ n ∈ names, r m = r n → m = n)
    {ls ls' : List SourceLine} (hl : List.Forall₂ (SourceLine.Renamed r names) ls ls')
    (hs : e.scan.NamedFrom names) (h : (e.rename r).Alike e') :
    ((e.feedAll ls).1.rename r).Alike (e'.feedAll ls').1 ∧
      (e.feedAll ls).2.map (fun f ↦ (f.rename r).heading) =
        (e'.feedAll ls').2.map Failure.heading := by
  let R (a b : Expander) : Prop := a.scan.NamedFrom names ∧ (a.rename r).Alike b
  have hfeed {a b : Expander} {l l' : SourceLine} (hab : R a b) (hd : l.Renamed r names l') :
      R (a.feed l).1 (b.feed l').1 ∧
        (a.feed l).2.map (fun f ↦ (f.rename r).heading) = (b.feed l').2.map Failure.heading := by
    obtain ⟨hnamed, hnext, hfailure⟩ := feed_renamed hr hab.1 hab.2 hd
    exact ⟨⟨hnamed, hnext⟩, hfailure⟩
  obtain ⟨hab, hfailure⟩ := feedAll_related (R := R) hfeed hl ⟨hs, h⟩
  exact ⟨hab.2, hfailure⟩

theorem finish_rename (e : Expander) :
    (e.rename r).finish = (e.finish.map (.rename r)).mapError (.rename r) := by
  obtain ⟨options, ⟨functions, next, calls, opened⟩, output, log⟩ := e
  cases opened with
  | some f => rfl
  | none =>
    simp only [finish, Scan.unterminated?, rename, Scan.rename, Option.map_none, Except.map,
      Except.mapError, Expansion.rename, Array.toList_map]

end Expander

section Sources

variable {r : Text → Text} {names : List Text} {o : Options} {source source' : Source}
  {s s' : Script}

/-- The results agree up to the names, and so do the errors, but for the bytes they point at. -/
inductive RenamedResult (r : Text → Text) (source source' : Source) :
    Except ExpansionError Expansion → Except ExpansionError Expansion → Prop
  | expanded (x : Expansion) : RenamedResult r source source' (.ok x) (.ok (x.rename r))
  | failed {f f' : Failure} (hf : f'.fault = f.fault.rename r) (hl : f'.site.line = f.site.line) :
      RenamedResult r source source' (.error (.failed f source)) (.error (.failed f' source'))

theorem expand_renamed (hr : ∀ m ∈ names, ∀ n ∈ names, r m = r n → m = n)
    (hl : List.Forall₂ (SourceLine.Renamed r names) s s')
    (hsize : source.text.byteSize ≤ maxOffset) (hsize' : source'.text.byteSize ≤ maxOffset) :
    (expand o source' s').log = (expand o source s).log.map (.rename r) ∧
      RenamedResult r source source' (expand o source s).result (expand o source' s').result := by
  have hstart : (Expander.rename r { options := o }).Alike { options := o } :=
    ⟨rfl, ⟨rfl, rfl, rfl, rfl⟩, Array.map_empty, Array.map_empty⟩
  have hnamed : Scan.NamedFrom names {} := fun d hd ↦ absurd hd List.not_mem_nil
  obtain ⟨ha, hf⟩ := Expander.feedAll_renamed hr hl hnamed hstart
  have hfin := ha.finish
  rw [Expander.finish_rename, mapError_mapError] at hfin
  constructor
  · rw [log_expand hsize, log_expand hsize', ← Array.toList_map]
    exact congrArg Array.toList ha.log.symm
  · rcases expand_related hsize hsize' hf hfin with ⟨x, hx, hx'⟩ | ⟨f, f', hx, hx', hh⟩
    · rw [hx, hx']
      exact .expanded x
    · rw [hx, hx']
      obtain ⟨hfault, hline⟩ := Prod.mk.inj hh
      exact .failed hfault.symm hline.symm

theorem map_rename_lines (ho : o.markers = false) (s : Script) :
    (s.expansion o).lines.map (.rename r) = (s.expansion o).lines := by
  have hcode (code : List Instruction) (h : code.map (Instruction.rename r) = code) :
      (code.map OutputLine.generated).map (OutputLine.rename r) = code.map .generated := by
    conv_rhs => rw [← h]
    rw [List.map_map, List.map_map]
    rfl
  rw [Script.expansion, map_gather]
  apply gather_congr
  intro before l after _
  unfold Script.lineOutput
  rw [ho]
  split
  · exact hcode _ (rename_openingCode r false _ _)
  · rfl
  · exact hcode _ (rename_closingCode r false _)
  · exact hcode _ (rename_callingCode r _ _ _)
  · rfl

/-- Other names give the same expansion and the same failures, up to the names. The places of
failures in the source may differ, but not their lines. -/
theorem expandSource_renameFunctions (o : Options) {source : Source}
    (hr : ∀ m ∈ source.text.functionNames, ∀ n ∈ source.text.functionNames, r m = r n → m = n)
    (hw : ∀ n ∈ source.text.functionNames, Text.IsWord (r n))
    (hsize : source.text.byteSize ≤ maxOffset)
    (hsize' : (source.text.renameFunctions r).byteSize ≤ maxOffset) :
    let source' : Source := { source with text := source.text.renameFunctions r }
    let run := expandSource o source
    let run' := expandSource o source'
    RenamedResult r source source' run.result run'.result ∧
      run'.log = run.log.map (.rename r) ∧
      (o.markers = false →
        ∀ x x', run.result = .ok x → run'.result = .ok x' → x'.lines = x.lines) := by
  intro source' run run'
  have hl := sourceLines_renameFunctions hw
  obtain ⟨hlog, hresult⟩ := @expand_renamed r _ o source source' _ _ hr hl hsize hsize'
  refine ⟨hresult, hlog, ?_⟩
  intro ho x x' hx hx'
  obtain ⟨-, -, -, rfl, -⟩ := expand_eq_ok hx
  change RenamedResult r source source' run.result run'.result at hresult
  rw [hx, hx'] at hresult
  cases hresult
  exact map_rename_lines ho _

end Sources

theorem expandSource_renameFunctions_reserved :
    let r : Text → Text := fun n ↦ if n = ['A'] then "FUNC".toList else "#SKIPFUNC1".toList
    let text : Text :=
      "FUNC A\n CALLFUNC A A\n# FUNC A\nFUNCEND\nFUNC FUNC0\nFUNCEND\nCALLFUNC FUNC0".toList
    let text' : Text :=
      "FUNC FUNC\n CALLFUNC FUNC A\n# FUNC A\nFUNCEND\nFUNC #SKIPFUNC1\nFUNCEND\nCALLFUNC #SKIPFUNC1".toList
    let source : Source := ⟨"a.lb".toList, text⟩
    let source' : Source := ⟨"a.lb".toList, text'⟩
    text.functionNames = ["A", "A", "FUNC0", "FUNC0"].map String.toList ∧
      text.renameFunctions r = text' ∧
      RenamedResult r source source' (expandSource {} source).result
        (expandSource {} source').result ∧
      (expandSource {} source').result.map Expansion.functions =
        .ok [⟨"FUNC".toList, 0, 1⟩, ⟨"#SKIPFUNC1".toList, 1, 5⟩] := by
  intro r text text' source source'
  have hnames : text.functionNames = ["A", "A", "FUNC0", "FUNC0"].map String.toList := by
    decide +kernel
  have htext : text.renameFunctions r = text' := by decide +kernel
  have hr : ∀ m ∈ text.functionNames, ∀ n ∈ text.functionNames, r m = r n → m = n := by
    rw [hnames]
    decide
  have hw : ∀ n ∈ text.functionNames, Text.IsWord (r n) := by
    rw [hnames]
    decide
  have hsize' : (text.renameFunctions r).byteSize ≤ maxOffset := by
    rw [htext]
    decide
  obtain ⟨hresult, -, -⟩ := @expandSource_renameFunctions r {} source hr hw (by decide) hsize'
  rw [htext] at hresult
  exact ⟨hnames, htext, hresult, by decide +kernel⟩

end LabelBasic
