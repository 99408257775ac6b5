import LabelBasic.Proofs.Expansion.Outcome
import LabelBasic.Proofs.Expansion.Settings

namespace LabelBasic

/-- What the expander adds to its output when it is fed the line. -/
def Expander.adds (e : Expander) (l : SourceLine) : List OutputLine :=
  (e.feed l).1.output.toList.drop e.output.size

def addedLines (o : Options) (before : Script) (l : SourceLine) : List OutputLine :=
  (Expander.afterEach { options := o } before).adds l

/-- The lines without the first one, if they come from a `FUNC`, and without the last one, if they come
from a `FUNCEND`. -/
def SourceLine.withoutMarker (l : SourceLine) (added : List OutputLine) : List OutputLine :=
  match l.keyword? with
  | some .func => added.tail
  | some .funcEnd => added.dropLast
  | _ => added

def OutputLine.isMarker : OutputLine → Bool
  | generated (.beginMarker _) | generated .endMarker => true
  | _ => false

/-- The two results of a script, each with its settings, for settings that trim alike. -/
structure Expansion.Varies (o o' : Options) (s : Script) (x x' : Expansion) : Prop where
  functions : x.functions = x'.functions
  callSites : x.callSites = x'.callSites
  lines : o.markers = o'.markers → x.lines = x'.lines
  added : x.lines = gather (addedLines o) s
  unmarked : o.markers = true → o'.markers = false →
    x'.lines = gather (fun before l ↦ l.withoutMarker (addedLines o before l)) s
  markers : o.markers = true → o'.markers = false →
    x'.lines = x.lines.filter (fun y ↦ !y.isMarker) ∧
      x.lines.length = x'.lines.length + 2 * x.functions.length
  render : o.markers = o'.markers → o'.trailingNewline = false →
    x.render = x'.render ++ if o.trailingNewline ∧ x.lines ≠ [] then ['\n'] else []

namespace Script

variable {o o' : Options} {s before : Script} {l : SourceLine}

theorem afterEach_of_faultless (o : Options) (hs : Faultless s) (hr : HasNumbers s) :
    Expander.afterEach { options := o } s = s.expander o := by
  induction s using List.reverseRecOn with
  | nil => rfl
  | append_singleton s l ih =>
    have hl := feed_expander o hs (hr s l [] rfl)
    rw [Expander.afterEach_append, ih hs.of_append hr.of_append, Expander.afterEach_cons, hl]
    rfl

theorem addedLines_of_faultless (o : Options) (hs : Faultless (s ++ [l]))
    (hr : HasNumbers (s ++ [l])) : addedLines o s l = lineOutput o s l := by
  rw [addedLines, afterEach_of_faultless o hs.of_append hr.of_append, Expander.adds,
    feed_expander o hs (hr s l [] rfl)]
  simp [expander, gather_append_singleton]

theorem gather_addedLines (o : Options) (hs : Faultless s) (hr : HasNumbers s)
    (f : Script → SourceLine → List OutputLine → List OutputLine) :
    gather (fun before l ↦ f before l (addedLines o before l)) s =
      gather (fun before l ↦ f before l (lineOutput o before l)) s := by
  apply gather_congr
  rintro before l after rfl
  rw [List.append_cons] at hs hr
  simp only [addedLines_of_faultless o hs.of_append hr.of_append]

theorem lineOutput_congr (ht : o.trimLines = o'.trimLines) (hm : o.markers = o'.markers)
    (before : Script) (l : SourceLine) : lineOutput o before l = lineOutput o' before l := by
  simp only [lineOutput, Scan.lineText, ht, hm]

theorem filter_callingCode (id site : Nat) (arguments : List Text) :
    ((Scan.callingCode id site arguments).map OutputLine.generated).filter (fun y ↦ !y.isMarker) =
      (Scan.callingCode id site arguments).map .generated := by
  apply List.filter_eq_self.mpr
  intro y hy
  obtain ⟨i, hi, rfl⟩ := List.mem_map.mp hy
  simp only [Scan.callingCode, List.mem_append, List.mem_map, List.mem_cons, List.not_mem_nil,
    or_false] at hi
  rcases hi with ⟨a, -, rfl⟩ | rfl | rfl | rfl <;> rfl

theorem lineOutput_markers (ht : o.trimLines = o'.trimLines) (hm : o.markers = true)
    (hm' : o'.markers = false) (before : Script) (hl : ∀ k, ¬ l.LacksOperand k) :
    l.withoutMarker (lineOutput o before l) = lineOutput o' before l ∧
      (lineOutput o before l).filter (fun y ↦ !y.isMarker) = lineOutput o' before l ∧
      (lineOutput o before l).length = (lineOutput o' before l).length +
        (numberOf .func [l] + numberOf .funcEnd [l]) := by
  rcases l.reading_cases with h | ⟨k, h⟩ | ⟨n, h⟩ | ⟨v, h⟩ | h | ⟨n, arguments, h⟩
  · rw [lineOutput_of_plain o before h, lineOutput_of_plain o' before h, Scan.lineText, ht,
      Scan.lineText]
    simp [SourceLine.withoutMarker, numberOf_cons, h, OutputLine.isMarker]
  · exact absurd h (hl k)
  · rw [lineOutput_of_defines o before h, lineOutput_of_defines o' before h, hm, hm']
    simp [SourceLine.withoutMarker, numberOf_cons, h.1, Scan.openingCode, OutputLine.isMarker]
  · rw [lineOutput_of_returns o before h, lineOutput_of_returns o' before h]
    simp [SourceLine.withoutMarker, numberOf_cons, h.1, Scan.returningCode, OutputLine.isMarker]
  · rw [lineOutput_of_closes o before h, lineOutput_of_closes o' before h, hm, hm']
    simp [SourceLine.withoutMarker, numberOf_cons, h, Scan.closingCode, OutputLine.isMarker]
  · rw [lineOutput_of_calls o before h, lineOutput_of_calls o' before h, filter_callingCode]
    simp [SourceLine.withoutMarker, numberOf_cons, h.1]

theorem length_markers (ht : o.trimLines = o'.trimLines) (hm : o.markers = true)
    (hm' : o'.markers = false) (hs : Faultless s) :
    (gather (lineOutput o) s).length = (gather (lineOutput o') s).length +
      (numberOf .func s + numberOf .funcEnd s) := by
  induction s using List.reverseRecOn with
  | nil => rfl
  | append_singleton s l ih =>
    have hs' := ih hs.of_append
    obtain ⟨-, -, hl⟩ := lineOutput_markers ht hm hm' s (hs.not_lacksOperand (l := l) (by simp))
    rw [gather_append_singleton, gather_append_singleton, List.length_append, List.length_append,
      numberOf_append, numberOf_append]
    omega

theorem lines_congr (ht : o.trimLines = o'.trimLines) (hm : o.markers = o'.markers) (s : Script) :
    (s.expansion o).lines = (s.expansion o').lines :=
  gather_congr fun before l _ _ ↦ lineOutput_congr ht hm before l

theorem lineEvents_congr (hw : o.warnNestedCalls = o'.warnNestedCalls) (before : Script)
    (l : SourceLine) : lineEvents o before l = lineEvents o' before l := by
  simp only [lineEvents, hw]

theorem lineEvents_warnings (hw : o.warnNestedCalls = true) (hw' : o'.warnNestedCalls = false)
    (before : Script) (l : SourceLine) :
    (lineEvents o before l).filter (fun e ↦ e.level ≠ .warn) = lineEvents o' before l := by
  unfold lineEvents
  rw [hw, hw']
  generalize before.openFunction? = f
  split
  · rfl
  · cases f <;> rfl
  · cases f <;> rfl
  · rfl

theorem expansion_varies (ht : o.trimLines = o'.trimLines) (hs : Faultless s) (ho : ¬ s.IsOpen)
    (hr : HasNumbers s) : Expansion.Varies o o' s (s.expansion o) (s.expansion o') := by
  refine ⟨rfl, rfl, fun hm ↦ lines_congr ht hm s, ?_, ?_, ?_, ?_⟩
  · exact (gather_addedLines o hs hr fun _ _ added ↦ added).symm
  · intro hm hm'
    rw [gather_addedLines o hs hr fun _ l ↦ l.withoutMarker]
    apply gather_congr
    rintro before l after rfl
    exact (lineOutput_markers ht hm hm' before (hs.not_lacksOperand (by simp))).1.symm
  · intro hm hm'
    constructor
    · rw [expansion, expansion, filter_gather]
      apply gather_congr
      rintro before l after rfl
      exact (lineOutput_markers ht hm hm' before (hs.not_lacksOperand (by simp))).2.1.symm
    · have hlength := length_markers ht hm hm' hs
      have hfunctions := length_functions hs
      have hb := hs.balance
      unfold IsOpen at ho
      change (gather (lineOutput o) s).length =
        (gather (lineOutput o') s).length + 2 * (gather definition s).length
      omega
  · intro hm hn'
    have hlines := lines_congr ht hm s
    have hn : (s.expansion o).trailingNewline = o.trailingNewline := rfl
    have hoff : (s.expansion o').trailingNewline = false := hn'
    rw [Expansion.render, Expansion.render, Expansion.texts, Expansion.texts, hlines, hn, hoff]
    simp

end Script

open Script

/-- Settings that trim alike give the same error, or the same functions and calls, whatever else they
say. They decide which lines are markers, whether a line feed ends the output and which events are
warnings, and nothing else. -/
theorem expandSource_settings {o o' : Options} (ht : o.trimLines = o'.trimLines) (source : Source) :
    let run := expandSource o source
    let run' := expandSource o' source
    ((∃ e, run.result = .error e ∧ run'.result = .error e) ∨
      ∃ x x', run.result = .ok x ∧ run'.result = .ok x' ∧
        x.Varies o o' (sourceLines source.text) x') ∧
    (o.warnNestedCalls = o'.warnNestedCalls → run'.log = run.log) ∧
    (o.warnNestedCalls = true → o'.warnNestedCalls = false →
      run'.log = run.log.filter fun e ↦ e.level ≠ .warn) := by
  intro run run'
  have hlog : ∀ s : Script, (o.warnNestedCalls = o'.warnNestedCalls →
      gather (lineEvents o') s = gather (lineEvents o) s) ∧
      (o.warnNestedCalls = true → o'.warnNestedCalls = false →
        gather (lineEvents o') s = (gather (lineEvents o) s).filter fun e ↦ e.level ≠ .warn) := by
    intro s
    constructor
    · intro hw
      exact gather_congr fun before l _ _ ↦ (lineEvents_congr hw before l).symm
    · intro hw hw'
      rw [filter_gather]
      exact gather_congr fun before l _ _ ↦ (lineEvents_warnings hw hw' before l).symm
  have hr := @hasNumbers_sourceLines source.text
  obtain ⟨e, taken, h⟩ | ⟨hs, h⟩ := expand_uniform hr
  · rw [show run = _ from h o, show run' = _ from h o']
    exact ⟨.inl ⟨e, rfl, rfl⟩, hlog taken⟩
  · have hx : run.result = .ok (expansion o (sourceLines source.text)) := by
      rw [show run = _ from h o]
    obtain ⟨hsize, -, ho, -⟩ := expand_eq_ok hx
    rw [show run = _ from h o, show run' = _ from h o']
    exact ⟨.inr ⟨_, _, rfl, rfl, expansion_varies ht hs ho (hr hsize)⟩, hlog _⟩

def commentedScript : Source where
  name := "a.lb".toList
  text := "# FUNC A\nFUNC A\n# FUNCEND\nCALLFUNC A\nFUNCEND\n# FUNCEND".toList

theorem expandSource_settings_comments :
    let o : Options := { markers := false, trailingNewline := false, warnNestedCalls := false }
    let x := expansion {} (sourceLines commentedScript.text)
    let x' := expansion o (sourceLines commentedScript.text)
    x.texts.length = 12 ∧
      x'.texts = ["# FUNC A", "GOTO SKIPFUNC0", "LBL FUNC0", "# FUNCEND",
        "SETVAL FUNCRTNGOTO FUNCRTNGOTO0", "GOTO FUNC0", "LBL FUNCRTNGOTO0", "GOTO $FUNCRTNGOTO",
        "LBL SKIPFUNC0", "# FUNCEND"].map String.toList ∧
      (expandSource {} commentedScript).result = .ok x ∧
      (expandSource o commentedScript).result = .ok x' ∧
      x.Varies {} o (sourceLines commentedScript.text) x' ∧
      (expandSource o commentedScript).log =
        (expandSource {} commentedScript).log.filter fun e ↦ e.level ≠ .warn := by
  intro o x x'
  have hx : (expandSource {} commentedScript).result = .ok x := by decide +kernel
  obtain ⟨⟨e, he, -⟩ | ⟨y, y', hy, hy', hv⟩, -, hlog⟩ :=
    @expandSource_settings {} o rfl commentedScript
  · rw [hx] at he
    cases he
  · obtain ⟨-, -, -, rfl, -⟩ := expand_eq_ok hy
    obtain ⟨-, -, -, rfl, -⟩ := expand_eq_ok hy'
    exact ⟨by decide +kernel, by decide +kernel, hx, hy', hv, hlog rfl rfl⟩

end LabelBasic
