import LabelBasic.Proofs.Expansion.Labels
import LabelBasic.Proofs.Expansion.Run
import LabelBasic.Proofs.Script.Grammar
import LabelBasic.Proofs.Machine.Structured

namespace LabelBasic

namespace Script

open SourceLine StateTransition
open Machine (Program Command Harmless find? step)

def commands (o : Options) (before : Script) (l : SourceLine) : Program :=
  (lineOutput o before l).map fun y ↦ .ofText y.text

/-- The commands of the lines `t` when they come after the lines `before`. -/
def commandsAfter (o : Options) (before t : Script) : Program :=
  gather (fun c ↦ commands o (before ++ c)) t

def idle (markers : Bool) : Program := if markers then [.nothing] else []

variable {o : Options} {s before rest : Script} {l : SourceLine}

theorem commandsAfter_cons (o : Options) (before : Script) (l : SourceLine) (t : Script) :
    commandsAfter o before (l :: t) = commands o before l ++ commandsAfter o (before ++ [l]) t := by
  rw [commandsAfter, gather, List.append_nil]
  simp only [commandsAfter, List.append_assoc, List.singleton_append]

theorem commandsAfter_append (o : Options) (before s t : Script) :
    commandsAfter o before (s ++ t) =
      commandsAfter o before s ++ commandsAfter o (before ++ s) t := by
  simp only [commandsAfter, gather_append, List.append_assoc]

theorem load_expansion (o : Options) (s : Script) :
    Machine.load (s.expansion o) = commandsAfter o [] s := by
  rw [Machine.load, Expansion.texts, expansion, List.map_map, map_gather]
  rfl

theorem eq_nothing_of_mem_idle {markers : Bool} : ∀ c ∈ idle markers, c = .nothing := by
  cases markers <;> simp [idle]

theorem commands_of_plain (before : Script) (h : l.keyword? = none) :
    commands o before l = [.ofText (Scan.lineText o l)] := by
  rw [commands, lineOutput_of_plain o before h]
  rfl

theorem commands_of_defines {n : Text} (before : Script) (h : l.Defines n) :
    commands o before l = idle o.markers ++
      [.jump (Label.skip (numberOf .func before)).spelling,
        .label (Label.entry (numberOf .func before)).spelling] := by
  have hm : Command.ofText (Instruction.beginMarker n).render = .nothing := if_pos rfl
  rw [commands, lineOutput_of_defines o before h, Scan.openingCode, idle]
  cases o.markers <;>
    simp [OutputLine.text, hm, Machine.ofText_goto, Machine.ofText_label]

theorem commands_of_returns {v : Text} (before : Script) (h : l.Returns v) :
    commands o before l = [.perform ("SETVAL FUNCRTN ".toList ++ v), .jumpBack] := by
  rw [commands, lineOutput_of_returns o before h, Scan.returningCode]
  simp only [List.map_cons, List.map_nil, OutputLine.text, Machine.ofText_returnValue,
    Machine.ofText_gotoIndirect]

theorem commands_of_closes (before : Script) (h : l.keyword? = some .funcEnd) :
    commands o before l =
      [.jumpBack, .label (Label.skip (numberOf .func before - 1)).spelling] ++ idle o.markers := by
  have hm : Command.ofText Instruction.endMarker.render = .nothing := if_pos rfl
  rw [commands, lineOutput_of_closes o before h, Scan.closingCode, idle]
  cases o.markers <;>
    simp [OutputLine.text, hm, Machine.ofText_gotoIndirect, Machine.ofText_label]

theorem commands_of_calls {n : Text} {arguments : List Text} (before : Script)
    (h : l.Calls n arguments) :
    commands o before l = (settings arguments).map .perform ++
      [.store (Label.resume (numberOf .callFunc before)).spelling,
        .jump (Label.entry (position n before)).spelling,
        .label (Label.resume (numberOf .callFunc before)).spelling] := by
  rw [commands, lineOutput_of_calls o before h, Scan.callingCode, settings]
  simp only [List.map_append, List.map_map, List.map_cons, List.map_nil, OutputLine.text,
    Machine.ofText_store, Machine.ofText_goto, Machine.ofText_label]
  congr 1
  exact List.map_congr_left fun a _ ↦ Machine.ofText_parameter (a.2 + 1) a.1

/-- A script whose functions keep the slot: no body calls, and nothing but a body gives back a
value. -/
structure Straight (s : Script) : Prop where
  faultless : Faultless s
  closed : ¬ s.IsOpen
  plain : ∀ l ∈ s, l.keyword? = none → Harmless l.text.words
  returns : ∀ before l after, s = before ++ l :: after → l.keyword? = some .funcRtn →
    IsOpen before
  calls : ∀ before l after, s = before ++ l :: after → l.keyword? = some .callFunc →
    ¬ IsOpen before

theorem filterMap_idle (markers : Bool) : (idle markers).filterMap Command.label? = [] := by
  cases markers <;> rfl

theorem filterMap_label?_commands (before : Script) (hk : ∀ k, ¬ l.LacksOperand k)
    (hp : l.keyword? = none → Harmless l.text.words) :
    (commands o before l).filterMap Command.label? =
      (lineLabels before l).map Label.spelling := by
  rcases l.reading_cases with h | ⟨k, h⟩ | ⟨n, h⟩ | ⟨v, h⟩ | h | ⟨n, arguments, h⟩
  · have hw : Harmless (Scan.lineText o l).words := by
      rw [Scan.words_lineText]
      exact hp h
    rw [commands_of_plain before h, lineLabels, h]
    rcases Machine.ofText_of_harmless hw with ⟨hc, -⟩ | ⟨hc, -⟩
    · rw [hc]
      rfl
    · rw [hc]
      rfl
  · exact absurd h (hk k)
  · obtain ⟨ws, hw⟩ := h.operands
    rw [commands_of_defines before h, List.filterMap_append, filterMap_idle, lineLabels, h.1, hw]
    rfl
  · obtain ⟨ws, hw⟩ := h.operands
    rw [commands_of_returns before h, lineLabels, h.1, hw]
    rfl
  · rw [commands_of_closes before h, List.filterMap_append, filterMap_idle, lineLabels, h]
    rfl
  · have hn : ((settings arguments).map Command.perform).filterMap Command.label? = [] := by
      rw [List.filterMap_map, List.filterMap_eq_nil_iff]
      intro a _
      rfl
    rw [commands_of_calls before h, List.filterMap_append, hn, lineLabels, h.1, h.2]
    rfl

theorem Straight.find_label (hs : Straight s) {a : Label} {u v : Program}
    (h : commandsAfter o [] s = u ++ .label a.spelling :: v) :
    find? (commandsAfter o [] s) a.spelling = some (.label a.spelling :: v) := by
  apply Machine.find?_of_nodup h
  have hl : (commandsAfter o [] s).filterMap Command.label? = s.labels.map Label.spelling := by
    rw [commandsAfter, filterMap_gather, labels, map_gather]
    refine gather_congr fun before l after hl ↦ ?_
    have hm : l ∈ s := by simp [hl]
    exact filterMap_label?_commands before (hs.faultless.not_lacksOperand hm) (hs.plain l hm)
  rw [hl]
  exact (labels_census hs.faultless).1.map fun _ _ ↦ Label.spelling_inj.mp

def InBody (l : SourceLine) : Prop :=
  l.keyword? = none ∧ Harmless l.text.words ∨ ∃ v, l.Returns v

theorem reaches_plain {p more : Program} {slot : Text} {trace : List Text} (before : Script)
    (hl : l.keyword? = none) (hw : Harmless l.text.words) :
    Reaches (step p) ⟨commands o before l ++ more, slot, trace⟩
      ⟨more, slot, trace ++ Machine.visible (Scan.lineText o l)⟩ := by
  rw [commands_of_plain before hl]
  apply Machine.reaches_visible
  rwa [Scan.words_lineText]

/-- Run with a label in the slot, a body does what it means and comes out at that label. -/
theorem exists_traces_body {body : Script} {e : SourceLine} (hb : ∀ x ∈ body, InBody x)
    (he : e.keyword? = some .funcEnd) (script rest : Script) :
    ∃ t, Traces o script (body ++ e :: rest) t ∧
      ∀ {p target more : Program} {slot : Text} (before : Script) (trace : List Text),
        Machine.find? p slot = some target →
        Reaches (step p) ⟨commandsAfter o before body ++ .jumpBack :: more, slot, trace⟩
          ⟨target, slot, trace ++ t⟩ := by
  induction body with
  | nil =>
    refine ⟨[], .leave he, fun before trace hf ↦ ?_⟩
    rw [List.append_nil]
    exact Machine.reaches_jumpBack hf
  | cons l body ih =>
    obtain ⟨t, ht, hr⟩ := ih fun x hx ↦ hb x (List.mem_cons_of_mem l hx)
    rcases hb l List.mem_cons_self with ⟨hl, hw⟩ | ⟨v, hl⟩
    · refine ⟨_, .copy hl ht, fun before trace hf ↦ ?_⟩
      rw [commandsAfter_cons, List.append_assoc, ← List.append_assoc trace]
      exact (reaches_plain before hl hw).trans (hr (before ++ [l]) _ hf)
    · refine ⟨_, .giveBack hl, fun before trace hf ↦ ?_⟩
      rw [commandsAfter_cons, commands_of_returns before hl]
      exact .head rfl (Machine.reaches_jumpBack hf)

theorem Straight.inBody (hs : Straight s) {after : Script} (h : s = before ++ l :: after)
    (ho : IsOpen before) (hi : l.IsInner) : InBody l := by
  have hm : l ∈ s := by simp [h]
  rcases l.reading_cases with hl | ⟨k, hl⟩ | ⟨n, hl⟩ | ⟨v, hl⟩ | hl | ⟨n, arguments, hl⟩
  · exact .inl ⟨hl, hs.plain l hm hl⟩
  · exact absurd hl (hs.faultless.not_lacksOperand hm k)
  · exact absurd hl.1 hi.1
  · exact .inr ⟨v, hl⟩
  · exact absurd hl hi.2
  · exact absurd ho (hs.calls before l after h hl.1)

theorem Straight.exists_body (hs : Straight s) {after : Script} (h : s = before ++ l :: after)
    (hl : l.keyword? = some .func) :
    ∃ body e rest, after = body ++ e :: rest ∧ (∀ x ∈ body, x.IsInner) ∧
      (∀ x ∈ body, InBody x) ∧ e.keyword? = some .funcEnd := by
  have hf := hs.faultless
  have hc := hs.closed
  rw [h] at hf hc
  have ho : IsOpen (before ++ [l]) := hf.isOpen_of_func hl
  obtain ⟨body, e, rest, rfl, hi, he, -⟩ := hf.exists_body hc hl
  refine ⟨body, e, rest, rfl, hi, fun x hx ↦ ?_, he⟩
  obtain ⟨u, v, rfl⟩ := List.append_of_mem hx
  have hx' : s = before ++ [l] ++ u ++ x :: (v ++ e :: rest) := by simp [h]
  have ho' : IsOpen (before ++ [l] ++ u) :=
    (isOpen_append_of_inner fun y hy ↦ hi y (List.mem_append_left _ hy)).mpr ho
  exact hs.inBody hx' ho' (hi x hx)

theorem commandsAfter_block {n : Text} {e : SourceLine} {body : Script} (hl : l.Defines n)
    (hi : ∀ x ∈ body, x.IsInner) (he : e.keyword? = some .funcEnd) (before rest : Script) :
    commandsAfter o before (l :: (body ++ e :: rest)) =
      idle o.markers ++ .jump (Label.skip (numberOf .func before)).spelling ::
        .label (Label.entry (numberOf .func before)).spelling ::
        (commandsAfter o (before ++ [l]) body ++ .jumpBack ::
          .label (Label.skip (numberOf .func before)).spelling ::
          (idle o.markers ++ commandsAfter o (before ++ l :: (body ++ [e])) rest)) := by
  have hid : numberOf .func (before ++ [l] ++ body) - 1 = numberOf .func before := by
    rw [← List.append_cons, numberOf_func_body hl.1 hi, Nat.add_sub_cancel]
  rw [commandsAfter_cons, commandsAfter_append, commandsAfter_cons, commands_of_defines before hl,
    commands_of_closes _ he, hid]
  simp only [List.append_assoc, List.cons_append, List.nil_append]

theorem Straight.find_block (hs : Straight s) {n : Text} {e : SourceLine} {body : Script}
    (h : s = before ++ l :: (body ++ e :: rest)) (hl : l.Defines n) (hi : ∀ x ∈ body, x.IsInner)
    (he : e.keyword? = some .funcEnd) :
    (∃ more, find? (commandsAfter o [] s) (Label.entry (numberOf .func before)).spelling =
      some (.label (Label.entry (numberOf .func before)).spelling ::
        (commandsAfter o (before ++ [l]) body ++ .jumpBack :: more))) ∧
    find? (commandsAfter o [] s) (Label.skip (numberOf .func before)).spelling =
      some (.label (Label.skip (numberOf .func before)).spelling ::
        (idle o.markers ++ commandsAfter o (before ++ l :: (body ++ [e])) rest)) := by
  have hcode := commandsAfter_append o [] before (l :: (body ++ e :: rest))
  rw [← h, List.nil_append, commandsAfter_block hl hi he] at hcode
  have hentry : commandsAfter o [] s = commandsAfter o [] before ++ (idle o.markers ++
      [.jump (Label.skip (numberOf .func before)).spelling]) ++
      .label (Label.entry (numberOf .func before)).spelling ::
      (commandsAfter o (before ++ [l]) body ++ .jumpBack ::
        .label (Label.skip (numberOf .func before)).spelling ::
        (idle o.markers ++ commandsAfter o (before ++ l :: (body ++ [e])) rest)) := by
    rw [hcode]
    simp
  have hskip : commandsAfter o [] s = commandsAfter o [] before ++ (idle o.markers ++
      .jump (Label.skip (numberOf .func before)).spelling ::
      .label (Label.entry (numberOf .func before)).spelling ::
      (commandsAfter o (before ++ [l]) body ++ [.jumpBack])) ++
      .label (Label.skip (numberOf .func before)).spelling ::
      (idle o.markers ++ commandsAfter o (before ++ l :: (body ++ [e])) rest) := by
    rw [hcode]
    simp
  exact ⟨⟨_, hs.find_label hentry⟩, hs.find_label hskip⟩

theorem Straight.reaches_after (hs : Straight s) {n : Text} {e : SourceLine} {body : Script}
    (h : s = before ++ l :: (body ++ e :: rest)) (hl : l.Defines n) (hi : ∀ x ∈ body, x.IsInner)
    (he : e.keyword? = some .funcEnd) (slot : Text) (trace : List Text) :
    Reaches (step (commandsAfter o [] s))
      ⟨commandsAfter o before (l :: (body ++ e :: rest)), slot, trace⟩
      ⟨commandsAfter o (before ++ l :: (body ++ [e])) rest, slot, trace⟩ := by
  obtain ⟨-, hskip⟩ := hs.find_block (o := o) h hl hi he
  rw [commandsAfter_block hl hi he]
  refine (Machine.reaches_idle eq_nothing_of_mem_idle).trans ?_
  refine (Machine.reaches_jump hskip).trans (.head rfl ?_)
  exact Machine.reaches_idle eq_nothing_of_mem_idle

/-- A call does what its function means, and comes back. -/
theorem Straight.exists_traces_call (hs : Straight s) {after : Script} {n : Text}
    {arguments : List Text} (h : s = before ++ l :: after) (hl : l.Calls n arguments) :
    ∃ t, Traces o s (s.bodyOf n) t ∧ ∀ slot trace, ∃ slot',
      Reaches (step (commandsAfter o [] s))
        ⟨commandsAfter o before (l :: after), slot, trace⟩
        ⟨commandsAfter o (before ++ [l]) after, slot', trace ++ (settings arguments ++ t)⟩ := by
  have hf := hs.faultless
  rw [h] at hf
  obtain ⟨pre, d, post, rfl, hd, hpre⟩ := hf.exists_first hl
  have hsd : s = pre ++ d :: (post ++ l :: after) := by simp [h]
  obtain ⟨body, e, rest, ha, hi, hb, he⟩ := hs.exists_body hsd hd.1
  rw [ha] at hsd
  obtain ⟨t, ht, hr⟩ := exists_traces_body (o := o) hb he s rest
  obtain ⟨⟨more, hentry⟩, -⟩ := hs.find_block (o := o) hsd hd hi he
  have hcode := commandsAfter_append o [] (pre ++ d :: post) (l :: after)
  have hcall := commandsAfter_cons o (pre ++ d :: post) l after
  rw [commands_of_calls _ hl, position_of_first hd hpre] at hcall
  rw [← h, List.nil_append, hcall] at hcode
  have hresume := hs.find_label (a := .resume (numberOf .callFunc (pre ++ d :: post)))
    (u := commandsAfter o [] (pre ++ d :: post) ++ ((settings arguments).map .perform ++
      [.store (Label.resume (numberOf .callFunc (pre ++ d :: post))).spelling,
        .jump (Label.entry (numberOf .func pre)).spelling]))
    (v := commandsAfter o (pre ++ d :: post ++ [l]) after) (hcode.trans (by simp))
  refine ⟨t, ?_, fun slot trace ↦
    ⟨(Label.resume (numberOf .callFunc (pre ++ d :: post))).spelling, ?_⟩⟩
  · rwa [hsd, bodyOf_of_first hd hpre, ← hsd]
  · rw [hcall, List.append_assoc, ← List.append_assoc trace]
    refine (Machine.reaches_perform (settings arguments)).trans (.head rfl ?_)
    refine (Machine.reaches_jump hentry).trans (.head rfl ?_)
    exact (hr (pre ++ [d]) _ hresume).trans (.single rfl)

/-- From a line outside the bodies on, the machine does what the script means, and halts. -/
theorem Straight.exists_traces (hs : Straight s) {t : Script} (ht : Blocks t)
    (h : s = before ++ t) (ho : ¬ IsOpen before) :
    ∃ tr, Traces o s t tr ∧ ∀ slot trace, ∃ slot',
      Reaches (step (commandsAfter o [] s)) ⟨commandsAfter o before t, slot, trace⟩
        ⟨[], slot', trace ++ tr⟩ := by
  induction ht generalizing before with
  | nil =>
    refine ⟨[], .finish, fun slot trace ↦ ⟨slot, ?_⟩⟩
    rw [List.append_nil]
    exact .refl
  | @line l rest hi hr ih =>
    have hm : l ∈ s := by simp [h]
    have h' : s = before ++ [l] ++ rest := by simp [h]
    have ho' : ¬ IsOpen (before ++ [l]) := by rwa [isOpen_append_of_isInner hi]
    obtain ⟨tr, htr, hrun⟩ := ih h' ho'
    rcases l.reading_cases with hl | ⟨k, hl⟩ | ⟨n, hl⟩ | ⟨v, hl⟩ | hl | ⟨n, arguments, hl⟩
    · refine ⟨_, .copy hl htr, fun slot trace ↦ ?_⟩
      obtain ⟨slot', hreach⟩ := hrun slot (trace ++ Machine.visible (Scan.lineText o l))
      refine ⟨slot', ?_⟩
      rw [commandsAfter_cons, ← List.append_assoc]
      exact (reaches_plain before hl (hs.plain l hm hl)).trans hreach
    · exact absurd hl (hs.faultless.not_lacksOperand hm k)
    · exact absurd hl.1 hi.1
    · exact absurd (hs.returns before l rest h hl.1) ho
    · exact absurd hl hi.2
    · obtain ⟨tc, htc, hcall⟩ := hs.exists_traces_call (o := o) h hl
      refine ⟨_, .call hl htc htr, fun slot trace ↦ ?_⟩
      obtain ⟨slot', hreach⟩ := hcall slot trace
      obtain ⟨slot'', hreach'⟩ := hrun slot' (trace ++ (settings arguments ++ tc))
      refine ⟨slot'', ?_⟩
      rw [← List.append_assoc]
      exact hreach.trans hreach'
  | @block l e body rest hl hi he hr ih =>
    have hm : l ∈ s := by simp [h]
    have hf := hs.faultless
    obtain ⟨n, hn⟩ := hf.exists_defines hm hl
    have hs' : s = before ++ l :: (body ++ [e]) ++ rest := by simp [h]
    rw [h] at hf
    have ho' : ¬ IsOpen (before ++ l :: (body ++ [e])) := by
      have hc : ¬ IsOpen (before ++ [l] ++ body ++ [e]) :=
        Faultless.not_isOpen_of_funcEnd (t := rest) (by simpa using hf) he
      simpa using hc
    obtain ⟨tr, htr, hrun⟩ := ih hs' ho'
    have hafter : afterBody (body ++ e :: rest) = rest := afterBody_of_inner hi he
    refine ⟨tr, .skip hl (hafter.symm ▸ htr), fun slot trace ↦ ?_⟩
    obtain ⟨slot', hreach⟩ := hrun slot trace
    exact ⟨slot', (hs.reaches_after h hn hi he slot trace).trans hreach⟩

theorem exists_warn_of_isOpen (hw : o.warnNestedCalls) {after : Script}
    (hs : Faultless (before ++ l :: after)) (hl : l.keyword? = some .callFunc)
    (ho : IsOpen before) : ∃ e ∈ lineEvents o before l, e.level = .warn := by
  obtain ⟨d, m, -, -, hf⟩ := hs.of_append.openFunction? ho
  cases hops : l.operands with
  | nil => exact absurd ⟨hl, nofun, hops⟩ (hs.not_lacksOperand (by simp) .callFunc)
  | cons n arguments =>
    refine ⟨.nestedCall l.number m n, ?_, rfl⟩
    simp [lineEvents, hl, hops, hw, hf]

end Script

open Script

/-- An expansion does what its script means, if no body calls, only bodies give back values, and the
lines that are copied leave labels, jumps and the slot alone. -/
theorem expandSource_performs {o : Options} {source : Source} {x : Expansion}
    (h : (expandSource o source).result = .ok x) (hw : o.warnNestedCalls = true)
    (hlog : ∀ e ∈ (expandSource o source).log, e.level ≠ .warn)
    (hreturns : ∀ before l after, sourceLines source.text = before ++ l :: after →
      l.keyword? = some .funcRtn → Script.IsOpen before)
    (hplain : ∀ l ∈ sourceLines source.text, l.keyword? = none →
      Machine.Harmless l.text.words) :
    ∃ trace, (∀ t, Traces o (sourceLines source.text) (sourceLines source.text) t ↔ t = trace) ∧
      Machine.Performs (Machine.load x) trace := by
  obtain ⟨-, hs, ho, rfl, hevents⟩ := expand_eq_ok h
  have hcalls : ∀ before l after, sourceLines source.text = before ++ l :: after →
      l.keyword? = some .callFunc → ¬ Script.IsOpen before := by
    intro before l after hl hk hopen
    rw [hl] at hs
    obtain ⟨e, he, hwarn⟩ := exists_warn_of_isOpen hw hs hk hopen
    refine hlog e ?_ hwarn
    rw [expandSource, hevents]
    exact mem_gather.mpr ⟨before, l, after, hl, he⟩
  have hstraight : Straight (sourceLines source.text) := ⟨hs, ho, hplain, hreturns, hcalls⟩
  have hblocks : Blocks (sourceLines source.text) :=
    (Faultless.blocks_after (s := []) hs ho).1 (by simp [Script.IsOpen])
  have hnil : ¬ Script.IsOpen [] := by simp [Script.IsOpen]
  obtain ⟨trace, htrace, hrun⟩ :=
    hstraight.exists_traces (o := o) hblocks (List.nil_append _).symm hnil
  refine ⟨trace, fun t ↦ ⟨fun ht ↦ ht.unique htrace, fun ht ↦ ht ▸ htrace⟩, fun slot ↦ ?_⟩
  obtain ⟨slot', hreach⟩ := hrun slot []
  refine ⟨slot', StateTransition.mem_eval.mpr ⟨?_, rfl⟩⟩
  rwa [load_expansion]

def echo : Source where
  name := "a.lb".toList
  text := "FUNC F\nFUNCRTN $FUNCPARAM1\nFUNCEND\n# once\nCALLFUNC F x\nPRINT".toList

theorem expandSource_performs_echo :
    let s := sourceLines echo.text
    let trace := ["SETVAL FUNCPARAM1 x".toList, "SETVAL FUNCRTN $FUNCPARAM1".toList,
      "PRINT".toList]
    (expandSource {} echo).result = .ok (expansion {} s) ∧ Traces {} s s trace ∧
      Machine.Performs (Machine.load (expansion {} s)) trace := by
  intro s trace
  have hx : (expandSource {} echo).result = .ok (expansion {} s) := by decide +kernel
  have hreturns : ∀ before l after, s = before ++ l :: after →
      l.keyword? = some .funcRtn → Script.IsOpen before :=
    forall_place_iff.mpr (by decide +kernel)
  have hplain : ∀ l ∈ s, l.keyword? = none → Machine.Harmless l.text.words := by
    decide +kernel
  obtain ⟨tr, htr, hp⟩ := expandSource_performs hx rfl (by decide +kernel) hreturns hplain
  have hs : trace? {} s 9 s = some trace := by decide +kernel
  have ht : Traces {} s s trace := traces_of_trace? hs
  obtain rfl := (htr trace).mp ht
  exact ⟨hx, ht, hp⟩

end LabelBasic
