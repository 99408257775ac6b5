import LabelBasic.Expansion.Expander
import LabelBasic.Proofs.Script.Fault

namespace LabelBasic

namespace Script

open SourceLine

def definition (before : Script) (l : SourceLine) : List Definition :=
  match l.keyword?, l.operands with
  | some .func, name :: _ => [⟨name, numberOf .func before, l.number⟩]
  | _, _ => []

def openFunction? (s : Script) : Option OpenFunction :=
  if s.IsOpen then
    s.latest?.map fun d ↦ ⟨d.operands.headD [], numberOf .funcEnd s, d.site⟩
  else none

/-- What is remembered of the lines of a script. -/
def scan (s : Script) : Scan where
  functions := gather definition s
  nextDefinition := numberOf .funcEnd s
  nextCallSite := numberOf .callFunc s
  opened := s.openFunction?

def lineOutput (o : Options) (before : Script) (l : SourceLine) : List OutputLine :=
  match l.keyword?, l.operands with
  | some .func, name :: _ =>
    (Scan.openingCode o.markers name (numberOf .func before)).map .generated
  | some .funcRtn, value :: _ => (Scan.returningCode value).map .generated
  | some .funcEnd, _ => (Scan.closingCode o.markers (numberOf .func before - 1)).map .generated
  | some .callFunc, name :: arguments =>
    (Scan.callingCode (position name before) (numberOf .callFunc before) arguments).map .generated
  | _, _ => [.copied (Scan.lineText o l)]

def lineEvents (o : Options) (before : Script) (l : SourceLine) : List Event :=
  match l.keyword?, l.operands with
  | some .func, name :: _ => [.functionOpened name (numberOf .func before) l.number]
  | some .funcEnd, _ =>
    before.openFunction?.toList.map fun f ↦ .functionClosed f.name f.id l.number
  | some .callFunc, name :: _ =>
    (if o.warnNestedCalls then
      before.openFunction?.toList.map fun f ↦ .nestedCall l.number f.name name
    else []) ++ [.callExpanded name (.resume (numberOf .callFunc before)) l.number]
  | _, _ => []

/-- A number is left for the label that a line needs. -/
def HasNumber (before : Script) (l : SourceLine) : Prop :=
  (l.keyword? = some .funcEnd → numberOf .funcEnd before < maxLabel) ∧
  (l.keyword? = some .callFunc → numberOf .callFunc before < maxLabel)

variable {s : Script} {l : SourceLine} (o : Options)

theorem definition_of_defines {n : Text} (before : Script) (h : l.Defines n) :
    definition before l = [⟨n, numberOf .func before, l.number⟩] := by
  obtain ⟨ws, hw⟩ := h.operands
  simp only [definition, h.1, hw]

theorem definition_of_not_func (before : Script) (h : l.keyword? ≠ some .func) :
    definition before l = [] := by
  unfold definition
  split
  · exact absurd ‹_› h
  · rfl

theorem defines_of_mem_definition {before : Script} {d : Definition}
    (h : d ∈ definition before l) : l.Defines d.name := by
  unfold definition at h
  split at h
  · obtain rfl := List.mem_singleton.mp h
    exact ⟨‹_›, by rw [‹l.operands = _›]; rfl⟩
  · cases h

theorem lineOutput_of_plain (before : Script) (h : l.keyword? = none) :
    lineOutput o before l = [.copied (Scan.lineText o l)] := by
  simp only [lineOutput, h]

theorem lineOutput_of_lacksOperand {k : Keyword} (before : Script) (h : l.LacksOperand k) :
    lineOutput o before l = [.copied (Scan.lineText o l)] := by
  obtain ⟨hk, he, ho⟩ := h
  cases k with
  | funcEnd => exact absurd rfl he
  | func | funcRtn | callFunc => simp only [lineOutput, hk, ho]

theorem lineOutput_of_defines {n : Text} (before : Script) (h : l.Defines n) :
    lineOutput o before l =
      (Scan.openingCode o.markers n (numberOf .func before)).map .generated := by
  obtain ⟨ws, hw⟩ := h.operands
  simp only [lineOutput, h.1, hw]

theorem lineOutput_of_returns {v : Text} (before : Script) (h : l.Returns v) :
    lineOutput o before l = (Scan.returningCode v).map .generated := by
  obtain ⟨ws, hw⟩ := h.operands
  simp only [lineOutput, h.1, hw]

theorem lineOutput_of_closes (before : Script) (h : l.keyword? = some .funcEnd) :
    lineOutput o before l =
      (Scan.closingCode o.markers (numberOf .func before - 1)).map .generated := by
  simp only [lineOutput, h]

theorem lineOutput_of_calls {n : Text} {arguments : List Text} (before : Script)
    (h : l.Calls n arguments) :
    lineOutput o before l =
      (Scan.callingCode (position n before) (numberOf .callFunc before) arguments).map
        .generated := by
  simp only [lineOutput, h.1, h.2]

theorem lookup?_eq_none {n : Text} (h : ∀ d ∈ s, ¬ d.Defines n) : s.scan.lookup? n = none := by
  rw [Scan.lookup?, List.find?_eq_none]
  intro d hd hn
  obtain ⟨before, l, after, rfl, hl⟩ := mem_gather.mp hd
  have hdn := defines_of_mem_definition hl
  rw [eq_of_beq hn] at hdn
  exact h l (by simp) hdn

theorem lookup?_of_first {n : Text} {before after : Script} {d : SourceLine} (hd : d.Defines n)
    (hb : ∀ x ∈ before, ¬ x.Defines n) :
    (scan (before ++ d :: after)).lookup? n = some ⟨n, numberOf .func before, d.number⟩ := by
  have hn : before.scan.lookup? n = none := lookup?_eq_none hb
  rw [Scan.lookup?] at hn ⊢
  simp only [scan] at hn ⊢
  rw [gather_append_cons, List.find?_append, hn, definition_of_defines before hd]
  simp

theorem openFunction?_of_latest {d : SourceLine} {n : Text} (ho : s.IsOpen)
    (hd : s.latest? = some d) (hn : d.Defines n) :
    s.openFunction? = some ⟨n, numberOf .funcEnd s, d.site⟩ := by
  obtain ⟨ws, hw⟩ := hn.operands
  simp [openFunction?, ho, hd, hw]

theorem openFunction?_of_not_isOpen (ho : ¬ s.IsOpen) : s.openFunction? = none := if_neg ho

theorem Faultless.openFunction? (hs : Faultless s) (ho : s.IsOpen) :
    ∃ d n, s.latest? = some d ∧ d.Defines n ∧
      s.openFunction? = some ⟨n, numberOf .func s - 1, d.site⟩ := by
  obtain ⟨d, hd⟩ := ho.latest?
  obtain ⟨hmem, hk⟩ := mem_of_latest? hd
  obtain ⟨n, hn⟩ := hs.exists_defines hmem hk
  have hb := hs.balance
  have hid : numberOf .func s - 1 = numberOf .funcEnd s := by
    unfold IsOpen at ho
    omega
  exact ⟨d, n, hd, hn, hid ▸ openFunction?_of_latest ho hd hn⟩

theorem openFunction?_append_of_isInner (h : l.IsInner) :
    openFunction? (s ++ [l]) = s.openFunction? := by
  simp only [Script.openFunction?, isOpen_append_of_isInner h, latest?_of_not_func s h.1,
    numberOf_append_singleton, if_neg h.2, Nat.add_zero]

theorem scan_append_of_isInner (h : l.IsInner) :
    scan (s ++ [l]) =
      { s.scan with nextCallSite := numberOf .callFunc (s ++ [l]) } := by
  simp only [scan, gather_append_singleton, definition_of_not_func s h.1, List.append_nil,
    openFunction?_append_of_isInner h, numberOf_append_singleton, if_neg h.2, Nat.add_zero]

theorem isInner_of_keyword {k : Keyword} (h : l.keyword? = some k) (hf : k ≠ .func)
    (he : k ≠ .funcEnd) : l.IsInner := by
  refine ⟨fun hk ↦ hf ?_, fun hk ↦ he ?_⟩
  · exact Option.some.inj (h.symm.trans hk)
  · exact Option.some.inj (h.symm.trans hk)

theorem scan_append_of_plain (hi : l.IsInner) (hc : l.keyword? ≠ some .callFunc) :
    scan (s ++ [l]) = s.scan := by
  rw [scan_append_of_isInner hi, numberOf_append_singleton, if_neg hc]
  rfl

theorem step_plain (h : l.keyword? = none) :
    s.scan.step o l = (scan (s ++ [l]), .ok ⟨lineOutput o s l, lineEvents o s l⟩) := by
  have hi : l.IsInner := ⟨by rw [h]; nofun, by rw [h]; nofun⟩
  rw [Scan.step_of_plain o s.scan h, scan_append_of_plain hi (by rw [h]; nofun),
    lineOutput_of_plain o s h]
  simp only [lineEvents, h]

theorem step_returns {v : Text} (h : l.Returns v) :
    s.scan.step o l = (scan (s ++ [l]), .ok ⟨lineOutput o s l, lineEvents o s l⟩) := by
  have hi := isInner_of_keyword h.1 nofun nofun
  obtain ⟨ws, hw⟩ := h.operands
  rw [Scan.step_of_returns o s.scan h, scan_append_of_plain hi (by rw [h.1]; nofun),
    lineOutput_of_returns o s h]
  simp only [lineEvents, h.1, hw, Emission.ofCode]

theorem step_defines {n : Text} (hs : Faultless (s ++ [l])) (h : l.Defines n) :
    s.scan.step o l = (scan (s ++ [l]), .ok ⟨lineOutput o s l, lineEvents o s l⟩) := by
  have ho := hs.not_open_of_func (t := []) h.1
  have hn : s.scan.lookup? n = none := lookup?_eq_none fun d hd hdn ↦
    hs s l [] rfl (.inr (.inr (.inl ⟨n, h, ho, d, hd, hdn⟩)))
  have hb := hs.of_append.balance
  have hid : numberOf .funcEnd s = numberOf .func s := by
    unfold IsOpen at ho
    omega
  have hopen : openFunction? (s ++ [l]) = some ⟨n, numberOf .funcEnd s, l.site⟩ := by
    rw [openFunction?_of_latest (hs.isOpen_of_func (t := []) h.1) (latest?_of_func s h.1) h]
    simp [h.1]
  obtain ⟨ws, hw⟩ := h.operands
  rw [Scan.step_of_defines o s.scan h, Scan.openFunction, hn, lineOutput_of_defines o s h]
  simp only [scan, openFunction?_of_not_isOpen ho, hopen, gather_append_singleton,
    definition_of_defines s h, numberOf_append_singleton, h.1, hid, Option.some.injEq, reduceCtorEq,
    if_false, Nat.add_zero, lineEvents, hw, Emission.ofCode]
  rfl

theorem step_closes (hs : Faultless (s ++ [l])) (h : l.keyword? = some .funcEnd)
    (hr : HasNumber s l) :
    s.scan.step o l = (scan (s ++ [l]), .ok ⟨lineOutput o s l, lineEvents o s l⟩) := by
  have ho := hs.open_of_funcEnd (t := []) h
  obtain ⟨d, n, hd, hn, hopen⟩ := hs.of_append.openFunction? ho
  have hc : openFunction? (s ++ [l]) = none :=
    openFunction?_of_not_isOpen (hs.not_isOpen_of_funcEnd (t := []) h)
  rw [Scan.step_of_closes o s.scan h, Scan.closeFunction, lineOutput_of_closes o s h]
  simp only [scan, hopen, if_pos (hr.1 h), hc, gather_append_singleton,
    definition_of_not_func s (by rw [h]; nofun), numberOf_append_singleton, h, Option.some.injEq,
    reduceCtorEq, if_true, if_false, Nat.add_zero, List.append_nil, lineEvents,
    Emission.ofCode, Option.toList_some, List.map_cons, List.map_nil]
  rfl

theorem step_calls {n : Text} {arguments : List Text} (hs : Faultless (s ++ [l]))
    (h : l.Calls n arguments) (hr : HasNumber s l) :
    s.scan.step o l = (scan (s ++ [l]), .ok ⟨lineOutput o s l, lineEvents o s l⟩) := by
  have hi := isInner_of_keyword h.1 nofun nofun
  obtain ⟨before, first, after, rfl, hf, hb⟩ := hs.exists_first (t := []) h
  have hw : Scan.callWarning o (scan (before ++ first :: after)) n l.site.line =
      if o.warnNestedCalls then
        (openFunction? (before ++ first :: after)).toList.map
          fun f ↦ .nestedCall l.number f.name n
      else [] := by
    simp only [Scan.callWarning, scan]
    cases openFunction? (before ++ first :: after) <;> simp [SourceLine.site]
  have hn : (scan (before ++ first :: after)).nextCallSite < maxLabel := hr.2 h.1
  rw [Scan.step_of_calls o _ h, Scan.callFunction, lookup?_of_first hf hb]
  simp only
  rw [if_pos hn, hw, scan_append_of_isInner hi, numberOf_append_singleton, if_pos h.1,
    lineOutput_of_calls o _ h]
  simp only [scan, lineEvents, h.1, h.2, Emission.ofCode, position_of_first hf hb]
  rfl

theorem step_scan (hs : Faultless (s ++ [l])) (hr : HasNumber s l) :
    s.scan.step o l = (scan (s ++ [l]), .ok ⟨lineOutput o s l, lineEvents o s l⟩) := by
  rcases l.reading_cases with h | ⟨k, h⟩ | ⟨n, h⟩ | ⟨v, h⟩ | h | ⟨n, arguments, h⟩
  · exact step_plain o h
  · exact absurd h (hs.not_lacksOperand (by simp) k)
  · exact step_defines o hs h
  · exact step_returns o h
  · exact step_closes o hs h hr
  · exact step_calls o hs h hr

theorem step_scan_of_fault {f : Fault} (h : FaultAfter s l f) :
    s.scan.step o l = (s.scan, .error f) := by
  cases h with
  | missing h => exact Scan.step_of_lacksOperand o s.scan h
  | nested h ho hl hm =>
    rw [Scan.step_of_defines o s.scan h, Scan.openFunction]
    simp only [scan, openFunction?_of_latest ho hl hm]
    rfl
  | @duplicate n first h ho hf =>
    have hd : first ∈ s.filter (·.Defines n) := hf ▸ List.mem_singleton_self first
    obtain ⟨hd, hn⟩ := List.mem_filter.mp hd
    obtain ⟨before, d, after, rfl, hdn, hb⟩ := Script.exists_first hd (by simpa using hn)
    have he : d ∈ (before ++ d :: after).filter (·.Defines n) :=
      List.mem_filter.mpr ⟨by simp, by simpa using hdn⟩
    obtain rfl := List.mem_singleton.mp (hf ▸ he)
    rw [Scan.step_of_defines o _ h, Scan.openFunction, lookup?_of_first hdn hb]
    simp only [scan, openFunction?_of_not_isOpen ho]
  | unmatched h ho =>
    rw [Scan.step_of_closes o s.scan h, Scan.closeFunction]
    simp only [scan, openFunction?_of_not_isOpen ho]
  | undefined h hn =>
    rw [Scan.step_of_calls o s.scan h, Scan.callFunction, lookup?_eq_none hn]

theorem step_scan_of_full (hs : Faultless (s ++ [l])) (hr : ¬ HasNumber s l) :
    ∃ s' counter, s.scan.step o l = (s', .error (.labelOverflow counter)) := by
  simp only [HasNumber, not_and_or, Classical.not_imp] at hr
  rcases hr with ⟨h, hr⟩ | ⟨h, hr⟩
  · obtain ⟨d, n, hd, hn, hopen⟩ := hs.of_append.openFunction? (hs.open_of_funcEnd (t := []) h)
    refine ⟨{ s.scan with opened := none }, "function".toList, ?_⟩
    rw [Scan.step_of_closes o s.scan h, Scan.closeFunction]
    simp only [scan, hopen, if_neg hr]
  · refine ⟨s.scan, "call site".toList, ?_⟩
    obtain ⟨n, arguments, hc⟩ : ∃ n arguments, l.Calls n arguments := by
      cases hw : l.operands with
      | nil => exact absurd ⟨h, nofun, hw⟩ (hs.not_lacksOperand (by simp) .callFunc)
      | cons n arguments => exact ⟨n, arguments, h, hw⟩
    obtain ⟨before, first, after, rfl, hf, hb⟩ := hs.exists_first (t := []) hc
    have hn : ¬ (scan (before ++ first :: after)).nextCallSite < maxLabel := hr
    rw [Scan.step_of_calls o _ hc, Scan.callFunction, lookup?_of_first hf hb]
    simp only
    rw [if_neg hn]

end Script

end LabelBasic
