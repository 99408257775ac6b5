import LabelBasic.Proofs.Expansion.Registry

namespace LabelBasic

namespace Event

def definition? : Event → Option Definition
  | functionOpened name id line => some ⟨name, id, line⟩
  | _ => none

def closingLine? : Event → Option Nat
  | functionClosed _ _ line => some line
  | _ => none

def call? : Event → Option (Text × Label × Nat)
  | callExpanded callee resume line => some (callee, resume, line)
  | _ => none

def isBound : Event → Bool
  | functionOpened .. | functionClosed .. => true
  | _ => false

def lastBound? (log : List Event) : Option Event := (log.filter isBound).getLast?

/-- The bound of a body may come next, after another one or as the first: bodies do not nest, and a
body ends under the name and the number it starts with. -/
inductive Follows : Option Event → Event → Prop
  | first {n : Text} {i k : Nat} : Follows none (functionOpened n i k)
  | next {m n : Text} {i j k k' : Nat} :
      Follows (some (functionClosed m j k)) (functionOpened n i k')
  | body {n : Text} {i k k' : Nat} :
      Follows (some (functionOpened n i k)) (functionClosed n i k')

end Event

open Event

/-- What the log of an expander tells of the lines that it has taken. -/
structure Expander.Reports (e : Expander) (taken : Script) : Prop where
  bounds : ∀ u x v, e.log.toList = u ++ x :: v → x.isBound = true → Follows (lastBound? u) x
  opened : e.log.toList.filterMap definition? = e.scan.functions
  closed : e.log.toList.filterMap closingLine? =
    (Script.linesOf .funcEnd taken).map SourceLine.number
  called : e.log.toList.filterMap call? = (Script.linesOf .callFunc taken).zipIdx.map fun c ↦
    (c.1.operands.headD [], .resume c.2, c.1.number)
  warned : ∀ u callee a k v, e.log.toList = u ++ .callExpanded callee a k :: v →
    ∀ w, u.getLast? = some w ∧ w.level = .warn ↔ e.options.warnNestedCalls = true ∧
      ∃ n i j, lastBound? u = some (.functionOpened n i j) ∧ w = .nestedCall k n callee
  warnings : ∀ u w v, e.log.toList = u ++ w :: v → w.level = .warn →
    ∃ callee a k, v.head? = some (.callExpanded callee a k)

namespace Script

variable {o : Options} {s : Script} {l : SourceLine} {log events : List Event} {x w : Event}

theorem lastBound?_append_of_silent (h : ∀ x ∈ events, x.isBound = false) :
    lastBound? (log ++ events) = lastBound? log := by
  have he : events.filter isBound = [] := List.filter_eq_nil_iff.mpr fun x hx ↦ by simp [h x hx]
  rw [lastBound?, List.filter_append, he, List.append_nil, lastBound?]

theorem lastBound?_append_bound (h : x.isBound = true) :
    lastBound? (log ++ [x]) = some x := by
  rw [lastBound?, List.filter_append, List.filter_singleton, h, cond_true, List.getLast?_concat]

theorem append_cons_eq_singleton {u v : List Event} (h : u ++ x :: v = [w]) :
    u = [] ∧ x = w ∧ v = [] := by
  cases u <;> simp_all

theorem append_cons_eq_pair {u v : List Event} {y : Event} (h : u ++ x :: v = [w, y]) :
    u = [] ∧ x = w ∧ v = [y] ∨ u = [w] ∧ x = y ∧ v = [] := by
  cases u with
  | nil => simpa using h
  | cons z u =>
    obtain ⟨rfl, ht⟩ := List.cons.inj h
    obtain ⟨rfl, hx⟩ := append_cons_eq_singleton ht
    exact .inr ⟨rfl, hx⟩

/-- The events of a line that is taken. -/
inductive Causes (o : Options) (s : Script) (l : SourceLine) : List Event → Prop
  | silent (hi : l.IsInner) (hc : l.keyword? ≠ some .callFunc) : Causes o s l []
  | opened {n : Text} (h : l.Defines n) (ho : ¬ s.IsOpen) :
      Causes o s l [.functionOpened n (numberOf .func s) l.number]
  | closed {f : OpenFunction} (h : l.keyword? = some .funcEnd) (hf : s.openFunction? = some f) :
      Causes o s l [.functionClosed f.name f.id l.number]
  | called {n : Text} {arguments : List Text} (h : l.Calls n arguments)
      (hw : o.warnNestedCalls = false ∨ s.openFunction? = none) :
      Causes o s l [.callExpanded n (.resume (numberOf .callFunc s)) l.number]
  | warned {n : Text} {arguments : List Text} {f : OpenFunction} (h : l.Calls n arguments)
      (hw : o.warnNestedCalls = true) (hf : s.openFunction? = some f) :
      Causes o s l [.nestedCall l.number f.name n,
        .callExpanded n (.resume (numberOf .callFunc s)) l.number]

theorem causes_of_calls {n : Text} {arguments : List Text} (h : l.Calls n arguments) :
    Causes o s l (lineEvents o s l) := by
  have he : lineEvents o s l = (if o.warnNestedCalls then
      s.openFunction?.toList.map fun f ↦ .nestedCall l.number f.name n
    else []) ++ [.callExpanded n (.resume (numberOf .callFunc s)) l.number] := by
    simp only [lineEvents, h.1, h.2]
  rw [he]
  cases hw : o.warnNestedCalls with
  | false => exact .called h (.inl hw)
  | true =>
    cases hf : s.openFunction? with
    | none => exact .called h (.inr hf)
    | some f => exact .warned h hw hf

theorem causes_lineEvents (hs : Faultless (s ++ [l])) : Causes o s l (lineEvents o s l) := by
  rcases l.reading_cases with h | ⟨k, h⟩ | ⟨n, h⟩ | ⟨v, h⟩ | h | ⟨n, arguments, h⟩
  · have he : lineEvents o s l = [] := by simp only [lineEvents, h]
    rw [he]
    exact .silent ⟨by simp [h], by simp [h]⟩ (by simp [h])
  · exact absurd h (hs.not_lacksOperand (by simp) k)
  · obtain ⟨ws, hw⟩ := h.operands
    have he : lineEvents o s l = [.functionOpened n (numberOf .func s) l.number] := by
      simp only [lineEvents, h.1, hw]
    rw [he]
    exact .opened h (hs.not_open_of_func (t := []) h.1)
  · have he : lineEvents o s l = [] := by simp only [lineEvents, h.1]
    rw [he]
    exact .silent (isInner_of_keyword h.1 (by decide) (by decide)) (by simp [h.1])
  · obtain ⟨d, n, -, -, hf⟩ := hs.of_append.openFunction? (hs.open_of_funcEnd (t := []) h)
    have he : lineEvents o s l = [.functionClosed n (numberOf .func s - 1) l.number] := by
      simp only [lineEvents, h, hf, Option.toList_some, List.map_cons, List.map_nil]
    rw [he]
    exact .closed h hf
  · exact causes_of_calls h

theorem lastBound?_log (hs : Faultless s) :
    (∀ f, s.openFunction? = some f →
      lastBound? (gather (lineEvents o) s) = some (.functionOpened f.name f.id f.site.line)) ∧
    (s.openFunction? = none → lastBound? (gather (lineEvents o) s) = none ∨
      ∃ n i k, lastBound? (gather (lineEvents o) s) = some (.functionClosed n i k)) := by
  induction s using List.reverseRecOn with
  | nil => exact ⟨nofun, fun _ ↦ .inl rfl⟩
  | append_singleton s l ih =>
    have ih := ih hs.of_append
    have hc := causes_lineEvents (o := o) hs
    rw [gather_append_singleton]
    generalize lineEvents o s l = events at hc ⊢
    cases hc with
    | silent hi _ =>
      rw [openFunction?_append_of_isInner hi, List.append_nil]
      exact ih
    | called h _ | warned h _ _ =>
      rw [openFunction?_append_of_isInner (isInner_of_keyword h.1 (by decide) (by decide)),
        lastBound?_append_of_silent (by simp [isBound])]
      exact ih
    | @opened n h ho =>
      have hopen := openFunction?_of_latest (hs.isOpen_of_func (t := []) h.1)
        (latest?_of_func s h.1) h
      have hb := hs.of_append.balance
      have hid : numberOf .funcEnd (s ++ [l]) = numberOf .func s := by
        rw [numberOf_append_singleton, if_neg (by simp [h.1])]
        unfold IsOpen at ho
        omega
      rw [hopen, lastBound?_append_bound rfl, hid]
      refine ⟨?_, nofun⟩
      rintro f ⟨⟩
      rfl
    | closed h _ =>
      rw [openFunction?_of_not_isOpen (hs.not_isOpen_of_funcEnd (t := []) h),
        lastBound?_append_bound rfl]
      exact ⟨nofun, fun _ ↦ .inr ⟨_, _, _, rfl⟩⟩

theorem getLast?_log (hs : Faultless s) (h : (gather (lineEvents o) s).getLast? = some w) :
    w.level ≠ .warn := by
  induction s using List.reverseRecOn with
  | nil => cases h
  | append_singleton s l ih =>
    have hc := causes_lineEvents (o := o) hs
    rw [gather_append_singleton] at h
    generalize lineEvents o s l = events at hc h
    cases hc with
    | silent =>
      rw [List.append_nil] at h
      exact ih hs.of_append h
    | opened | closed | called | warned =>
      simp only [List.getLast?_append, List.getLast?_singleton, List.getLast?_cons_cons,
        Option.some_or, Option.some.injEq] at h
      subst h
      nofun

theorem exists_place {u v : List Event} (hs : Faultless s)
    (h : gather (lineEvents o) s = u ++ x :: v) :
    ∃ before l u' v' rest, Faultless before ∧ Causes o before l (u' ++ x :: v') ∧
      u = gather (lineEvents o) before ++ u' ∧ v = v' ++ rest := by
  obtain ⟨before, l, after, u', v', rfl, he, hu, hv⟩ := gather_eq_append_cons h
  rw [List.append_cons] at hs
  exact ⟨before, l, u', v', _, hs.of_append.of_append, he ▸ causes_lineEvents hs.of_append, hu, hv⟩

theorem follows_log {u v : List Event} (hs : Faultless s)
    (h : gather (lineEvents o) s = u ++ x :: v) (hx : x.isBound = true) :
    Follows (lastBound? u) x := by
  obtain ⟨before, l, u', v', rest, hb, hc, rfl, -⟩ := exists_place hs h
  obtain ⟨hopen, hclosed⟩ := lastBound?_log (o := o) hb
  generalize he : u' ++ x :: v' = events at hc
  cases hc with
  | silent => simp at he
  | opened _ ho =>
    obtain ⟨rfl, rfl, -⟩ := append_cons_eq_singleton he
    rw [List.append_nil]
    rcases hclosed (openFunction?_of_not_isOpen ho) with hl | ⟨n, i, k, hl⟩
    · rw [hl]
      exact .first
    · rw [hl]
      exact .next
  | closed _ hf =>
    obtain ⟨rfl, rfl, -⟩ := append_cons_eq_singleton he
    rw [List.append_nil, hopen _ hf]
    exact .body
  | called =>
    obtain ⟨-, rfl, -⟩ := append_cons_eq_singleton he
    cases hx
  | warned =>
    rcases append_cons_eq_pair he with ⟨-, rfl, -⟩ | ⟨-, rfl, -⟩
    all_goals cases hx

theorem warned_log {u v : List Event} {callee : Text} {a : Label} {k : Nat} (hs : Faultless s)
    (h : gather (lineEvents o) s = u ++ .callExpanded callee a k :: v) (w : Event) :
    u.getLast? = some w ∧ w.level = .warn ↔ o.warnNestedCalls = true ∧
      ∃ n i j, lastBound? u = some (.functionOpened n i j) ∧ w = .nestedCall k n callee := by
  obtain ⟨before, l, u', v', rest, hb, hc, rfl, -⟩ := exists_place hs h
  obtain ⟨hopen, hclosed⟩ := lastBound?_log (o := o) hb
  generalize he : u' ++ .callExpanded callee a k :: v' = events at hc
  cases hc with
  | silent => simp at he
  | opened | closed => cases (append_cons_eq_singleton he).2.1
  | called _ hw =>
    obtain ⟨rfl, -, -⟩ := append_cons_eq_singleton he
    rw [List.append_nil]
    constructor
    · intro hlast
      exact absurd hlast.2 (getLast?_log hb hlast.1)
    · rintro ⟨hon, n, i, j, hl, -⟩
      rcases hw with hoff | hnone
      · rw [hon] at hoff
        cases hoff
      · rcases hclosed hnone with hl' | ⟨m, i', j', hl'⟩
        all_goals cases hl.symm.trans hl'
  | warned _ hw hf =>
    rcases append_cons_eq_pair he with ⟨-, hx, -⟩ | ⟨rfl, hx, -⟩
    · cases hx
    · obtain ⟨rfl, -, rfl⟩ := hx
      rw [lastBound?_append_of_silent (by simp [isBound]), hopen _ hf, List.getLast?_concat]
      constructor
      · rintro ⟨hlast, -⟩
        exact ⟨hw, _, _, _, rfl, (Option.some.inj hlast).symm⟩
      · rintro ⟨-, n, i, j, hl, rfl⟩
        cases hl
        exact ⟨rfl, rfl⟩

theorem warnings_log {u v : List Event} (hs : Faultless s)
    (h : gather (lineEvents o) s = u ++ w :: v) (hw : w.level = .warn) :
    ∃ callee a k, v.head? = some (.callExpanded callee a k) := by
  obtain ⟨before, l, u', v', rest, hb, hc, -, rfl⟩ := exists_place hs h
  generalize he : u' ++ w :: v' = events at hc
  cases hc with
  | silent => simp at he
  | opened | closed | called =>
    obtain ⟨-, rfl, -⟩ := append_cons_eq_singleton he
    cases hw
  | warned =>
    rcases append_cons_eq_pair he with ⟨-, -, rfl⟩ | ⟨-, rfl, -⟩
    · exact ⟨_, _, _, rfl⟩
    · cases hw

theorem filterMap_definition?_log (hs : Faultless s) :
    (gather (lineEvents o) s).filterMap definition? = gather definition s := by
  rw [filterMap_gather]
  apply gather_congr
  rintro before l after rfl
  rw [List.append_cons] at hs
  have hc := causes_lineEvents (o := o) hs.of_append
  generalize lineEvents o before l = events at hc ⊢
  cases hc with
  | silent hi _ => rw [definition_of_not_func before hi.1, List.filterMap_nil]
  | opened h _ => rw [definition_of_defines before h]; rfl
  | closed h _ => rw [definition_of_not_func before (by simp [h])]; rfl
  | called h _ | warned h _ _ => rw [definition_of_not_func before (by simp [h.1])]; rfl

theorem filterMap_closingLine?_log (hs : Faultless s) :
    (gather (lineEvents o) s).filterMap closingLine? =
      (linesOf .funcEnd s).map SourceLine.number := by
  induction s using List.reverseRecOn with
  | nil => rfl
  | append_singleton s l ih =>
    have hc := causes_lineEvents (o := o) hs
    rw [gather_append_singleton, List.filterMap_append, ih hs.of_append, linesOf_append_singleton,
      List.map_append]
    generalize lineEvents o s l = events at hc ⊢
    cases hc with
    | silent hi _ => rw [if_neg hi.2]; rfl
    | opened h _ => rw [if_neg (by simp [h.1])]; rfl
    | closed h _ => rw [if_pos h]; rfl
    | called h _ | warned h _ _ => rw [if_neg (by simp [h.1])]; rfl

theorem filterMap_call?_log (hs : Faultless s) :
    (gather (lineEvents o) s).filterMap call? = (linesOf .callFunc s).zipIdx.map fun c ↦
      (c.1.operands.headD [], .resume c.2, c.1.number) := by
  induction s using List.reverseRecOn with
  | nil => rfl
  | append_singleton s l ih =>
    have hc := causes_lineEvents (o := o) hs
    rw [gather_append_singleton, List.filterMap_append, ih hs.of_append, linesOf_append_singleton,
      List.zipIdx_append, List.map_append, Nat.zero_add, ← numberOf]
    generalize lineEvents o s l = events at hc ⊢
    cases hc with
    | silent _ hn => rw [if_neg hn]; rfl
    | opened h _ => rw [if_neg (by simp [h.1])]; rfl
    | closed h _ => rw [if_neg (by simp [h])]; rfl
    | called h _ | warned h _ _ =>
      rw [if_pos h.1, List.zipIdx_singleton, List.map_singleton, h.2]
      rfl

end Script

namespace Expander

open Script

/-- Whatever lines an expander is given, its log is a trace of those that did not fail. -/
theorem reports_accepted (o : Options) {ls : List SourceLine}
    (h : ∀ answer ∈ answers { options := o } ls, ¬ Overflows answer) :
    (afterEach { options := o } ls).Reports (accepted { options := o } ls) := by
  obtain ⟨hs, he⟩ := afterEach_eq_expander h
  rw [he]
  exact ⟨fun u x v ↦ follows_log hs, filterMap_definition?_log hs, filterMap_closingLine?_log hs,
    filterMap_call?_log hs, fun u callee a k v ↦ warned_log hs, fun u w v ↦ warnings_log hs⟩

theorem reports_accepted_nested :
    let e : Expander := {}
    let ls := ["FUNC A", "FUNCEND", "CALLFUNC A", "FUNC B", "CALLFUNC C", "FUNC A", "CALLFUNC A",
      "FUNCEND", "FUNCEND", "CALLFUNC B", "FUNC A"].map fun t ↦ SourceLine.ofText 1 0 t.toList
    (∀ answer ∈ e.answers ls, ¬ Overflows answer) ∧ (e.afterEach ls).Reports (e.accepted ls) ∧
      (e.afterEach ls).log.toList = [.functionOpened ['A'] 0 1, .functionClosed ['A'] 0 1,
        .callExpanded ['A'] (.resume 0) 1, .functionOpened ['B'] 1 1, .nestedCall 1 ['B'] ['A'],
        .callExpanded ['A'] (.resume 1) 1, .functionClosed ['B'] 1 1,
        .callExpanded ['B'] (.resume 2) 1] := by
  intro e ls
  have ho : ∀ answer ∈ e.answers ls, ¬ Overflows answer := by decide +kernel
  exact ⟨ho, reports_accepted {} ho, by decide +kernel⟩

end Expander

end LabelBasic
