import LabelBasic.Proofs.Expansion.Labels
import LabelBasic.Proofs.Expansion.Erasure

namespace LabelBasic

namespace Script

variable {s : Script} {d : SourceLine} {n : Text}

theorem nodup_names (hs : Faultless s) : ((gather definition s).map Definition.name).Nodup := by
  induction s using List.reverseRecOn with
  | nil => exact .nil
  | append_singleton s l ih =>
    rw [gather_append_singleton, List.map_append]
    by_cases hk : l.keyword? = some .func
    · obtain ⟨n, hn⟩ := hs.exists_defines (by simp) hk
      rw [definition_of_defines s hn]
      apply (ih hs.of_append).append (List.nodup_singleton n)
      intro m hm hmn
      obtain rfl : m = n := List.mem_singleton.mp hmn
      obtain ⟨e, he, rfl⟩ := List.mem_map.mp hm
      obtain ⟨before, x, after, rfl, hx⟩ := mem_gather.mp he
      rw [List.append_assoc] at hs
      exact hs.not_defines (defines_of_mem_definition hx) (by simp) hn
    · rw [definition_of_not_func s hk, List.map_nil, List.append_nil]
      exact ih hs.of_append

theorem map_id_functions (hs : Faultless s) :
    (gather definition s).map Definition.id = List.range (numberOf .func s) := by
  induction s using List.reverseRecOn with
  | nil => rfl
  | append_singleton s l ih =>
    rw [gather_append_singleton, List.map_append, ih hs.of_append, numberOf_append_singleton]
    by_cases hk : l.keyword? = some .func
    · obtain ⟨n, hn⟩ := hs.exists_defines (by simp) hk
      rw [definition_of_defines s hn, if_pos hk, List.range_succ]
      rfl
    · rw [definition_of_not_func s hk, if_neg hk]
      exact List.append_nil _

theorem getLast?_functions (hs : Faultless s) (hd : s.latest? = some d) (hn : d.Defines n) :
    (gather definition s).getLast? = some ⟨n, numberOf .func s - 1, d.number⟩ := by
  induction s using List.reverseRecOn with
  | nil => cases hd
  | append_singleton s l ih =>
    rw [gather_append_singleton, numberOf_append_singleton]
    by_cases hk : l.keyword? = some .func
    · rw [latest?_of_func s hk] at hd
      obtain rfl := Option.some.inj hd
      rw [definition_of_defines s hn, List.getLast?_concat, if_pos hk, Nat.add_sub_cancel]
    · rw [latest?_of_not_func s hk] at hd
      rw [definition_of_not_func s hk, if_neg hk, List.append_nil]
      exact ih hs.of_append hd

end Script

namespace Expander

open Script

/-- What an expander remembers, told by the lines that it has taken. -/
structure Remembers (e : Expander) (taken : Script) : Prop where
  names : (e.scan.functions.map Definition.name).Nodup
  ids : e.scan.functions.map Definition.id = List.range e.scan.functions.length
  nextDefinition : e.scan.nextDefinition + e.inFunction.toNat = e.scan.functions.length
  opened : ∀ f, e.scan.opened = some f →
    e.scan.functions.getLast? = some ⟨f.name, f.id, f.site.line⟩
  nextCallSite : e.scan.nextCallSite = numberOf .callFunc taken
  inFunction : e.inFunction = true ↔ numberOf .funcEnd taken < numberOf .func taken
  balance : numberOf .func taken ≤ numberOf .funcEnd taken + 1
  finish : (∃ failure, e.finish = .error failure) ↔ e.inFunction = true
  unterminated : ∀ failure, e.finish = .error failure → ∃ d, e.scan.functions.getLast? = some d ∧
    failure.fault = .unterminatedFunction d.name ∧ failure.site.line = d.line

variable {e : Expander} {o : Options} {ls : List SourceLine}

theorem feedAll_of_answers (h : ∀ answer ∈ e.answers ls, answer = none) :
    e.feedAll ls = (e.afterEach ls, none) := by
  induction ls generalizing e with
  | nil => rfl
  | cons l ls ih =>
    rw [answers, List.forall_mem_cons] at h
    have hl : e.feed l = ((e.feed l).1, none) := Prod.ext rfl h.1
    rw [feedAll, hl, afterEach_cons]
    exact ih h.2

/-- The state after a run is a function of the lines that did not fail. -/
theorem afterEach_eq_expander (h : ∀ answer ∈ answers { options := o } ls, ¬ Overflows answer) :
    Faultless (accepted { options := o } ls) ∧
      afterEach { options := o } ls = expander o (accepted { options := o } ls) := by
  obtain ⟨hstate, hanswers⟩ := afterEach_accepted h
  rw [← hstate]
  exact faultless_of_feedAll o (feedAll_of_answers hanswers)

theorem finish_of_opened {f : OpenFunction} (h : e.scan.opened = some f) :
    e.finish = .error ⟨.unterminatedFunction f.name, f.site⟩ := by
  simp only [Expander.finish, Scan.unterminated?, h]
  rfl

theorem exists_opened_of_finish {failure : Failure} (h : e.finish = .error failure) :
    ∃ f, e.scan.opened = some f ∧ failure = ⟨.unterminatedFunction f.name, f.site⟩ := by
  cases ho : e.scan.opened with
  | none =>
    simp only [Expander.finish, Scan.unterminated?, ho] at h
    cases h
  | some f =>
    rw [finish_of_opened ho] at h
    exact ⟨f, rfl, (Except.error.inj h).symm⟩

theorem inFunction_expander {s : Script} (hs : Faultless s) :
    (s.expander o).inFunction = decide s.IsOpen := by
  change s.openFunction?.isSome = decide s.IsOpen
  by_cases ho : s.IsOpen
  · obtain ⟨d, n, -, -, hf⟩ := hs.openFunction? ho
    rw [hf, decide_eq_true ho]
    rfl
  · rw [openFunction?_of_not_isOpen ho, decide_eq_false ho]
    rfl

theorem opened_expander {s : Script} (hs : Faultless s) {f : OpenFunction}
    (h : (s.expander o).scan.opened = some f) :
    (s.expander o).scan.functions.getLast? = some ⟨f.name, f.id, f.site.line⟩ := by
  have hf : s.openFunction? = some f := h
  have ho : s.IsOpen := by
    by_contra ho
    rw [openFunction?_of_not_isOpen ho] at hf
    cases hf
  obtain ⟨d, n, hd, hn, hopen⟩ := hs.openFunction? ho
  rw [hopen] at hf
  obtain rfl := Option.some.inj hf
  exact getLast?_functions hs hd hn

theorem remembers_expander {s : Script} (hs : Faultless s) (o : Options) :
    (s.expander o).Remembers s := by
  have hlength : (s.expander o).scan.functions.length = numberOf .func s := length_functions hs
  have hin := inFunction_expander (o := o) hs
  have hb := hs.balance
  refine ⟨nodup_names hs, ?_, ?_, fun f ↦ opened_expander hs, rfl, ?_, hb.2, ?_, ?_⟩
  · rw [hlength]
    exact map_id_functions hs
  · have hnext : (s.expander o).scan.nextDefinition = numberOf .funcEnd s := rfl
    rw [hlength, hnext, hin]
    by_cases ho : s.IsOpen
    · rw [decide_eq_true ho, Bool.toNat_true]
      unfold Script.IsOpen at ho
      omega
    · rw [decide_eq_false ho, Bool.toNat_false]
      unfold Script.IsOpen at ho
      omega
  · rw [hin, decide_eq_true_eq]
    rfl
  · constructor
    · intro h
      obtain ⟨failure, hfailure⟩ := h
      obtain ⟨f, hf, -⟩ := exists_opened_of_finish hfailure
      rw [inFunction, hf]
      rfl
    · intro h
      obtain ⟨f, hf⟩ := Option.isSome_iff_exists.mp h
      exact ⟨_, finish_of_opened hf⟩
  · intro failure h
    obtain ⟨f, hf, rfl⟩ := exists_opened_of_finish h
    exact ⟨_, opened_expander hs hf, rfl, rfl⟩

/-- Whatever lines an expander is given, its state is told by those of them that did not fail. -/
theorem remembers_accepted (o : Options) {ls : List SourceLine}
    (h : ∀ answer ∈ answers { options := o } ls, ¬ Overflows answer) :
    (afterEach { options := o } ls).Remembers (accepted { options := o } ls) := by
  obtain ⟨hs, he⟩ := afterEach_eq_expander h
  rw [he]
  exact remembers_expander hs o

theorem remembers_accepted_reopened :
    let e : Expander := {}
    let ls := faultyLines ++ [.ofText 9 0 "FUNC B".toList]
    (∀ answer ∈ e.answers ls, ¬ Overflows answer) ∧ (e.afterEach ls).Remembers (e.accepted ls) ∧
      (e.afterEach ls).scan = ⟨[⟨['A'], 0, 1⟩, ⟨['B'], 1, 9⟩], 1, 1, some ⟨['B'], 1, ⟨9, 0, 6⟩⟩⟩ := by
  intro e ls
  have ho : ∀ answer ∈ e.answers ls, ¬ Overflows answer := by decide +kernel
  exact ⟨ho, remembers_accepted {} ho, by decide +kernel⟩

end Expander

end LabelBasic
