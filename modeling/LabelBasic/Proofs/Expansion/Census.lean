import LabelBasic.Proofs.Expansion.Labels
import LabelBasic.Proofs.Expansion.Erasure

namespace LabelBasic

open Expander

def Expander.labels (e : Expander) : List Label := e.output.toList.filterMap OutputLine.label?

namespace Scan

/-- How often each label was defined before this state, if the ends of `abandoned` bodies found no
number for the next function. These bodies all had the last number, so they count for one label. -/
structure Census (s : Scan) (abandoned : Nat) (labels : List Label) : Prop where
  bounded : s.nextDefinition ≤ maxLabel
  opened : ∀ f, s.opened = some f → f.id = s.nextDefinition
  exhausted : abandoned ≠ 0 → s.nextDefinition = maxLabel
  entry : ∀ i, labels.count (.entry i) =
    if i < s.nextDefinition then 1
    else if i = s.nextDefinition then abandoned + s.opened.isSome.toNat else 0
  skip : ∀ i, labels.count (.skip i) = if i < s.nextDefinition then 1 else 0
  resume : ∀ j, labels.count (.resume j) = if j < s.nextCallSite then 1 else 0

variable {o : Options} {s s' : Scan} {l : SourceLine} {n : Nat} {labels : List Label}

theorem Refuses.ne_overflow {f : Fault} (h : s.Refuses l f) :
    f ≠ .labelOverflow "function".toList := by
  cases h with
  | missing | nested | duplicate | unmatched | undefined => nofun
  | full => decide

theorem Census.opens (h : s.Census n labels) (ho : s.opened = none) (functions : List Definition)
    (name : Text) (place : Site) :
    Census { s with functions := functions, opened := some ⟨name, s.nextDefinition, place⟩ } n
      (labels ++ [.entry s.nextDefinition]) := by
  refine ⟨h.bounded, ?_, h.exhausted, ?_, ?_, ?_⟩
  · rintro f ⟨⟩
    rfl
  · intro i
    have hi := h.entry i
    rw [ho] at hi
    rw [List.count_append, hi, List.count_singleton]
    simp only [beq_iff_eq, Label.entry.injEq, Option.isSome_none, Option.isSome_some,
      Bool.toNat_false, Bool.toNat_true]
    split_ifs <;> omega
  · intro i
    rw [List.count_append, h.skip i, List.count_singleton]
    simp
  · intro j
    rw [List.count_append, h.resume j, List.count_singleton]
    simp

theorem Census.closes (h : s.Census n labels) {f : OpenFunction} (ho : s.opened = some f)
    (hr : s.nextDefinition < maxLabel) :
    Census { s with nextDefinition := s.nextDefinition + 1, opened := none } n
      (labels ++ [.skip f.id]) := by
  have hn : n = 0 := by
    by_contra hn
    have := h.exhausted hn
    omega
  refine ⟨hr, nofun, fun hne ↦ absurd hn hne, ?_, ?_, ?_⟩
  · intro i
    have hi := h.entry i
    rw [ho, hn] at hi
    rw [List.count_append, hi, List.count_singleton, hn]
    simp only [beq_iff_eq, reduceCtorEq, if_false, Option.isSome_none, Option.isSome_some,
      Bool.toNat_false, Bool.toNat_true]
    split_ifs <;> omega
  · intro i
    rw [List.count_append, h.skip i, List.count_singleton, h.opened f ho]
    simp only [beq_iff_eq, Label.skip.injEq]
    split_ifs <;> omega
  · intro j
    rw [List.count_append, h.resume j, List.count_singleton]
    simp

theorem Census.calls (h : s.Census n labels) :
    Census { s with nextCallSite := s.nextCallSite + 1 } n
      (labels ++ [.resume s.nextCallSite]) := by
  refine ⟨h.bounded, h.opened, h.exhausted, ?_, ?_, ?_⟩
  · intro i
    rw [List.count_append, h.entry i, List.count_singleton]
    simp
  · intro i
    rw [List.count_append, h.skip i, List.count_singleton]
    simp
  · intro j
    rw [List.count_append, h.resume j, List.count_singleton]
    simp only [beq_iff_eq, Label.resume.injEq]
    split_ifs <;> omega

theorem Census.abandons (h : s.Census n labels) {f : OpenFunction} (ho : s.opened = some f)
    (hr : ¬ s.nextDefinition < maxLabel) :
    Census { s with opened := none } (n + 1) labels := by
  refine ⟨h.bounded, nofun, fun _ ↦ ?_, ?_, h.skip, h.resume⟩
  · have := h.bounded
    change s.nextDefinition = maxLabel
    omega
  · intro i
    have hi := h.entry i
    rw [ho] at hi
    exact hi

theorem Census.eq_zero_of_ne (h : s.Census n labels) (hs : s.nextDefinition ≠ maxLabel) : n = 0 := by
  by_contra hn
  exact hs (h.exhausted hn)

theorem Census.count_le_one (h : s.Census n labels) {a : Label} (ha : a ≠ .entry maxLabel) :
    labels.count a ≤ 1 := by
  cases a with
  | entry i =>
    have ho := s.opened.isSome.toNat_le
    have hi : i = s.nextDefinition → n = 0 := by
      rintro rfl
      exact h.eq_zero_of_ne fun hs ↦ ha (hs ▸ rfl)
    rw [h.entry i]
    split_ifs <;> omega
  | skip i =>
    rw [h.skip i]
    split_ifs <;> omega
  | resume j =>
    rw [h.resume j]
    split_ifs <;> omega

theorem Census.count_last (h : s.Census n labels) :
    labels.count (.entry maxLabel) =
      if s.nextDefinition = maxLabel then n + s.opened.isSome.toNat else 0 := by
  have hb := h.bounded
  rw [h.entry maxLabel, if_neg (by omega)]
  simp only [eq_comm]

theorem Census.nodup_iff (h : s.Census n labels) :
    labels.Nodup ↔ n + s.opened.isSome.toNat ≤ 1 := by
  have hlast : labels.count (.entry maxLabel) ≤ 1 ↔ n + s.opened.isSome.toNat ≤ 1 := by
    rw [h.count_last]
    split_ifs with hs
    · rfl
    · have ho := s.opened.isSome.toNat_le
      have hn := h.eq_zero_of_ne hs
      omega
  rw [List.nodup_iff_count_le_one, ← hlast]
  refine ⟨fun hc ↦ hc _, fun hc a ↦ ?_⟩
  by_cases ha : a = .entry maxLabel
  · exact ha ▸ hc
  · exact h.count_le_one ha

end Scan

namespace Expander

variable {e : Expander} {l : SourceLine} {n : Nat}

def KeepsCensus (e : Expander) (n : Nat) (l : SourceLine) : Prop :=
  (e.feed l).1.scan.Census (n + if Overflows (e.feed l).2 then 1 else 0) (e.feed l).1.labels

theorem keepsCensus_of_ok {scan : Scan} {emission : Emission}
    (hl : e.scan.step e.options l = (scan, .ok emission))
    (h : scan.Census n (e.labels ++ emission.lines.filterMap OutputLine.label?)) :
    e.KeepsCensus n l := by
  have hlabels : labels { e with
      scan := scan
      output := e.output ++ emission.lines
      log := e.log ++ emission.events } =
        e.labels ++ emission.lines.filterMap OutputLine.label? := by
    simp [labels]
  rw [KeepsCensus, feed_of_ok hl, hlabels]
  exact h

theorem keepsCensus_of_error {scan : Scan} {fault : Fault}
    (hl : e.scan.step e.options l = (scan, .error fault))
    (h : scan.Census (n + if fault = .labelOverflow "function".toList then 1 else 0) e.labels) :
    e.KeepsCensus n l := by
  have hlabels : labels { e with scan := scan } = e.labels := rfl
  rw [KeepsCensus, feed_of_error hl, hlabels]
  simpa only [Overflows, Option.map_some, Option.some.injEq] using h

theorem keepsCensus (h : e.scan.Census n e.labels) (l : SourceLine) : e.KeepsCensus n l := by
  have hstep := Scan.outcome_step e.options e.scan l
  generalize hl : e.scan.step e.options l = answer at hstep
  cases hstep with
  | copied | returned =>
    apply keepsCensus_of_ok hl
    rwa [← List.append_nil e.labels] at h
  | opened hd ho hn =>
    apply keepsCensus_of_ok hl
    rw [Emission.ofCode, Script.filterMap_label?_openingCode]
    exact h.opens ho _ _ _
  | closed hk ho hr =>
    apply keepsCensus_of_ok hl
    rw [Emission.ofCode, Script.filterMap_label?_closingCode]
    exact h.closes ho hr
  | called hc hd hr =>
    apply keepsCensus_of_ok hl
    rw [Emission.ofCode, Script.filterMap_label?_callingCode]
    exact h.calls
  | refused hf =>
    apply keepsCensus_of_error hl
    rw [if_neg hf.ne_overflow]
    exact h
  | abandoned hk ho hr =>
    apply keepsCensus_of_error hl
    rw [if_pos rfl]
    exact h.abandons ho hr

/-- The number of lines of a run that found no number for the next function. -/
def overflows (e : Expander) (ls : List SourceLine) : Nat :=
  (e.answers ls).countP fun answer ↦ Overflows answer

theorem census_afterEach (h : e.scan.Census n e.labels) (ls : List SourceLine) :
    (e.afterEach ls).scan.Census (n + e.overflows ls) (e.afterEach ls).labels := by
  induction ls generalizing e n with
  | nil => exact h
  | cons l ls ih =>
    have hn : n + e.overflows (l :: ls) =
        n + (if Overflows (e.feed l).2 then 1 else 0) + (e.feed l).1.overflows ls := by
      rw [overflows, answers, List.countP_cons, overflows]
      simp only [decide_eq_true_eq]
      omega
    rw [afterEach_cons, hn]
    exact ih (keepsCensus h l)

theorem census_run (o : Options) (ls : List SourceLine) :
    (afterEach { options := o } ls).scan.Census (overflows { options := o } ls)
      (afterEach { options := o } ls).labels := by
  have h : Scan.Census {} 0 [] :=
    ⟨Nat.zero_le _, nofun, fun h ↦ absurd rfl h, fun i ↦ by simp, fun i ↦ by simp,
      fun j ↦ by simp⟩
  rw [← Nat.zero_add (overflows _ _)]
  exact census_afterEach (e := { options := o }) h ls

/-- The one label that can be defined twice is that of the function with the last number, and it is
when a function starts after a line that found no number for it. -/
theorem labels_nodup_iff (o : Options) (ls : List SourceLine) :
    let e : Expander := { options := o }
    (∀ a, a ≠ .entry maxLabel → (e.afterEach ls).labels.count a ≤ 1) ∧
      (((e.afterEach ls).labels.map Label.spelling).Nodup ↔
        e.overflows ls + (e.afterEach ls).inFunction.toNat ≤ 1) := by
  intro e
  have h := census_run o ls
  refine ⟨fun a ha ↦ h.count_le_one ha, ?_⟩
  rw [List.nodup_map_iff fun a b ↦ Label.spelling_inj.mp]
  exact h.nodup_iff

theorem overflows_append (e : Expander) (s t : List SourceLine) :
    e.overflows (s ++ t) = e.overflows s + (e.afterEach s).overflows t := by
  rw [overflows, answers_append, List.countP_append, overflows, overflows]

def functionName (i : Nat) : Text := "F".toList ++ Text.decimal i

def openingLine (i : Nat) : SourceLine := .ofText 1 0 ("FUNC ".toList ++ functionName i)

def closingLine : SourceLine := .ofText 1 0 "FUNCEND".toList

def emptyFunctions : Nat → List SourceLine
  | 0 => []
  | n + 1 => emptyFunctions n ++ [openingLine n, closingLine]

theorem isWord_functionName (i : Nat) : Text.IsWord (functionName i) :=
  Text.isWord_append_decimal (by decide) i

theorem defines_openingLine (i : Nat) : (openingLine i).Defines (functionName i) := by
  have hw : (openingLine i).text.words = ["FUNC".toList, functionName i] := by
    change Text.words ("FUNC".toList ++ ' ' :: functionName i) = _
    rw [Text.words_append_space (by decide), Text.words_of_isWord (isWord_functionName i)]
  simp only [SourceLine.Defines, SourceLine.keyword?, SourceLine.operands, hw]
  exact ⟨rfl, rfl⟩

theorem functionName_inj {i j : Nat} (h : functionName i = functionName j) : i = j :=
  Text.decimal_inj.mp (List.append_cancel_left h)

structure IsReady (s : Scan) (n : Nat) : Prop where
  opened : s.opened = none
  names : ∀ d ∈ s.functions, ∃ i < n, d.name = functionName i

theorem IsReady.lookup? {s : Scan} (h : IsReady s n) : s.lookup? (functionName n) = none := by
  rw [Scan.lookup?, List.find?_eq_none]
  intro d hd hn
  obtain ⟨i, hi, hname⟩ := h.names d hd
  have : i = n := functionName_inj (hname.symm.trans (eq_of_beq hn))
  omega

theorem scan_feed_openingLine (h : IsReady e.scan n) :
    (e.feed (openingLine n)).1.scan = { e.scan with
      functions := e.scan.functions ++ [⟨functionName n, e.scan.nextDefinition, 1⟩]
      opened := some ⟨functionName n, e.scan.nextDefinition, (openingLine n).site⟩ } := by
  have hs := Scan.step_of_defines e.options e.scan (defines_openingLine n)
  simp only [Scan.openFunction, h.opened, h.lookup?] at hs
  rw [feed_of_ok hs]
  rfl

theorem scan_feed_closingLine {f : OpenFunction} (ho : e.scan.opened = some f)
    (hr : e.scan.nextDefinition < maxLabel) :
    (e.feed closingLine).1.scan =
      { e.scan with nextDefinition := e.scan.nextDefinition + 1, opened := none } := by
  have hs := Scan.step_of_closes e.options e.scan (l := closingLine) (by decide)
  simp only [Scan.closeFunction, ho, if_pos hr] at hs
  rw [feed_of_ok hs]

theorem feed_closingLine_of_full {f : OpenFunction} (ho : e.scan.opened = some f)
    (hr : ¬ e.scan.nextDefinition < maxLabel) :
    (e.feed closingLine).1.scan = { e.scan with opened := none } ∧
      Overflows (e.feed closingLine).2 := by
  have hs := Scan.step_of_closes e.options e.scan (l := closingLine) (by decide)
  simp only [Scan.closeFunction, ho, if_neg hr] at hs
  rw [feed_of_error hs]
  exact ⟨rfl, rfl⟩

theorem IsReady.next {s t : Scan} (h : IsReady s n) {id line : Nat}
    (ht : t.functions = s.functions ++ [⟨functionName n, id, line⟩]) (ho : t.opened = none) :
    IsReady t (n + 1) := by
  refine ⟨ho, fun d hd ↦ ?_⟩
  rw [ht, List.mem_append, List.mem_singleton] at hd
  rcases hd with hd | rfl
  · obtain ⟨i, hi, hname⟩ := h.names d hd
    exact ⟨i, by omega, hname⟩
  · exact ⟨n, by omega, rfl⟩

theorem IsReady.afterEach (h : IsReady e.scan n) (hr : e.scan.nextDefinition < maxLabel) :
    IsReady (e.afterEach [openingLine n, closingLine]).scan (n + 1) ∧
      (e.afterEach [openingLine n, closingLine]).scan.nextDefinition =
        e.scan.nextDefinition + 1 := by
  have ho := scan_feed_openingLine h
  have hc : (e.afterEach [openingLine n, closingLine]).scan = _ :=
    scan_feed_closingLine (e := (e.feed (openingLine n)).1) (by rw [ho]) (by rw [ho]; exact hr)
  rw [hc, ho]
  exact ⟨h.next rfl rfl, rfl⟩

theorem IsReady.afterEach_of_full (h : IsReady e.scan n) (hr : ¬ e.scan.nextDefinition < maxLabel) :
    IsReady (e.afterEach [openingLine n, closingLine]).scan (n + 1) ∧
      e.overflows [openingLine n, closingLine] ≠ 0 := by
  have ho := scan_feed_openingLine h
  obtain ⟨hs, hc⟩ := feed_closingLine_of_full (e := (e.feed (openingLine n)).1)
    (by rw [ho]) (by rw [ho]; exact hr)
  constructor
  · change IsReady ((e.feed (openingLine n)).1.feed closingLine).1.scan (n + 1)
    rw [hs, ho]
    exact h.next rfl rfl
  · rw [overflows, ← Nat.pos_iff_ne_zero, List.countP_pos_iff]
    exact ⟨_, by simp [answers], decide_eq_true hc⟩

theorem isReady_emptyFunctions (o : Options) (hn : n ≤ maxLabel) :
    IsReady (afterEach { options := o } (emptyFunctions n)).scan n ∧
      (afterEach { options := o } (emptyFunctions n)).scan.nextDefinition = n := by
  induction n with
  | zero => exact ⟨⟨rfl, nofun⟩, rfl⟩
  | succ n ih =>
    obtain ⟨hready, hnext⟩ := ih (by omega)
    rw [emptyFunctions, afterEach_append]
    have h := hready.afterEach (by omega)
    rw [hnext] at h
    exact h

/-- The definitions of one function more than there are numbers, and the start of another. -/
def overflowingLines : List SourceLine :=
  emptyFunctions (maxLabel + 1) ++ [openingLine (maxLabel + 1)]

theorem not_nodup_of_full (o : Options) (hn : n = maxLabel) :
    ¬ (afterEach { options := o } (emptyFunctions (n + 1) ++ [openingLine (n + 1)])).labels.Nodup := by
  obtain ⟨hready, hnext⟩ := isReady_emptyFunctions o (Nat.le_of_eq hn)
  obtain ⟨hfull, hoverflows⟩ := hready.afterEach_of_full (by omega)
  have hopen : (afterEach { options := o }
      (emptyFunctions (n + 1) ++ [openingLine (n + 1)])).scan.opened.isSome = true := by
    rw [emptyFunctions, afterEach_append, afterEach_append]
    change (feed _ _).1.scan.opened.isSome = true
    rw [scan_feed_openingLine hfull]
    rfl
  rw [(census_run o _).nodup_iff, hopen, emptyFunctions, overflows_append, overflows_append,
    Bool.toNat_true]
  omega

theorem not_forall_labels_nodup :
    ¬ ∀ (o : Options) (ls : List SourceLine),
      ((afterEach { options := o } ls).labels.map Label.spelling).Nodup := by
  intro h
  exact not_nodup_of_full {} rfl ((h {} overflowingLines).of_map _)

end Expander

end LabelBasic
