import LabelBasic.Proofs.Expansion.Run
import LabelBasic.Proofs.Source.Places

namespace LabelBasic

namespace Fault

def keyword? : Fault → Option Keyword
  | nestedFunction .. | duplicateFunction .. | unterminatedFunction _ => some .func
  | unmatchedEnd => some .funcEnd
  | undefinedFunction _ => some .callFunc
  | missingOperand missing => some missing.keyword
  | labelOverflow _ => none

def name? : Fault → Option Text
  | nestedFunction name .. | duplicateFunction name _ => some name
  | undefinedFunction name | unterminatedFunction name => some name
  | unmatchedEnd | missingOperand _ | labelOverflow _ => none

/-- A function that is in the way, with the number of its `FUNC` line. -/
def earlier? : Fault → Option (Text × Nat)
  | nestedFunction _ outer outerLine => some (outer, outerLine)
  | duplicateFunction name firstLine => some (name, firstLine)
  | _ => none

end Fault

namespace Script

/-- A script is taken up to a line that is bad, or for whose label no number is left. -/
inductive Stops (s : Script) : Failure → Prop
  | bad {before after : Script} {l : SourceLine} {f : Fault} (hs : s = before ++ l :: after)
      (hb : Faultless before) (hf : FaultAfter before l f) : Stops s ⟨f, l.site⟩
  | full {before after : Script} {l : SourceLine} {f : Fault} (hs : s = before ++ l :: after)
      (hr : ¬ HasNumber before l) : Stops s ⟨f, l.site⟩

/-- The fault is that of a line which comes after the lines `before`. -/
structure Blames (before : Script) (l : SourceLine) (f : Fault) : Prop where
  keyword : ∃ k, f.keyword? = some k ∧ l.keyword? = some k
  name : ∀ n, f.name? = some n → l.operands.head? = some n
  missing : ∀ m, f = .missingOperand m → l.operands = []
  earlier : ∀ n k, f.earlier? = some (n, k) → ∃ u d v, before = u ++ d :: v ∧ d.number = k ∧
    d.Defines n ∧ ∀ x ∈ u ++ v, ¬ x.Defines n

variable {s t before : Script} {l : SourceLine} {f : Fault} {failure : Failure} (o : Options)

theorem Stops.append (h : Stops s failure) (t : Script) : Stops (s ++ t) failure := by
  cases h with
  | bad hs hb hf => exact .bad (by rw [hs, List.append_assoc, List.cons_append]) hb hf
  | full hs hr => exact .full (by rw [hs, List.append_assoc, List.cons_append]) hr

theorem exists_of_filter_eq_singleton {p : SourceLine → Bool} {d : SourceLine}
    (h : s.filter p = [d]) : ∃ u v, s = u ++ d :: v ∧ ∀ x ∈ u ++ v, ¬ p x := by
  obtain ⟨u, v, rfl, hu, -, hv⟩ := List.filter_eq_cons_iff.mp h
  refine ⟨u, v, rfl, fun x hx ↦ ?_⟩
  rcases List.mem_append.mp hx with hx | hx
  · exact hu x hx
  · exact List.filter_eq_nil_iff.mp hv x hx

theorem exists_only_definition {d : SourceLine} {n : Text}
    (h : before.filter (·.Defines n) = [d]) : ∃ u v, before = u ++ d :: v ∧ d.Defines n ∧
      ∀ x ∈ u ++ v, ¬ x.Defines n := by
  have hd : d ∈ before.filter (·.Defines n) := h ▸ List.mem_singleton_self d
  obtain ⟨u, v, hs, hx⟩ := exists_of_filter_eq_singleton h
  exact ⟨u, v, hs, by simpa using (List.mem_filter.mp hd).2, fun x hm ↦ by simpa using hx x hm⟩

theorem FaultAfter.blames (hb : Faultless before) (h : FaultAfter before l f) :
    Blames before l f := by
  cases h with
  | missing h =>
    refine ⟨⟨_, rfl, h.1⟩, nofun, ?_, nofun⟩
    intro m hm
    exact h.2.2
  | @nested n m outer h ho hl hm =>
    refine ⟨⟨_, rfl, h.1⟩, ?_, nofun, ?_⟩
    · rintro n ⟨⟩
      exact h.2
    · rintro n k ⟨⟩
      have hmem := (mem_of_latest? hl).1
      obtain ⟨first, hf⟩ := hb.filter_defines hmem hm
      have hfirst : outer ∈ before.filter (·.Defines m) :=
        List.mem_filter.mpr ⟨hmem, by simpa using hm⟩
      obtain rfl := List.mem_singleton.mp (hf ▸ hfirst)
      obtain ⟨u, v, hs, hd, hx⟩ := exists_only_definition hf
      exact ⟨u, outer, v, hs, rfl, hd, hx⟩
  | @duplicate n first h ho hf =>
    refine ⟨⟨_, rfl, h.1⟩, ?_, nofun, ?_⟩
    · rintro n ⟨⟩
      exact h.2
    · rintro n k ⟨⟩
      obtain ⟨u, v, hs, hd, hx⟩ := exists_only_definition hf
      exact ⟨u, first, v, hs, rfl, hd, hx⟩
  | unmatched h ho => exact ⟨⟨_, rfl, h⟩, nofun, nofun, nofun⟩
  | undefined h hn =>
    refine ⟨⟨_, rfl, h.1⟩, ?_, nofun, nofun⟩
    rintro n ⟨⟩
    rw [h.2]
    rfl

theorem blames_unterminated {n : Text} (before : Script) (h : l.Defines n) :
    Blames before l (.unterminatedFunction n) := by
  refine ⟨⟨_, rfl, h.1⟩, ?_, nofun, nofun⟩
  rintro m ⟨⟩
  exact h.2

theorem stops_of_feedAll {e : Expander}
    (h : Expander.feedAll { options := o } s = (e, some failure)) : Stops s failure := by
  induction s using List.reverseRecOn generalizing e with
  | nil => cases h
  | append_singleton s l ih =>
    rw [Expander.feedAll_append] at h
    split at h
    case h_2 e' failure' he =>
      obtain ⟨rfl, ⟨⟩⟩ := Prod.mk.inj h
      exact (ih he).append [l]
    case h_1 e' he =>
      obtain ⟨hs, rfl⟩ := faultless_of_feedAll o he
      have hfeed : (expander o s).feed l = (e, some failure) := by
        simpa only [Expander.feedAll_singleton] using h
      by_cases hl : IsBad s l
      · obtain ⟨f, hf⟩ := hl.fault hs
        rw [feed_expander_of_fault o hf] at hfeed
        cases hfeed
        exact .bad rfl hs hf
      · have hsl := faultless_append_singleton.mpr ⟨hs, hl⟩
        by_cases hr : HasNumber s l
        · rw [feed_expander o hsl hr] at hfeed
          cases hfeed
        · unfold Expander.feed at hfeed
          split at hfeed
          · cases hfeed
          · cases hfeed
            exact .full rfl hr

theorem faultless_of_plain (h : ∀ l ∈ s, l.keyword? = none) : Faultless s := by
  rintro before l after rfl hl
  have hk := h l (by simp)
  rcases hl with ⟨k, hl, -⟩ | ⟨n, hl, -⟩ | ⟨n, hl, -⟩ | ⟨hl, -⟩ | ⟨n, arguments, hl, -⟩
  · exact nomatch hk.symm.trans hl
  · exact nomatch hk.symm.trans hl.1
  · exact nomatch hk.symm.trans hl.1
  · exact nomatch hk.symm.trans hl
  · exact nomatch hk.symm.trans hl.1

theorem hasNumbers_of_plain (h : ∀ l ∈ s, l.keyword? = none) : HasNumbers s := by
  rintro before l after rfl
  have hk := h l (by simp)
  exact ⟨fun he ↦ (nomatch hk.symm.trans he), fun hc ↦ (nomatch hk.symm.trans hc)⟩

theorem not_isOpen_of_plain (h : ∀ l ∈ s, l.keyword? = none) : ¬ s.IsOpen := by
  have hfunc : ∀ l ∈ s, l.keyword? ≠ some .func := by
    intro l hl
    rw [h l hl]
    exact Option.some_ne_none _ |>.symm
  rw [Script.IsOpen, numberOf_eq_zero hfunc]
  exact Nat.not_lt_zero _

theorem expansion_of_plain (h : ∀ l ∈ s, l.keyword? = none) :
    s.expansion o = ⟨s.map fun l ↦ .copied (Scan.lineText o l), [], 0, o.trailingNewline⟩ := by
  have hlines : gather (lineOutput o) s = s.map fun l ↦ .copied (Scan.lineText o l) := by
    rw [← gather_eq_map]
    apply gather_congr
    rintro before l after rfl
    exact lineOutput_of_plain o before (h l (by simp))
  have hfunctions : gather definition s = [] := by
    rw [← gather_eq_nil s]
    apply gather_congr
    rintro before l after rfl
    exact definition_of_not_func before (by rw [h l (by simp)]; nofun)
  have hcalls : numberOf .callFunc s = 0 := by
    apply numberOf_eq_zero
    intro l hl
    rw [h l hl]
    nofun
  rw [expansion, hlines, hfunctions, hcalls]

theorem lineEvents_of_plain (h : ∀ l ∈ s, l.keyword? = none) : gather (lineEvents o) s = [] := by
  rw [← gather_eq_nil s]
  apply gather_congr
  rintro before l after rfl
  simp only [lineEvents, h l (by simp)]

end Script

open Script

variable {o : Options} {source attached : Source} {failure : Failure} {s : Script}

theorem byteSize_le_of_failed (h : (expand o source s).result = .error (.failed failure attached)) :
    source.text.byteSize ≤ maxOffset := by
  by_contra hsize
  rw [expand, if_neg hsize] at h
  cases h

theorem expand_of_plain (hsize : source.text.byteSize ≤ maxOffset)
    (h : ∀ l ∈ s, l.keyword? = none) : expand o source s = ⟨[], .ok (s.expansion o)⟩ := by
  rw [expand_of_taken hsize
    (feedAll_of_faultless o (faultless_of_plain h) (hasNumbers_of_plain h)),
    finish_of_not_isOpen o (not_isOpen_of_plain h)]
  simp only [expander, lineEvents_of_plain o h]
  rfl

theorem expandSource_plain (hsize : source.text.byteSize ≤ maxOffset)
    (h : ∀ l ∈ sourceLines source.text, l.keyword? = none) :
    expandSource o source = ⟨[], .ok ⟨source.text.rawLines.map fun part ↦
      .copied (if o.trimLines then part.trim else part.dropReturn), [], 0, o.trailingNewline⟩⟩ := by
  have htext : (fun l ↦ OutputLine.copied (Scan.lineText o l)) =
      (fun t ↦ .copied (if o.trimLines then Text.trim t else t)) ∘ SourceLine.text := rfl
  rw [expandSource, expand_of_plain hsize h, expansion_of_plain o h, htext, ← List.map_map,
    map_text_sourceLines, List.map_map]
  simp only [Function.comp_def, Text.trim_dropReturn]

theorem exists_keyword_of_failed
    (h : (expand o source s).result = .error (.failed failure attached)) :
    ∃ l ∈ s, l.keyword? ≠ none := by
  by_contra hk
  push Not at hk
  rw [expand_of_plain (byteSize_le_of_failed h) hk] at h
  cases h

theorem exists_blamed (hr : HasNumbers s)
    (h : (expand o source s).result = .error (.failed failure attached)) :
    attached = source ∧ ∃ before l after, s = before ++ l :: after ∧ failure.site = l.site ∧
      Blames before l failure.fault := by
  have hsize := byteSize_le_of_failed h
  rcases hf : Expander.feedAll { options := o } s with ⟨e, _ | f⟩
  · obtain ⟨hs, rfl⟩ := faultless_of_feedAll o hf
    rw [expand_of_taken hsize hf] at h
    by_cases ho : s.IsOpen
    · obtain ⟨d, n, hd, hn, -⟩ := hs.openFunction? ho
      rw [finish_of_isOpen o ho hd hn] at h
      cases h
      obtain ⟨before, after, hb⟩ := List.append_of_mem (mem_of_latest? hd).1
      exact ⟨rfl, before, d, after, hb, rfl, blames_unterminated before hn⟩
    · rw [finish_of_not_isOpen o ho] at h
      cases h
  · rw [expand_of_failure hsize hf] at h
    cases h
    refine ⟨rfl, ?_⟩
    cases stops_of_feedAll o hf with
    | bad hs hb hl => exact ⟨_, _, _, hs, rfl, hl.blames hb⟩
    | full hs hn => exact absurd (hr _ _ _ hs) hn

end LabelBasic
