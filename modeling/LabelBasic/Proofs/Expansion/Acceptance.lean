import LabelBasic.Proofs.Expansion.Run
import LabelBasic.Proofs.Script.Grammar

namespace LabelBasic

open Script

/-- What the lines of a source say about the result of its expansion. -/
structure Verdict (s : Script) (source : Source) (r : Except ExpansionError Expansion) : Prop where
  number : ∀ before l after, s = before ++ l :: after → l.number = before.length + 1
  bad : ∀ before l after, s = before ++ l :: after → Faultless before → IsBad before l →
    (∃ f, FaultAfter before l f) ∧
      ∀ f, FaultAfter before l f → r = .error (.failed ⟨f, l.site⟩ source)
  first : ¬ Faultless s →
    ∃ before l after, s = before ++ l :: after ∧ Faultless before ∧ IsBad before l
  unterminated : Faultless s → s.IsOpen →
    ∃ last n, s.latest? = some last ∧ last.Defines n ∧
      r = .error (.failed ⟨.unterminatedFunction n, last.site⟩ source)
  expanded : Faultless s → ¬ s.IsOpen → ∃ x, r = .ok x
  grammar : (∃ x, r = .ok x) ↔ WellFormed s

variable (o : Options) {source : Source} {s : Script}

theorem expand_of_bad (hsize : source.text.byteSize ≤ maxOffset) {l : SourceLine} {f : Fault}
    (hs : Faultless s) (hr : HasNumbers s) (hf : FaultAfter s l f) (after : Script) :
    (expand o source (s ++ l :: after)).result = .error (.failed ⟨f, l.site⟩ source) := by
  rw [expand_of_failure hsize (feedAll_of_bad o hs hr hf after)]

theorem expand_of_isOpen (hsize : source.text.byteSize ≤ maxOffset) (hs : Faultless s)
    (hr : HasNumbers s) (ho : s.IsOpen) :
    ∃ last n, s.latest? = some last ∧ last.Defines n ∧
      (expand o source s).result =
        .error (.failed ⟨.unterminatedFunction n, last.site⟩ source) := by
  obtain ⟨last, n, hl, hn, -⟩ := hs.openFunction? ho
  refine ⟨last, n, hl, hn, ?_⟩
  rw [expand_of_taken hsize (feedAll_of_faultless o hs hr), finish_of_isOpen o ho hl hn]
  rfl

theorem expand_of_faultless (hsize : source.text.byteSize ≤ maxOffset) (hs : Faultless s)
    (hr : HasNumbers s) (ho : ¬ s.IsOpen) :
    (expand o source s).result = .ok (s.expansion o) := by
  rw [expand_of_taken hsize (feedAll_of_faultless o hs hr), finish_of_not_isOpen o ho]
  rfl

/-- The result of an expansion follows from the lines of the source, whatever the settings. -/
theorem expandSource_verdict (hsize : source.text.byteSize ≤ maxOffset) :
    Verdict (sourceLines source.text) source (expandSource o source).result := by
  have hr := hasNumbers_sourceLines hsize
  refine ⟨?_, ?_, exists_first_bad, ?_, ?_, ?_⟩
  · intro before l after hs
    exact number_of_sourceLines hsize hs
  · intro before l after hs hb hl
    refine ⟨hl.fault hb, fun f hf ↦ ?_⟩
    rw [hs] at hr
    rw [expandSource, hs]
    exact expand_of_bad o hsize hb hr.of_append hf after
  · intro hs ho
    exact expand_of_isOpen o hsize hs hr ho
  · intro hs ho
    exact ⟨_, expand_of_faultless o hsize hs hr ho⟩
  · rw [wellFormed_iff]
    constructor
    · rintro ⟨x, hx⟩
      obtain ⟨-, hs, ho, -⟩ := expand_eq_ok hx
      exact ⟨hs, ho⟩
    · rintro ⟨hs, ho⟩
      exact ⟨_, expand_of_faultless o hsize hs hr ho⟩

theorem expandSource_verdict_nested :
    let source : Source := ⟨"a.lb".toList, "FUNC A\n FUNC A\nFUNC".toList⟩
    source.text.byteSize ≤ maxOffset ∧
      Verdict (sourceLines source.text) source (expandSource {} source).result ∧
      (expandSource {} source).result =
        .error (.failed ⟨.nestedFunction ['A'] ['A'] 1, ⟨2, 8, 6⟩⟩ source) :=
  ⟨by decide, expandSource_verdict {} (by decide), by decide +kernel⟩

end LabelBasic
