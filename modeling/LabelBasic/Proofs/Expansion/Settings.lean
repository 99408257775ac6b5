import LabelBasic.Proofs.Expansion.Acceptance
import LabelBasic.Proofs.Expansion.Idempotence

namespace LabelBasic

open Script Text

section Uniform

variable {source : Source} {s : Script}

/-- An expansion has one error for all settings, which stops it at the same line, or it succeeds for
all of them. -/
theorem expand_uniform (hr : source.text.byteSize ≤ maxOffset → s.HasNumbers) :
    (∃ e taken, ∀ o, expand o source s = ⟨gather (lineEvents o) taken, .error e⟩) ∨
      s.Faultless ∧ ∀ o, expand o source s = ⟨gather (lineEvents o) s, .ok (s.expansion o)⟩ := by
  by_cases hsize : source.text.byteSize ≤ maxOffset
  case neg =>
    refine .inl ⟨.sourceTooLarge source.text.byteSize, [], fun o ↦ ?_⟩
    rw [expand, if_neg hsize]
    rfl
  by_cases hs : s.Faultless
  · by_cases ho : s.IsOpen
    · obtain ⟨d, n, hd, hn, -⟩ := hs.openFunction? ho
      refine .inl ⟨.failed ⟨.unterminatedFunction n, d.site⟩ source, s, fun o ↦ ?_⟩
      rw [expand_of_taken hsize (feedAll_of_faultless o hs (hr hsize)),
        finish_of_isOpen o ho hd hn]
      rfl
    · refine .inr ⟨hs, fun o ↦ ?_⟩
      rw [expand_of_taken hsize (feedAll_of_faultless o hs (hr hsize)), finish_of_not_isOpen o ho]
      rfl
  · obtain ⟨before, l, after, rfl, hb, hl⟩ := exists_first_bad hs
    obtain ⟨f, hf⟩ := hl.fault hb
    refine .inl ⟨.failed ⟨f, l.site⟩ source, before, fun o ↦ ?_⟩
    rw [expand_of_failure hsize (feedAll_of_bad o hb (hr hsize).of_append hf after)]
    rfl

end Uniform

/-- The line without blank characters around it, if it is a line of the script. -/
def OutputLine.trim : OutputLine → OutputLine
  | copied t => copied t.trim
  | generated i => generated i

theorem OutputLine.text_trim {x : OutputLine} (h : ∀ i, x = .generated i → i.HasWords) :
    x.trim.text = x.text.trim := by
  cases x with
  | copied t => rfl
  | generated i => exact (Instruction.isSettled_render (h i rfl)).trimmed.symm

namespace Script

variable (o : Options)

theorem map_trim_generated (code : List Instruction) :
    (code.map OutputLine.generated).map OutputLine.trim = code.map .generated := by
  rw [List.map_map]
  rfl

theorem lineOutput_trim (before : Script) (l : SourceLine) :
    lineOutput { o with trimLines := true } before l =
      (lineOutput { o with trimLines := false } before l).map OutputLine.trim := by
  unfold lineOutput
  generalize l.keyword? = k, l.operands = ws
  match k, ws with
  | some .func, _ :: _ | some .funcEnd, _ | some .callFunc, _ :: _ | some .funcRtn, _ :: _ =>
    exact (map_trim_generated _).symm
  | none, _ | some .func, [] | some .funcRtn, [] | some .callFunc, [] => rfl

theorem lines_trim (s : Script) :
    (s.expansion { o with trimLines := true }).lines =
      (s.expansion { o with trimLines := false }).lines.map OutputLine.trim := by
  rw [expansion, expansion, map_gather]
  apply gather_congr
  intro before l after _
  exact lineOutput_trim o before l

theorem texts_trim (s : Script) :
    (s.expansion { o with trimLines := true }).texts =
      (s.expansion { o with trimLines := false }).texts.map Text.trim := by
  rw [Expansion.texts, lines_trim, Expansion.texts, List.map_map, List.map_map]
  apply List.map_congr_left
  intro x hx
  apply OutputLine.text_trim
  intro i hi
  obtain ⟨before, l, after, -, hl⟩ := mem_gather.mp hx
  exact hasWords_of_lineOutput (hi ▸ hl)

end Script

/-- With trimming or without it an expansion fails with the same error, or it has the same functions,
calls and events and the same lines, up to blank characters around them. -/
theorem expandSource_trim (o : Options) (source : Source) :
    let trimmed := expandSource { o with trimLines := true } source
    let untrimmed := expandSource { o with trimLines := false } source
    trimmed.log = untrimmed.log ∧
      ((∃ e, trimmed.result = .error e ∧ untrimmed.result = .error e) ∨
        ∃ x y, trimmed.result = .ok x ∧ untrimmed.result = .ok y ∧ x.functions = y.functions ∧
          x.callSites = y.callSites ∧ x.texts = y.texts.map Text.trim) := by
  intro trimmed untrimmed
  have hr := @hasNumbers_sourceLines source.text
  obtain ⟨e, taken, h⟩ | ⟨-, h⟩ := expand_uniform hr
  · rw [show trimmed = _ from h _, show untrimmed = _ from h _]
    exact ⟨rfl, .inl ⟨e, rfl, rfl⟩⟩
  · rw [show trimmed = _ from h _, show untrimmed = _ from h _]
    exact ⟨rfl, .inr ⟨_, _, rfl, rfl, rfl, rfl, texts_trim o (sourceLines source.text)⟩⟩

example :
    (expandSource { markers := false, trimLines := false }
      ⟨[], " # FUNC A\n\u3000FUNC A \n\n x\t\nFUNCEND\u2003".toList⟩).result.map Expansion.texts =
      .ok [" # FUNC A".toList, "GOTO SKIPFUNC0".toList, "LBL FUNC0".toList, [], " x\t".toList,
        "GOTO $FUNCRTNGOTO".toList, "LBL SKIPFUNC0".toList] := by
  decide +kernel

end LabelBasic
