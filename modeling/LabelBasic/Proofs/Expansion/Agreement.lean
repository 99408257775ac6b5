import Mathlib.Data.List.Forall2
import LabelBasic.Proofs.Expansion.Lockstep

namespace LabelBasic

open Text

/-- Both expansions succeed with the same result, or both fail with related errors. -/
def Agree (R : ExpansionError → ExpansionError → Prop)
    (r r' : Except ExpansionError Expansion) : Prop :=
  (∃ x, r = .ok x ∧ r' = .ok x) ∨ ∃ e e', r = .error e ∧ r' = .error e' ∧ R e e'

namespace ExpansionError

/-- The errors say the same of a line with the same number, and show the same text. -/
def SameText (e e' : ExpansionError) : Prop :=
  ∃ f f' source source' t, e = failed f source ∧ e' = failed f' source' ∧ f.fault = f'.fault ∧
    f.site.line = f'.site.line ∧ e.excerpt? = some t ∧ e'.excerpt? = some t

def SameFailure (e e' : ExpansionError) : Prop :=
  ∃ f source source', e = failed f source ∧ e' = failed f source'

end ExpansionError

section Lockstep

variable {o : Options} {source source' : Source} {s s' : Script}

/-- Scripts whose lines are read alike have the same expansion or fail at the same line. -/
theorem expand_alike (h : List.Forall₂ (SourceLine.Alike o) s s')
    (hsize : source.text.byteSize ≤ maxOffset) (hsize' : source'.text.byteSize ≤ maxOffset) :
    (∃ x, (expand o source s).result = .ok x ∧ (expand o source' s').result = .ok x) ∨
      ∃ f f', (expand o source s).result = .error (.failed f source) ∧
        (expand o source' s').result = .error (.failed f' source') ∧ f.heading = f'.heading := by
  have he : Expander.Alike { options := o } { options := o } := ⟨rfl, ⟨rfl, rfl, rfl, rfl⟩, rfl, rfl⟩
  have hid (r : Except Failure Expansion) : r.map (fun x ↦ x) = r := by cases r <;> rfl
  obtain ⟨ha, hf⟩ := he.feedAll h
  apply expand_related hsize hsize' hf
  rw [hid]
  exact ha.finish

theorem forall₂_numbered {parts items : List Text}
    (h : List.Forall₂ (fun part item ↦ ∀ n a b, Scan.lineText o (.ofText n a part.dropReturn) =
      Scan.lineText o (.ofText n b item)) parts items) (number offset offset' : Nat) :
    List.Forall₂ (SourceLine.Alike o) (numberLines number offset parts)
      (numberItems number offset' items) := by
  induction h generalizing number offset offset' with
  | nil => exact .nil
  | cons h _ ih => exact .cons ⟨rfl, h _ _ _⟩ (ih _ _ _)

end Lockstep

section Places

variable {o : Options} {source attached : Source} {failure : Failure} {parts : List Text}
  {text : Text → Text}

theorem exists_site_of_failed (hn : parts.length ≤ maxOffset)
    (h : (expand o source (placedLines text 0 0 parts)).result =
      .error (.failed failure attached)) :
    ∃ k l, (placedLines text 0 0 parts)[k]? = some l ∧ failure.site = l.site ∧
      failure.site.line = k + 1 ∧ l.text.words ≠ [] := by
  have hr : Script.HasNumbers (placedLines text 0 0 parts) :=
    Script.hasNumbers_of_length_le (by rwa [length_placedLines])
  obtain ⟨-, before, l, after, hp, hs, hb⟩ := exists_blamed hr h
  obtain ⟨k, -, hk⟩ := hb.keyword
  refine ⟨before.length, l, getElem?_of_append hp, hs, ?_, ?_⟩
  · rw [hs]
    exact number_of_placedLines hp
  · rw [SourceLine.words_of_keyword hk]
    exact List.cons_ne_nil _ _

theorem site_dropReturn {part : Text} (h : part.dropReturn.words ≠ []) (n a b b' : Nat) :
    (SourceLine.mk n ⟨a, b⟩ part.dropReturn).site = (SourceLine.mk n ⟨a, b'⟩ part).site := by
  rcases exists_dropReturn part with hd | hd
  · rw [← hd]
    rfl
  · have hlead : part.byteSize - part.trimStart.byteSize =
        part.dropReturn.byteSize - part.dropReturn.trimStart.byteSize := by
      conv_lhs => rw [hd, trimStart_append h, byteSize_append, byteSize_append]
      omega
    simp only [SourceLine.site, trim_dropReturn, hlead]

end Places

theorem byteSize_unlines_dropReturn_le (parts : List Text) :
    (unlines (parts.map dropReturn)).byteSize ≤ (unlines parts).byteSize := by
  induction parts with
  | nil => exact Nat.le_refl _
  | cons t parts ih =>
    have := byteSize_dropReturn_le t
    rw [List.map_cons, byteSize_unlines_cons, byteSize_unlines_cons]
    omega

theorem byteSize_join_le {parts : List Text} {n : Nat} (h : (unlines parts).byteSize ≤ n + 1) :
    (join ['\n'] parts).byteSize ≤ n := by
  by_cases hp : parts = []
  · rw [hp]
    exact Nat.zero_le n
  · rw [← join_append_newline hp, byteSize_append] at h
    exact Nat.le_of_succ_le_succ h

section Sources

variable (o : Options) (name : Text) {t : Text} {items : List Text}

theorem agree_lines (ht : t.byteSize ≤ maxOffset) :
    Agree ExpansionError.SameText (expandSource o ⟨name, t⟩).result
      (expandLines o ((sourceLines t).map SourceLine.text)).result := by
  have htexts := map_text_sourceLines t
  have hsize : (join ['\n'] ((sourceLines t).map SourceLine.text)).byteSize ≤ maxOffset := by
    have hm := (isMadeOf_rawLines t).byteSize_unlines_le
    have hd := byteSize_unlines_dropReturn_le t.rawLines
    apply byteSize_join_le
    rw [htexts]
    omega
  have hl : List.Forall₂ (SourceLine.Alike o) (sourceLines t)
      (numberItems 0 0 ((sourceLines t).map SourceLine.text)) := by
    rw [htexts]
    apply forall₂_numbered
    rw [List.forall₂_map_right_iff, List.forall₂_same]
    exact fun _ _ _ _ _ ↦ rfl
  let input : Source := ⟨"<input>".toList, join ['\n'] ((sourceLines t).map SourceLine.text)⟩
  rcases @expand_alike o ⟨name, t⟩ input _ _ hl ht hsize with h | ⟨f, f', hf, hf', hh⟩
  · exact .inl h
  · obtain ⟨hfault, hline⟩ := Prod.mk.inj hh
    obtain ⟨before, u, after, hu, hp⟩ := exists_pinpoints_source hf
    obtain ⟨before', u', after', hu', hp'⟩ := exists_pinpoints_lines hf'
    have hlen : before.length = before'.length := by
      have := hp.line
      have := hp'.line
      omega
    obtain ⟨-, hcons⟩ := List.append_inj (hu.symm.trans hu') hlen
    obtain ⟨rfl, -⟩ := List.cons.inj hcons
    exact .inr ⟨_, _, hf, hf', f, f', _, _, _, rfl, rfl, hfault, hline, hp.excerpt, hp'.excerpt⟩

theorem agree_unlines (hn : ∀ t ∈ items, '\n' ∉ t)
    (hr : o.trimLines = false → ∀ t ∈ items, t.getLast? ≠ some '\r')
    (hsize : (unlines items).byteSize ≤ maxOffset) :
    Agree ExpansionError.SameFailure (expandLines o items).result
      (expandSource o ⟨name, unlines items⟩).result := by
  have hjoin : (join ['\n'] items).byteSize ≤ maxOffset := byteSize_join_le (by omega)
  have hlen := length_le_byteSize_unlines items
  have hraw : sourceLines (unlines items) = placedLines dropReturn 0 0 items := by
    rw [sourceLines_eq hsize, rawLines_unlines hn]
  have hitems : numberItems 0 0 items = placedLines id 0 0 items :=
    numberItems_eq (by omega) (by omega)
  have hl : List.Forall₂ (SourceLine.Alike o) (sourceLines (unlines items))
      (numberItems 0 0 items) := by
    rw [sourceLines, rawLines_unlines hn]
    apply forall₂_numbered
    rw [List.forall₂_same]
    intro item hitem n a b
    cases ho : o.trimLines with
    | true => simp only [Scan.lineText, ho, SourceLine.ofText, if_true, trim_dropReturn]
    | false =>
      have hd : item.dropReturn = item := dropReturn_eq_self (hr ho item hitem)
      simp only [Scan.lineText, ho, SourceLine.ofText, hd]
  let input : Source := ⟨"<input>".toList, join ['\n'] items⟩
  rcases @expand_alike o ⟨name, unlines items⟩ input _ _ hl hsize hjoin with
    ⟨x, hx, hx'⟩ | ⟨f, f', hf, hf', hh⟩
  · exact .inl ⟨x, hx', hx⟩
  · obtain ⟨hfault, hline⟩ := Prod.mk.inj hh
    obtain ⟨k, l, hk, hs, hkl, hw⟩ := exists_site_of_failed (by omega) (hraw ▸ hf)
    obtain ⟨k', l', hk', hs', hkl', -⟩ := exists_site_of_failed (by omega) (hitems ▸ hf')
    obtain rfl : k = k' := by omega
    rw [getElem?_placedLines] at hk hk'
    obtain ⟨part, hpart, rfl⟩ := Option.map_eq_some_iff.mp hk
    rw [hpart] at hk'
    obtain rfl := Option.some.inj hk'
    have hsite : f.site = f'.site := by
      rw [hs, hs']
      exact site_dropReturn hw _ _ _ _
    obtain rfl : f = f' := by
      cases f
      cases f'
      simp only [Failure.mk.injEq]
      exact ⟨hfault, hsite⟩
    exact .inr ⟨_, _, hf', hf, f, _, _, rfl, rfl⟩

end Sources

/-- A script is expanded the same whether it is given as a source or line by line. -/
theorem expandLines_agrees (o : Options) (name : Text) :
    (∀ t : Text, t.byteSize ≤ maxOffset →
      Agree ExpansionError.SameText (expandSource o ⟨name, t⟩).result
        (expandLines o ((sourceLines t).map SourceLine.text)).result) ∧
    ∀ items : List Text, (∀ t ∈ items, '\n' ∉ t) →
      (o.trimLines = false → ∀ t ∈ items, t.getLast? ≠ some '\r') →
      (unlines items).byteSize ≤ maxOffset →
      Agree ExpansionError.SameFailure (expandLines o items).result
        (expandSource o ⟨name, unlines items⟩).result :=
  ⟨fun _ ht ↦ agree_lines o name ht, fun _ hn hr hsize ↦ agree_unlines o name hn hr hsize⟩

theorem expandLines_agrees_returns :
    let t : Text := "x\r\nFUNC A\r\n y".toList
    let lines := (sourceLines t).map SourceLine.text
    let items : List Text := ["FUNC A\r".toList, [], "\tFUNC B".toList]
    t.byteSize ≤ maxOffset ∧ (∀ u ∈ items, '\n' ∉ u) ∧ (unlines items).byteSize ≤ maxOffset ∧
      (expandSource {} ⟨[], t⟩).result =
        .error (.failed ⟨.unterminatedFunction ['A'], ⟨2, 3, 6⟩⟩ ⟨[], t⟩) ∧
      (expandLines {} lines).result.mapError ExpansionError.site = .error ⟨2, 2, 6⟩ ∧
      (expandLines {} items).result.mapError ExpansionError.site = .error ⟨3, 10, 6⟩ ∧
      Agree ExpansionError.SameText (expandSource {} ⟨[], t⟩).result
        (expandLines {} lines).result ∧
      Agree ExpansionError.SameFailure (expandLines {} items).result
        (expandSource {} ⟨[], unlines items⟩).result := by
  intro t lines items
  have ht : t.byteSize ≤ maxOffset := by decide
  have hn : ∀ u ∈ items, '\n' ∉ u := by decide
  have hsize : (unlines items).byteSize ≤ maxOffset := by decide
  obtain ⟨hlines, hunlines⟩ := expandLines_agrees {} []
  exact ⟨ht, hn, hsize, by decide +kernel, by decide +kernel, by decide +kernel, hlines t ht,
    hunlines items hn nofun hsize⟩

end LabelBasic
