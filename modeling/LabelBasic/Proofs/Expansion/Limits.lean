import LabelBasic.Proofs.Expansion.Pinpoint

namespace LabelBasic

open Text

/-- Line `k` of the parts of a source, counted from zero, has the place it has without a limit, and
the limit is kept. -/
structure SourceLine.IsPlaced (parts : List Text) (k : Nat) (l : SourceLine) : Prop where
  start : l.span.start = (unlines (parts.take k)).byteSize
  stop : l.span.stop = l.span.start + l.text.byteSize
  stop_le : l.span.stop ≤ maxOffset

/-- The result speaks of lines by their exact positions in the script, and of no label for which there
was no number. -/
structure CountsLines (source : Source) (lines : List Text) (r : Except ExpansionError Expansion) :
    Prop where
  errors : Explained source lines r
  noOverflow : ∀ failure attached counter, r = .error (.failed failure attached) →
    failure.fault ≠ .labelOverflow counter
  functions : ∀ x, r = .ok x → ∀ d ∈ x.functions, ∃ before t after,
    lines = before ++ t :: after ∧ d.line = before.length + 1 ∧ t.Opens d.name

theorem byteSize_take_add_le {parts : List Text} {part : Text} {k : Nat}
    (h : parts[k]? = some part) :
    (unlines (parts.take k)).byteSize + part.byteSize + 1 ≤ (unlines parts).byteSize := by
  obtain ⟨hk, rfl⟩ := List.getElem?_eq_some_iff.mp h
  have hparts : parts = parts.take k ++ parts[k] :: parts.drop (k + 1) := by
    rw [List.getElem_cons_drop, List.take_append_drop]
  conv_rhs => rw [hparts, unlines_append, byteSize_append, byteSize_unlines_cons]
  omega

section Places

variable {k : Nat} {l : SourceLine}

theorem isPlaced_sourceLines {t : Text} (ht : t.byteSize ≤ maxOffset)
    (hl : (sourceLines t)[k]? = some l) : l.IsPlaced t.rawLines k ∧ l.number = k + 1 := by
  rw [sourceLines_eq ht, getElem?_placedLines] at hl
  obtain ⟨part, hpart, rfl⟩ := Option.map_eq_some_iff.mp hl
  have hfit := byteSize_take_add_le hpart
  have hmade := (isMadeOf_rawLines t).byteSize_unlines_le
  have hdrop := byteSize_dropReturn_le part
  refine ⟨⟨Nat.zero_add _, rfl, ?_⟩, by simp only [Nat.zero_add]⟩
  dsimp only
  omega

theorem lt_maxOffset_of_sourceLines {t : Text} (ht : t.byteSize ≤ maxOffset)
    (hl : (sourceLines t)[k]? = some l) : k < maxOffset := by
  obtain ⟨hk, -⟩ := List.getElem?_eq_some_iff.mp hl
  have hlength := length_sourceLines_le t
  omega

theorem isPlaced_numberItems {items : List Text} (hsize : (join ['\n'] items).byteSize ≤ maxOffset)
    (hl : (numberItems 0 0 items)[k]? = some l) : l.IsPlaced items k := by
  have hmade := (isMadeOf_join items).byteSize_unlines_le
  rw [getElem?_numberItems (by omega)] at hl
  obtain ⟨item, hitem, rfl⟩ := Option.map_eq_some_iff.mp hl
  have hfit := byteSize_take_add_le hitem
  refine ⟨Nat.zero_add _, rfl, ?_⟩
  dsimp only
  omega

theorem number_of_numberItems {items : List Text}
    (hsize : (join ['\n'] items).byteSize ≤ maxOffset)
    (hl : (numberItems 0 0 items)[k]? = some l) (ht : l.text ≠ []) : l.number = k + 1 := by
  have hmade := (isMadeOf_join items).byteSize_unlines_le
  rw [getElem?_numberItems (by omega)] at hl
  obtain ⟨item, hitem, rfl⟩ := Option.map_eq_some_iff.mp hl
  obtain ⟨hk, -⟩ := List.getElem?_eq_some_iff.mp hitem
  have hroom := length_add_byteSize_le (List.mem_of_getElem? hitem)
  have hpos := byteSize_pos ht
  dsimp only at hpos ⊢
  rw [Nat.zero_add, saturate_of_le (by omega)]

end Places

open Script

theorem exists_opens_of_mem {s : Script} {d : Definition}
    (hn : ∀ k l, s[k]? = some l → l.text ≠ [] → l.number = k + 1) (hd : d ∈ gather definition s) :
    ∃ before t after, s.map SourceLine.text = before ++ t :: after ∧
      d.line = before.length + 1 ∧ t.Opens d.name := by
  obtain ⟨before, l, after, rfl, hl⟩ := mem_gather.mp hd
  have hopens := defines_of_mem_definition hl
  rw [definition_of_defines before hopens] at hl
  have hline : d.line = l.number := congrArg Definition.line (List.mem_singleton.mp hl)
  have htext : l.text ≠ [] := by
    intro ht
    have hk := hopens.1
    rw [SourceLine.keyword?, ht] at hk
    cases hk
  refine ⟨before.map SourceLine.text, l.text, after.map SourceLine.text, by simp, ?_,
    SourceLine.defines_iff_opens.mp hopens⟩
  rw [hline, hn before.length l (by simp) htext, List.length_map]

theorem Explained.noOverflow {source attached : Source} {lines : List Text}
    {r : Except ExpansionError Expansion} {failure : Failure} (h : Explained source lines r)
    (hr : r = .error (.failed failure attached)) (counter : Text) :
    failure.fault ≠ .labelOverflow counter := by
  obtain ⟨before, t, after, -, hp⟩ := h failure attached hr
  obtain ⟨k, hk, -⟩ := hp.keyword
  intro hf
  rw [hf] at hk
  cases hk

theorem countsLines_expand {o : Options} {source : Source} {s : Script}
    (he : Explained source (s.map SourceLine.text) (expand o source s).result)
    (hn : ∀ k l, s[k]? = some l → l.text ≠ [] → l.number = k + 1) :
    CountsLines source (s.map SourceLine.text) (expand o source s).result where
  errors := he
  noOverflow := fun _ _ counter hr ↦ he.noOverflow hr counter
  functions := by
    intro x hx d hd
    obtain ⟨-, -, -, rfl, -⟩ := expand_eq_ok hx
    exact exists_opens_of_mem hn hd

/-- No number reaches its limit in an expansion. The lines of a source have their exact places and
numbers, given lines have their exact places and, where they are not empty, numbers, and what is
reported of lines is exact. -/
theorem expansion_exact (o : Options) :
    (∀ source : Source, source.text.byteSize ≤ maxOffset →
      (∀ k l, (sourceLines source.text)[k]? = some l →
        l.IsPlaced source.text.rawLines k ∧ l.number = k + 1 ∧ k < maxOffset) ∧
      CountsLines source ((sourceLines source.text).map SourceLine.text)
        (expandSource o source).result) ∧
    ∀ items : List Text, (join ['\n'] items).byteSize ≤ maxOffset →
      (∀ k l, (numberItems 0 0 items)[k]? = some l →
        l.IsPlaced items k ∧ (l.text ≠ [] → l.number = k + 1)) ∧
      CountsLines ⟨"<input>".toList, join ['\n'] items⟩ items (expandLines o items).result := by
  constructor
  · intro source hsize
    have hnumber : ∀ k l, (sourceLines source.text)[k]? = some l → l.text ≠ [] →
        l.number = k + 1 := by
      intro k l hl _
      exact (isPlaced_sourceLines hsize hl).2
    refine ⟨?_, countsLines_expand (fun _ _ h ↦ exists_pinpoints_source h) hnumber⟩
    intro k l hl
    obtain ⟨hplace, hn⟩ := isPlaced_sourceLines hsize hl
    exact ⟨hplace, hn, lt_maxOffset_of_sourceLines hsize hl⟩
  · intro items hsize
    have hnumber : ∀ k l, (numberItems 0 0 items)[k]? = some l → l.text ≠ [] →
        l.number = k + 1 := by
      intro k l hl
      exact number_of_numberItems hsize hl
    have htexts := map_text_numberItems 0 0 items
    have hexplained : Explained ⟨"<input>".toList, join ['\n'] items⟩
        ((numberItems 0 0 items).map SourceLine.text) (expandLines o items).result := by
      rw [htexts]
      exact fun _ _ h ↦ exists_pinpoints_lines h
    have hcounts := countsLines_expand hexplained hnumber
    rw [htexts] at hcounts
    exact ⟨fun k l hl ↦ ⟨isPlaced_numberItems hsize hl, hnumber k l hl⟩, hcounts⟩

section Empty

theorem byteSize_unlines_replicate (n : Nat) :
    (unlines (List.replicate n [])).byteSize = n := by
  induction n with
  | zero => rfl
  | succ n ih =>
    rw [List.replicate_succ, byteSize_unlines_cons, ih, byteSize_nil]
    omega

theorem byteSize_join_replicate (n : Nat) :
    (join ['\n'] (List.replicate (n + 1) [])).byteSize = n := by
  have hlines := congrArg byteSize (join_append_newline (List.cons_ne_nil [] (List.replicate n [])))
  rw [← List.replicate_succ, byteSize_append, byteSize_unlines_replicate] at hlines
  exact Nat.succ_inj.mp hlines

theorem getElem?_numberItems_replicate {n : Nat} (hn : n ≤ maxOffset) :
    (numberItems 0 0 (List.replicate (n + 1) []))[n]? =
      some ⟨saturate (n + 1), ⟨n, n⟩, []⟩ := by
  have hsize := byteSize_unlines_replicate (n + 1)
  rw [getElem?_numberItems (by omega), List.getElem?_replicate_of_lt (Nat.lt_succ_self n),
    List.take_replicate, Nat.min_eq_left (Nat.le_succ n), byteSize_unlines_replicate]
  simp

theorem expansion_exact_empty :
    let source : Source := ⟨"a.lb".toList, "\r\n FUNC A\nFUNCEND".toList⟩
    let items : List Text := List.replicate (maxOffset + 1) []
    source.text.byteSize ≤ maxOffset ∧ (join ['\n'] items).byteSize ≤ maxOffset ∧
      (numberItems 0 0 items)[maxOffset]? = some ⟨maxOffset, ⟨maxOffset, maxOffset⟩, []⟩ ∧
      ((∀ k l, (sourceLines source.text)[k]? = some l →
          l.IsPlaced source.text.rawLines k ∧ l.number = k + 1 ∧ k < maxOffset) ∧
        CountsLines source ((sourceLines source.text).map SourceLine.text)
          (expandSource {} source).result) ∧
      (∀ k l, (numberItems 0 0 items)[k]? = some l →
        l.IsPlaced items k ∧ (l.text ≠ [] → l.number = k + 1)) ∧
      CountsLines ⟨"<input>".toList, join ['\n'] items⟩ items (expandLines {} items).result := by
  intro source items
  have hsource : source.text.byteSize ≤ maxOffset := by decide
  have hitems : (join ['\n'] items).byteSize ≤ maxOffset :=
    Nat.le_of_eq (byteSize_join_replicate maxOffset)
  have hlast := getElem?_numberItems_replicate (Nat.le_refl maxOffset)
  have hnumber : saturate (maxOffset + 1) = maxOffset := Nat.min_eq_right (Nat.le_succ _)
  rw [hnumber] at hlast
  obtain ⟨hsources, hlines⟩ := expansion_exact {}
  exact ⟨hsource, hitems, hlast, hsources source hsource, hlines items hitems⟩

end Empty

end LabelBasic
