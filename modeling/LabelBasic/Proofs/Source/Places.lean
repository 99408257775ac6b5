import LabelBasic.Proofs.Source.Numbering
import LabelBasic.Proofs.Text.Trim

namespace LabelBasic

namespace Text

def unlines (parts : List Text) : Text := parts.flatMap fun t ↦ t ++ ['\n']

@[simp] theorem unlines_nil : unlines [] = [] := rfl

theorem unlines_cons (t : Text) (parts : List Text) :
    unlines (t :: parts) = t ++ '\n' :: unlines parts := by
  simp [unlines]

theorem unlines_append (parts rest : List Text) :
    unlines (parts ++ rest) = unlines parts ++ unlines rest := List.flatMap_append

theorem byteSize_unlines_cons (t : Text) (parts : List Text) :
    (unlines (t :: parts)).byteSize = t.byteSize + 1 + (unlines parts).byteSize := by
  rw [unlines_cons, byteSize_append, byteSize_cons, Nat.add_assoc]
  rfl

theorem length_le_byteSize_unlines (parts : List Text) :
    parts.length ≤ (unlines parts).byteSize := by
  induction parts with
  | nil => exact Nat.le_refl _
  | cons t parts ih =>
    rw [byteSize_unlines_cons, List.length_cons]
    omega

theorem length_add_byteSize_le {t : Text} {parts : List Text} (h : t ∈ parts) :
    parts.length + t.byteSize ≤ (unlines parts).byteSize := by
  obtain ⟨before, after, rfl⟩ := List.append_of_mem h
  have := length_le_byteSize_unlines before
  have := length_le_byteSize_unlines after
  rw [unlines_append, byteSize_append, byteSize_unlines_cons, List.length_append, List.length_cons]
  omega

theorem byteSize_pos {t : Text} (h : t ≠ []) : 0 < t.byteSize := by
  obtain ⟨c, u, rfl⟩ := List.exists_cons_of_ne_nil h
  have := c.utf8Size_pos
  rw [byteSize_cons]
  omega

/-- The text consists of the parts with line feeds between them, and perhaps one at the end. -/
def IsMadeOf (t : Text) (parts : List Text) : Prop :=
  t = unlines parts ∨ t ++ ['\n'] = unlines parts

theorem join_append_newline {parts : List Text} (h : parts ≠ []) :
    join ['\n'] parts ++ ['\n'] = unlines parts := by
  induction parts with
  | nil => exact absurd rfl h
  | cons t parts ih =>
    cases parts with
    | nil => simp [join, unlines]
    | cons u parts =>
      have hj : join ['\n'] (t :: u :: parts) = t ++ '\n' :: join ['\n'] (u :: parts) := by
        simp [join]
      rw [unlines_cons, ← ih (List.cons_ne_nil u parts), hj]
      simp

theorem isMadeOf_join (parts : List Text) : IsMadeOf (join ['\n'] parts) parts := by
  by_cases h : parts = []
  · exact .inl (by rw [h]; rfl)
  · exact .inr (join_append_newline h)

theorem rawLines_ne_nil {t : Text} (h : t ≠ []) : rawLines t ≠ [] := by
  obtain ⟨c, u, rfl⟩ := List.exists_cons_of_ne_nil h
  by_cases hc : c = '\n'
  · rw [hc, rawLines_newline]
    exact List.cons_ne_nil _ _
  · rw [rawLines_cons hc]
    exact List.cons_ne_nil _ _

theorem unlines_rawLines (t : Text) :
    unlines t.rawLines = t ++ if t = [] ∨ t.getLast? = some '\n' then [] else ['\n'] := by
  induction t with
  | nil => rfl
  | cons c t ih =>
    by_cases hc : c = '\n'
    · rw [hc, rawLines_newline, unlines_cons, ih]
      cases t <;> simp
    · rw [rawLines_cons hc, unlines_cons]
      cases t with
      | nil => simp [hc]
      | cons d u =>
        obtain ⟨raw, raws, hr⟩ := List.exists_cons_of_ne_nil (rawLines_ne_nil (List.cons_ne_nil d u))
        rw [hr, unlines_cons] at ih
        rw [hr, List.headD_cons, List.tail_cons, List.cons_append, ih]
        simp

theorem isMadeOf_rawLines (t : Text) : IsMadeOf t t.rawLines := by
  rw [IsMadeOf, unlines_rawLines]
  split
  · exact .inl (List.append_nil t).symm
  · exact .inr rfl

theorem rawLines_append_newline {t : Text} (h : '\n' ∉ t) (u : Text) :
    rawLines (t ++ '\n' :: u) = t :: rawLines u := by
  induction t with
  | nil => exact rawLines_newline u
  | cons c t ih =>
    rw [List.mem_cons, not_or] at h
    rw [List.cons_append, rawLines_cons (Ne.symm h.1), ih h.2]
    rfl

theorem rawLines_unlines {items : List Text} (h : ∀ t ∈ items, '\n' ∉ t) :
    rawLines (unlines items) = items := by
  induction items with
  | nil => rfl
  | cons t items ih =>
    rw [unlines_cons, rawLines_append_newline (h t List.mem_cons_self),
      ih fun u hu ↦ h u (List.mem_cons_of_mem t hu)]

theorem not_mem_of_mem_rawLines {t part : Text} (h : part ∈ t.rawLines) : '\n' ∉ part := by
  induction t generalizing part with
  | nil => cases h
  | cons c t ih =>
    by_cases hc : c = '\n'
    · rw [hc, rawLines_newline] at h
      rcases List.mem_cons.mp h with rfl | h
      · exact List.not_mem_nil
      · exact ih h
    · rw [rawLines_cons hc] at h
      rcases List.mem_cons.mp h with rfl | h
      · rw [List.mem_cons, not_or]
        refine ⟨Ne.symm hc, ?_⟩
        cases hr : rawLines t with
        | nil => exact List.not_mem_nil
        | cons raw raws =>
          apply ih
          rw [hr]
          exact List.mem_cons_self
      · exact ih (List.mem_of_mem_tail h)

theorem rawLines_append {s : Text} (h : s = [] ∨ s.getLast? = some '\n') (t : Text) :
    rawLines (s ++ t) = rawLines s ++ rawLines t := by
  induction s with
  | nil => rfl
  | cons c s ih =>
    have hlast : (c :: s).getLast? = some '\n' := h.resolve_left (List.cons_ne_nil c s)
    rw [List.cons_append]
    by_cases hs : s = []
    · rw [hs, List.getLast?_singleton] at hlast
      rw [hs, Option.some.inj hlast, rawLines_newline, rawLines_newline]
      rfl
    obtain ⟨d, u, rfl⟩ := List.exists_cons_of_ne_nil hs
    rw [List.getLast?_cons_cons] at hlast
    by_cases hc : c = '\n'
    · rw [hc, rawLines_newline, rawLines_newline, ih (.inr hlast), List.cons_append]
    · obtain ⟨raw, raws, hr⟩ := List.exists_cons_of_ne_nil (rawLines_ne_nil hs)
      rw [rawLines_cons hc, rawLines_cons hc, ih (.inr hlast), hr]
      rfl

theorem IsMadeOf.byteSize_unlines_le {t : Text} {parts : List Text} (h : IsMadeOf t parts) :
    (unlines parts).byteSize ≤ t.byteSize + 1 := by
  rcases h with h | h
  · rw [← h]
    omega
  · rw [← h, byteSize_append]
    exact Nat.le_refl _

theorem IsMadeOf.place {s t : Text} {before after : List Text}
    (h : IsMadeOf s (before ++ t :: after)) : ∃ v, s = unlines before ++ (t ++ v) := by
  rw [IsMadeOf, unlines_append, unlines_cons] at h
  rcases h with h | h
  · exact ⟨_, h⟩
  · obtain ⟨v, c, hv⟩ : ∃ v c, '\n' :: unlines after = v ++ [c] :=
      ⟨_, _, (List.dropLast_concat_getLast (List.cons_ne_nil _ _)).symm⟩
    have he : s ++ ['\n'] = unlines before ++ (t ++ v) ++ [c] := by
      rw [h, hv, List.append_assoc, List.append_assoc]
    exact ⟨v, (List.append_inj' he rfl).1⟩

theorem dropReturn_prefix (t : Text) : t.dropReturn <+: t := by
  rcases exists_dropReturn t with h | h
  · exact ⟨[], by rw [List.append_nil, ← h]⟩
  · exact ⟨['\r'], h.symm⟩

theorem not_break_dropReturn {t part : Text} (h : part ∈ t.rawLines) : '\n' ∉ part.dropReturn := by
  have hd := dropReturn_prefix part
  intro hc
  exact not_mem_of_mem_rawLines h (hd.subset hc)

end Text

open Text

/-- The lines that given parts of a source become, at their exact places. A line keeps `text` of
its part. -/
def placedLines (text : Text → Text) (number offset : Nat) : List Text → List SourceLine
  | [] => []
  | part :: rest =>
    ⟨number + 1, ⟨offset, offset + (text part).byteSize⟩, text part⟩ ::
      placedLines text (number + 1) (offset + part.byteSize + 1) rest

theorem saturate_next {offset : Nat} {part : Text} {rest : List Text}
    (h : offset + (unlines (part :: rest)).byteSize ≤ maxOffset + 1) (hr : rest ≠ []) :
    saturate (offset + saturate (part.byteSize + 1)) = offset + part.byteSize + 1 := by
  have := length_le_byteSize_unlines rest
  have := List.length_pos_iff.mpr hr
  rw [byteSize_unlines_cons] at h
  rw [saturate_of_le (n := part.byteSize + 1) (by omega), saturate_of_le (by omega)]
  omega

theorem numberLines_eq {number offset : Nat} {parts : List Text}
    (hn : number + parts.length ≤ maxOffset)
    (ho : offset + (unlines parts).byteSize ≤ maxOffset + 1) :
    numberLines number offset parts = placedLines dropReturn number offset parts := by
  induction parts generalizing number offset with
  | nil => rfl
  | cons part rest ih =>
    have hle := byteSize_dropReturn_le part
    rw [List.length_cons] at hn
    rw [numberLines, placedLines, SourceLine.ofText, saturate_of_le (n := number + 1) (by omega)]
    have hs := ho
    rw [byteSize_unlines_cons] at hs
    rw [saturate_of_le (n := part.dropReturn.byteSize) (by omega), saturate_of_le (by omega)]
    congr 1
    cases rest with
    | nil => rfl
    | cons next rest =>
      rw [saturate_next ho (List.cons_ne_nil _ _)]
      exact ih (by omega) (by omega)

theorem getElem?_placedLines (text : Text → Text) (number offset k : Nat) (parts : List Text) :
    (placedLines text number offset parts)[k]? = parts[k]?.map fun part ↦
      ⟨number + k + 1, ⟨offset + (unlines (parts.take k)).byteSize,
        offset + (unlines (parts.take k)).byteSize + (text part).byteSize⟩, text part⟩ := by
  induction parts generalizing number offset k with
  | nil => rfl
  | cons part rest ih =>
    cases k with
    | zero => rfl
    | succ k =>
      have hb := byteSize_unlines_cons part (rest.take k)
      rw [placedLines, List.getElem?_cons_succ, ih, List.getElem?_cons_succ, List.take_succ_cons, hb]
      have hn : number + 1 + k + 1 = number + (k + 1) + 1 := by omega
      have ho (n : Nat) : offset + part.byteSize + 1 + n = offset + (part.byteSize + 1 + n) := by
        omega
      rw [hn, ho]

theorem saturate_saturate_add (m n : Nat) : saturate (saturate m + n) = saturate (m + n) := by
  unfold saturate
  omega

theorem getElem?_numberItems {number offset k : Nat} {items : List Text}
    (ho : offset + (unlines items).byteSize ≤ maxOffset + 1) :
    (numberItems number offset items)[k]? = items[k]?.map fun item ↦
      ⟨saturate (number + k + 1), ⟨offset + (unlines (items.take k)).byteSize,
        offset + (unlines (items.take k)).byteSize + item.byteSize⟩, item⟩ := by
  induction items generalizing number offset k with
  | nil => rfl
  | cons item rest ih =>
    rw [byteSize_unlines_cons] at ho
    have hstop : saturate (offset + saturate item.byteSize) = offset + item.byteSize := by
      rw [saturate_of_le (n := item.byteSize) (by omega), saturate_of_le (by omega)]
    rw [numberItems, SourceLine.ofText, hstop]
    cases k with
    | zero => rfl
    | succ k =>
      rw [List.getElem?_cons_succ, List.getElem?_cons_succ]
      cases rest with
      | nil => rfl
      | cons next rest =>
        have hpos := byteSize_unlines_cons next rest
        have hnumber : number + 1 + (k + 1) = number + (k + 1) + 1 := by omega
        have hbytes (n : Nat) : offset + item.byteSize + 1 + n =
            offset + (item.byteSize + 1 + n) := by omega
        rw [saturate_of_le (n := offset + item.byteSize + 1) (by omega), ih (by omega),
          List.take_succ_cons, byteSize_unlines_cons, Nat.add_assoc (saturate _),
          saturate_saturate_add, hnumber, hbytes]

theorem numberItems_eq {number offset : Nat} {parts : List Text}
    (hn : number + parts.length ≤ maxOffset)
    (ho : offset + (unlines parts).byteSize ≤ maxOffset + 1) :
    numberItems number offset parts = placedLines id number offset parts := by
  apply List.ext_getElem?
  intro k
  rw [getElem?_numberItems ho, getElem?_placedLines]
  by_cases hk : k < parts.length
  · rw [saturate_of_le (by omega)]
    rfl
  · rw [List.getElem?_eq_none (Nat.le_of_not_lt hk)]
    rfl

theorem map_text_placedLines (text : Text → Text) (number offset : Nat) (parts : List Text) :
    (placedLines text number offset parts).map SourceLine.text = parts.map text := by
  induction parts generalizing number offset with
  | nil => rfl
  | cons part rest ih => rw [placedLines, List.map_cons, ih, List.map_cons]

theorem length_placedLines {text : Text → Text} {parts : List Text} (number offset : Nat) :
    (placedLines text number offset parts).length = parts.length := by
  have h := congrArg List.length (map_text_placedLines text number offset parts)
  rwa [List.length_map, List.length_map] at h

theorem map_text_numberLines (number offset : Nat) (raws : List Text) :
    (numberLines number offset raws).map SourceLine.text = raws.map dropReturn := by
  induction raws generalizing number offset with
  | nil => rfl
  | cons raw raws ih =>
    rw [numberLines, List.map_cons, ih, List.map_cons]
    rfl

theorem map_text_sourceLines (t : Text) :
    (sourceLines t).map SourceLine.text = t.rawLines.map dropReturn :=
  map_text_numberLines 0 0 t.rawLines

theorem exists_part {t : Text} {l : SourceLine} (h : l ∈ sourceLines t) :
    ∃ part ∈ t.rawLines, l.text = part.dropReturn := by
  have hl : l.text ∈ (sourceLines t).map SourceLine.text := List.mem_map_of_mem h
  rw [map_text_sourceLines] at hl
  obtain ⟨part, hp, he⟩ := List.mem_map.mp hl
  exact ⟨part, hp, he.symm⟩

theorem not_break_of_sourceLines {t : Text} {l : SourceLine} (h : l ∈ sourceLines t) :
    '\n' ∉ l.text := by
  obtain ⟨part, hp, he⟩ := exists_part h
  rw [he]
  exact not_break_dropReturn hp

theorem placedLines_append (text : Text → Text) (number offset : Nat) (parts rest : List Text) :
    placedLines text number offset (parts ++ rest) = placedLines text number offset parts ++
      placedLines text (number + parts.length) (offset + (unlines parts).byteSize) rest := by
  induction parts generalizing number offset with
  | nil => rfl
  | cons part parts ih =>
    have hn : number + 1 + parts.length = number + (parts.length + 1) := by omega
    have ho : offset + part.byteSize + 1 + (unlines parts).byteSize =
        offset + (part.byteSize + 1 + (unlines parts).byteSize) := by omega
    rw [List.cons_append, placedLines, placedLines, ih, List.cons_append, List.length_cons,
      byteSize_unlines_cons, hn, ho]

/-- A source that is not too large has its lines at their exact places. -/
theorem sourceLines_eq {t : Text} (ht : t.byteSize ≤ maxOffset) :
    sourceLines t = placedLines dropReturn 0 0 t.rawLines := by
  have hm := (isMadeOf_rawLines t).byteSize_unlines_le
  have hl := length_rawLines_le t
  exact numberLines_eq (by omega) (by omega)

/-- The source has the text between the ends of the span, which lie between characters. -/
def Span.Covers (s : Span) (source t : Text) : Prop :=
  ∃ u v, source = u ++ (t ++ v) ∧ s.start = u.byteSize ∧ s.stop = u.byteSize + t.byteSize

theorem Span.Covers.slice? {s : Span} {source t : Text} (h : s.Covers source t) :
    source.slice? s.start s.length = some t := by
  obtain ⟨u, v, rfl, hstart, hstop⟩ := h
  have hlength : s.length = t.byteSize := by
    rw [Span.length, hstart, hstop]
    omega
  rw [hstart, hlength, slice?_append_append]

theorem covers_of_placedLines {text : Text → Text} {source : Text} {parts : List Text}
    {l : SourceLine} {k : Nat} (htext : ∀ t, text t <+: t) (hm : source.IsMadeOf parts)
    (hl : (placedLines text 0 0 parts)[k]? = some l) : l.span.Covers source l.text := by
  rw [getElem?_placedLines] at hl
  obtain ⟨part, hp, rfl⟩ := Option.map_eq_some_iff.mp hl
  obtain ⟨hk, rfl⟩ := List.getElem?_eq_some_iff.mp hp
  obtain ⟨w, hw⟩ := htext parts[k]
  have hparts : parts = parts.take k ++ parts[k] :: parts.drop (k + 1) := by
    rw [List.getElem_cons_drop, List.take_append_drop]
  rw [hparts] at hm
  obtain ⟨v, hv⟩ := hm.place
  refine ⟨unlines (parts.take k), w ++ v, ?_, Nat.zero_add _, by simp only [Nat.zero_add]⟩
  rw [hv]
  conv_lhs => rw [← hw]
  simp

/-- The source has the text at this place, so both ends lie between characters. -/
def Site.Shows (place : Site) (source t : Text) : Prop :=
  ∃ u v, source = u ++ (t ++ v) ∧ place.offset = u.byteSize ∧ place.length = t.byteSize

theorem Site.Shows.slice? {place : Site} {source t : Text} (h : place.Shows source t) :
    source.slice? place.offset place.length = some t := by
  obtain ⟨u, v, rfl, ho, hl⟩ := h
  rw [ho, hl, slice?_append_append]

theorem SourceLine.shows_site {l : SourceLine} {source u v : Text}
    (h : source = u ++ (l.text ++ v)) (hu : l.span.start = u.byteSize) :
    l.site.Shows source l.text.trim := by
  obtain ⟨a, ha, -⟩ := exists_trimStart l.text
  obtain ⟨b, hb, -⟩ := exists_trimEnd l.text.trimStart
  refine ⟨u ++ a, b ++ v, ?_, ?_, rfl⟩
  · calc source = u ++ (l.text ++ v) := h
      _ = u ++ (a ++ (l.text.trim ++ b) ++ v) := by rw [trim, ← hb, ← ha]
      _ = u ++ a ++ (l.text.trim ++ (b ++ v)) := by simp
  · have hs := congrArg byteSize ha
    rw [byteSize_append] at hs
    rw [site, hu, byteSize_append]
    change _ + (_ - _) = _
    omega

theorem shows_of_placedLines {text : Text → Text} {source : Text} {parts : List Text}
    {l : SourceLine} {k : Nat} (htext : ∀ t, text t <+: t) (hm : source.IsMadeOf parts)
    (hl : (placedLines text 0 0 parts)[k]? = some l) : l.site.Shows source l.text.trim := by
  obtain ⟨u, v, h, hstart, -⟩ := covers_of_placedLines htext hm hl
  exact SourceLine.shows_site h hstart

end LabelBasic
