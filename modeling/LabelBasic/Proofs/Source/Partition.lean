import Mathlib.Data.List.Chain
import LabelBasic.Proofs.Source.Places

namespace LabelBasic

namespace Text

def finalReturn (t : Text) : Text := if t.getLast? = some '\r' then ['\r'] else []

theorem dropReturn_append_finalReturn (t : Text) : t.dropReturn ++ t.finalReturn = t := by
  unfold dropReturn finalReturn
  split
  · obtain ⟨u, rfl⟩ := List.getLast?_eq_some_iff.mp ‹_›
    simp
  · exact List.append_nil t

theorem byteSize_dropReturn_add (t : Text) :
    t.dropReturn.byteSize + t.finalReturn.byteSize = t.byteSize := by
  rw [← byteSize_append, dropReturn_append_finalReturn]

/-- What may end a line with a text. The end of the source stands for a line feed, and a carriage
return at the end of the text would belong to the line end. -/
inductive EndsLine (t : Text) (last : Prop) : Text → Prop
  | lineFeed (h : t.getLast? ≠ some '\r') : EndsLine t last ['\n']
  | returnLineFeed : EndsLine t last ['\r', '\n']
  | nothing (hl : last) (h : t.getLast? ≠ some '\r') : EndsLine t last []
  | carriageReturn (hl : last) : EndsLine t last ['\r']

/-- The line feed after a part of a source. The last part has one if the source is `closed`. -/
def lineFeed (closed : Bool) (rest : List Text) : Text :=
  if closed || !rest.isEmpty then ['\n'] else []

theorem lineFeed_cons (closed : Bool) (part : Text) (rest : List Text) :
    lineFeed closed (part :: rest) = ['\n'] :=
  if_pos (Bool.or_true closed)

theorem endsLine_of_part (part : Text) (closed : Bool) (rest : List Text) :
    EndsLine part.dropReturn (rest = []) (part.finalReturn ++ lineFeed closed rest) := by
  have hrest : (closed || !rest.isEmpty) = false → rest = [] := by simp
  unfold dropReturn finalReturn lineFeed
  by_cases hr : part.getLast? = some '\r'
  · rw [if_pos hr, if_pos hr]
    split
    · exact .returnLineFeed
    · exact .carriageReturn (hrest (Bool.eq_false_iff.mpr ‹_›))
  · rw [if_neg hr, if_neg hr]
    split
    · exact .lineFeed hr
    · exact .nothing (hrest (Bool.eq_false_iff.mpr ‹_›)) hr

theorem EndsLine.exists_part {t stop : Text} {last : Prop} (h : EndsLine t last stop)
    (ht : '\n' ∉ t) :
    ∃ part : Text, part.dropReturn = t ∧ '\n' ∉ part ∧
      (t ++ stop = part ++ ['\n'] ∨ last ∧ t ++ stop = part) := by
  have hreturn : '\n' ∉ t ++ ['\r'] := by simp [ht]
  cases h with
  | lineFeed h => exact ⟨t, dropReturn_eq_self h, ht, .inl rfl⟩
  | returnLineFeed => exact ⟨t ++ ['\r'], dropReturn_append_return t, hreturn, .inl (by simp)⟩
  | nothing hl h => exact ⟨t, dropReturn_eq_self h, ht, .inr ⟨hl, List.append_nil t⟩⟩
  | carriageReturn hl => exact ⟨t ++ ['\r'], dropReturn_append_return t, hreturn, .inr ⟨hl, rfl⟩⟩

theorem length_rawLines (t : Text) :
    t.rawLines.length = t.count '\n' + if t = [] ∨ t.getLast? = some '\n' then 0 else 1 := by
  induction t with
  | nil => rfl
  | cons c t ih =>
    by_cases hc : c = '\n'
    · rw [hc, rawLines_newline, List.length_cons, ih, List.count_cons_self]
      cases t with
      | nil => simp
      | cons d u => simp [Nat.add_right_comm]
    · rw [rawLines_cons hc, List.length_cons, List.length_tail, List.count_cons_of_ne hc]
      cases t with
      | nil => simp [hc]
      | cons d u =>
        have hpos := List.length_pos_iff.mpr (rawLines_ne_nil (List.cons_ne_nil d u))
        have hlast : (c :: d :: u).getLast? = (d :: u).getLast? := List.getLast?_cons_cons
        simp only [hlast, List.cons_ne_nil, false_or] at ih ⊢
        omega

end Text

open Text

/-- A source as its lines, each with the characters that end it. -/
structure IsPartition (source : Text) (pieces : List (SourceLine × Text)) : Prop where
  number : pieces.map (fun p ↦ p.1.number) = List.range' 1 pieces.length
  length : pieces.length =
    source.count '\n' + if source = [] ∨ source.getLast? = some '\n' then 0 else 1
  noBreak : ∀ p ∈ pieces, '\n' ∉ p.1.text
  covers : ∀ p ∈ pieces, p.1.span.Covers source p.1.text
  slice : ∀ p ∈ pieces, source.slice? p.1.span.start p.1.span.length = some p.1.text
  whole : source = pieces.flatMap fun p ↦ p.1.text ++ p.2
  first : ∀ p ∈ pieces.head?, p.1.span.start = 0
  next : pieces.IsChain fun p q ↦ q.1.span.start = p.1.span.stop + p.2.byteSize
  ended : ∀ before p after, pieces = before ++ p :: after →
    EndsLine p.1.text (after = []) p.2

def placedPieces (closed : Bool) (number offset : Nat) : List Text → List (SourceLine × Text)
  | [] => []
  | part :: rest =>
    (⟨number + 1, ⟨offset, offset + part.dropReturn.byteSize⟩, part.dropReturn⟩,
      part.finalReturn ++ lineFeed closed rest) ::
      placedPieces closed (number + 1) (offset + part.byteSize + 1) rest

section Pieces

variable (closed : Bool) (number offset : Nat) (parts : List Text)

theorem map_fst_placedPieces :
    (placedPieces closed number offset parts).map Prod.fst =
      placedLines dropReturn number offset parts := by
  induction parts generalizing number offset with
  | nil => rfl
  | cons part rest ih => rw [placedPieces, List.map_cons, ih, placedLines]

theorem length_placedPieces : (placedPieces closed number offset parts).length = parts.length := by
  induction parts generalizing number offset with
  | nil => rfl
  | cons part rest ih => rw [placedPieces, List.length_cons, ih, List.length_cons]

theorem map_number_placedPieces :
    (placedPieces closed number offset parts).map (fun p ↦ p.1.number) =
      List.range' (number + 1) parts.length := by
  induction parts generalizing number offset with
  | nil => rfl
  | cons part rest ih =>
    rw [placedPieces, List.map_cons, ih, List.length_cons, List.range'_succ]

theorem start_of_head?_placedPieces :
    ∀ p ∈ (placedPieces closed number offset parts).head?, p.1.span.start = offset := by
  intro p hp
  cases parts with
  | nil => cases hp
  | cons part rest =>
    cases hp
    rfl

theorem isChain_placedPieces :
    (placedPieces closed number offset parts).IsChain
      fun p q ↦ q.1.span.start = p.1.span.stop + p.2.byteSize := by
  induction parts generalizing number offset with
  | nil => exact .nil
  | cons part rest ih =>
    refine List.isChain_cons.mpr ⟨?_, ih _ _⟩
    intro q hq
    cases rest with
    | nil => cases hq
    | cons next rest =>
      have hsize := byteSize_dropReturn_add part
      rw [start_of_head?_placedPieces _ _ _ _ q hq, lineFeed_cons, byteSize_append]
      change offset + part.byteSize + 1 = offset + part.dropReturn.byteSize + (_ + 1)
      omega

theorem endsLine_of_placedPieces {before after : List (SourceLine × Text)} {p : SourceLine × Text}
    (h : placedPieces closed number offset parts = before ++ p :: after) :
    EndsLine p.1.text (after = []) p.2 := by
  induction parts generalizing number offset before with
  | nil => simp [placedPieces] at h
  | cons part rest ih =>
    rw [placedPieces] at h
    cases before with
    | nil =>
      obtain ⟨rfl, rfl⟩ := List.cons.inj h
      have hlast : placedPieces closed (number + 1) (offset + part.byteSize + 1) rest = [] ↔
          rest = [] := by
        rw [← List.length_eq_zero_iff, length_placedPieces, List.length_eq_zero_iff]
      rw [hlast]
      exact endsLine_of_part part closed rest
    | cons q before =>
      exact ih _ _ (List.cons.inj h).2

theorem flatMap_placedPieces (hp : parts ≠ []) :
    (placedPieces closed number offset parts).flatMap (fun p ↦ p.1.text ++ p.2) ++
      (if closed then [] else ['\n']) = unlines parts := by
  induction parts generalizing number offset with
  | nil => exact absurd rfl hp
  | cons part rest ih =>
    rw [placedPieces, List.flatMap_cons, ← List.append_assoc part.dropReturn,
      dropReturn_append_finalReturn, unlines_cons]
    cases rest with
    | nil => cases closed <;> simp [placedPieces, lineFeed]
    | cons next rest =>
      rw [lineFeed_cons, List.append_assoc, ih _ _ (List.cons_ne_nil next rest), List.append_assoc]
      rfl

end Pieces

theorem exists_parts {pieces : List (SourceLine × Text)} {number offset : Nat}
    (hnumber : pieces.map (fun p ↦ p.1.number) = List.range' (number + 1) pieces.length)
    (hbreak : ∀ p ∈ pieces, '\n' ∉ p.1.text)
    (hstop : ∀ p ∈ pieces, p.1.span.stop = p.1.span.start + p.1.text.byteSize)
    (hfirst : ∀ p ∈ pieces.head?, p.1.span.start = offset)
    (hnext : pieces.IsChain fun p q ↦ q.1.span.start = p.1.span.stop + p.2.byteSize)
    (hended : ∀ before p after, pieces = before ++ p :: after →
      EndsLine p.1.text (after = []) p.2) :
    ∃ parts, pieces.map Prod.fst = placedLines dropReturn number offset parts ∧
      (∀ part ∈ parts, '\n' ∉ part) ∧
      IsMadeOf (pieces.flatMap fun p ↦ p.1.text ++ p.2) parts := by
  induction pieces generalizing number offset with
  | nil => exact ⟨[], rfl, nofun, .inl rfl⟩
  | cons p pieces ih =>
    obtain ⟨⟨n, ⟨start, stop⟩, t⟩, e⟩ := p
    rw [List.map_cons, List.length_cons, List.range'_succ] at hnumber
    obtain ⟨hn, hnumbers⟩ := List.cons.inj hnumber
    obtain rfl : n = number + 1 := hn
    obtain rfl : start = offset := hfirst _ rfl
    obtain rfl : stop = start + t.byteSize := hstop _ List.mem_cons_self
    obtain ⟨hhead, hnexts⟩ := List.isChain_cons.mp hnext
    obtain ⟨part, rfl, hpart, hend⟩ :=
      (hended [] _ pieces rfl).exists_part (hbreak _ List.mem_cons_self)
    have hstart : ∀ q ∈ pieces.head?, q.1.span.start = start + part.byteSize + 1 := by
      intro q hq
      have hline : part.dropReturn ++ e = part ++ ['\n'] := by
        refine hend.resolve_right fun hlast ↦ ?_
        have hnil : pieces = [] := hlast.1
        rw [hnil] at hq
        cases hq
      have hsize := congrArg byteSize hline
      rw [byteSize_append, byteSize_append] at hsize
      rw [hhead q hq]
      change start + part.dropReturn.byteSize + e.byteSize = start + part.byteSize + 1
      change part.dropReturn.byteSize + e.byteSize = part.byteSize + 1 at hsize
      omega
    obtain ⟨parts, hparts, hbreaks, hmade⟩ := ih hnumbers
      (fun q hq ↦ hbreak q (List.mem_cons_of_mem _ hq))
      (fun q hq ↦ hstop q (List.mem_cons_of_mem _ hq)) hstart hnexts
      (fun before q after h ↦ hended (_ :: before) q after (congrArg _ h))
    refine ⟨part :: parts, ?_, List.forall_mem_cons.mpr ⟨hpart, hbreaks⟩, ?_⟩
    · rw [List.map_cons, hparts, placedLines]
    · rw [List.flatMap_cons, IsMadeOf, unlines_cons]
      rcases hend with hline | ⟨rfl, hline⟩
      · rw [hline, List.append_assoc]
        rcases hmade with h | h
        · exact .inl (by rw [h]; rfl)
        · exact .inr (by rw [← h]; simp)
      · have hnil : parts = [] := by
          cases parts with
          | nil => rfl
          | cons => cases hparts
        rw [hline, hnil]
        exact .inr (by simp)

theorem IsPartition.map_fst {source : Text} {pieces : List (SourceLine × Text)}
    (h : IsPartition source pieces) :
    pieces.map Prod.fst = placedLines dropReturn 0 0 source.rawLines := by
  have hstop : ∀ p ∈ pieces, p.1.span.stop = p.1.span.start + p.1.text.byteSize := by
    intro p hp
    obtain ⟨u, v, -, hstart, hstop⟩ := h.covers p hp
    omega
  obtain ⟨parts, hparts, hbreak, hmade⟩ :=
    exists_parts h.number h.noBreak hstop h.first h.next h.ended
  have hlength : parts.length = source.rawLines.length := by
    have hp := congrArg List.length hparts
    rw [List.length_map, length_placedLines, h.length, ← length_rawLines] at hp
    exact hp.symm
  have hraw : rawLines (unlines parts) = parts := rawLines_unlines hbreak
  rw [← h.whole] at hmade
  rw [hparts]
  congr 1
  rcases hmade with hs | hs
  · rw [hs, hraw]
  · by_cases hclosed : source = [] ∨ source.getLast? = some '\n'
    · have hmore := congrArg List.length (rawLines_append hclosed ['\n'])
      rw [hs, hraw, List.length_append, hlength] at hmore
      exact absurd hmore (Nat.ne_of_lt (Nat.lt_succ_self _))
    · have hsource := unlines_rawLines source
      rw [if_neg hclosed, hs] at hsource
      rw [← hraw, ← hsource, rawLines_unlines fun _ ↦ not_mem_of_mem_rawLines]

theorem isPartition_placedPieces (t : Text) :
    IsPartition t (placedPieces (decide (t = [] ∨ t.getLast? = some '\n')) 0 0 t.rawLines) := by
  have hclosed : (if decide (t = [] ∨ t.getLast? = some '\n') then [] else ['\n']) =
      if t = [] ∨ t.getLast? = some '\n' then [] else ['\n'] := by simp only [decide_eq_true_eq]
  generalize decide (t = [] ∨ t.getLast? = some '\n') = closed at hclosed ⊢
  have hmem : ∀ p ∈ placedPieces closed 0 0 t.rawLines,
      p.1 ∈ placedLines dropReturn 0 0 t.rawLines := by
    intro p hp
    rw [← map_fst_placedPieces closed]
    exact List.mem_map_of_mem hp
  have hcovers : ∀ p ∈ placedPieces closed 0 0 t.rawLines, p.1.span.Covers t p.1.text := by
    intro p hp
    obtain ⟨k, hk⟩ := List.mem_iff_getElem?.mp (hmem p hp)
    exact covers_of_placedLines dropReturn_prefix (isMadeOf_rawLines t) hk
  have hbreak : ∀ p ∈ placedPieces closed 0 0 t.rawLines, '\n' ∉ p.1.text := by
    intro p hp
    have htext := List.mem_map_of_mem (hmem p hp) (f := SourceLine.text)
    rw [map_text_placedLines] at htext
    obtain ⟨part, hpart, he⟩ := List.mem_map.mp htext
    rw [← he]
    exact not_break_dropReturn hpart
  have hwhole : (placedPieces closed 0 0 t.rawLines).flatMap (fun p ↦ p.1.text ++ p.2) = t := by
    by_cases ht : t = []
    · rw [ht]
      rfl
    · have hparts := flatMap_placedPieces closed 0 0 t.rawLines (rawLines_ne_nil ht)
      rw [unlines_rawLines, hclosed] at hparts
      exact List.append_cancel_right hparts
  exact {
    number := by rw [map_number_placedPieces, length_placedPieces]
    length := by rw [length_placedPieces, length_rawLines]
    noBreak := hbreak
    covers := hcovers
    slice := fun p hp ↦ (hcovers p hp).slice?
    whole := hwhole.symm
    first := start_of_head?_placedPieces closed 0 0 t.rawLines
    next := isChain_placedPieces closed 0 0 t.rawLines
    ended := fun _ _ _ ↦ endsLine_of_placedPieces closed 0 0 t.rawLines }

/-- The lines of a source make it up, and no other lines do. -/
theorem sourceLines_partition {t : Text} (ht : t.byteSize ≤ maxOffset) :
    (∃ pieces, pieces.map Prod.fst = sourceLines t ∧ IsPartition t pieces) ∧
      ∀ pieces, IsPartition t pieces → pieces.map Prod.fst = sourceLines t := by
  rw [sourceLines_eq ht]
  exact ⟨⟨_, map_fst_placedPieces _ 0 0 t.rawLines, isPartition_placedPieces t⟩,
    fun _ h ↦ h.map_fst⟩

theorem sourceLines_partition_returns :
    let t : Text := "é\r\r\n\n\r\nx\r".toList
    let ls : List SourceLine := [⟨1, ⟨0, 3⟩, "é\r".toList⟩, ⟨2, ⟨5, 5⟩, []⟩, ⟨3, ⟨6, 6⟩, []⟩,
      ⟨4, ⟨8, 9⟩, ['x']⟩]
    t.byteSize ≤ maxOffset ∧ sourceLines t = ls ∧
      (∃ pieces, pieces.map Prod.fst = ls ∧ IsPartition t pieces) ∧
      ∀ pieces, IsPartition t pieces → pieces.map Prod.fst = ls := by
  intro t ls
  have ht : t.byteSize ≤ maxOffset := by decide
  have hls : sourceLines t = ls := by decide +kernel
  refine ⟨ht, hls, ?_⟩
  rw [← hls]
  exact sourceLines_partition ht

end LabelBasic
