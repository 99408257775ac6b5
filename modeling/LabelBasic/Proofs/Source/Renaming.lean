import Mathlib.Data.List.Forall2
import LabelBasic.Proofs.Script.Reading
import LabelBasic.Proofs.Source.Places
import LabelBasic.Proofs.Text.Spacing

namespace LabelBasic

namespace Text

/-- The gap at the start of a text, the word after it, and the rest. -/
def cutWord (t : Text) : Text × Text × Text :=
  (t.takeWhile isBlank, t.trimStart.takeWhile (!isBlank ·), t.trimStart.dropWhile (!isBlank ·))

def functionName? (t : Text) : Option Text :=
  match t.words with
  | w :: n :: _ => if w = Keyword.func.spelling ∨ w = Keyword.callFunc.spelling then some n else none
  | _ => none

/-- The text with another name in the place of its name, if it has one. -/
def renameFunction (r : Text → Text) (t : Text) : Text :=
  match t.functionName? with
  | none => t
  | some n =>
    let (gap, w, rest) := t.cutWord
    let (gap', _, rest') := rest.cutWord
    gap ++ (w ++ (gap' ++ (r n ++ rest')))

def renameFunctions (r : Text → Text) (source : Text) : Text :=
  join ['\n'] ((source.splitOn '\n').map (renameFunction r))

def functionNames (source : Text) : List Text := source.rawLines.filterMap functionName?

variable {r : Text → Text} {t gap w rest n : Text}

theorem cutWord_append (hg : gap.IsGap) (hw : IsWord w) (hr : rest.StartsBlank) :
    cutWord (gap ++ (w ++ rest)) = (gap, w, rest) := by
  have hword : ∀ c ∈ w, (!isBlank c) = true := fun c hc ↦ by simp [hw.2 c hc]
  have hstart : trimStart (w ++ rest) = w ++ rest := by
    apply trimStart_eq_self
    intro c hc
    rw [List.head?_append_of_ne_nil w hw.1] at hc
    exact hw.2 c (List.mem_of_head? hc)
  have htrim : trimStart (gap ++ (w ++ rest)) = w ++ rest := by
    rw [trimStart, List.dropWhile_append_of_pos hg, ← trimStart, hstart]
  have htake : (w ++ rest).takeWhile isBlank = [] := by
    obtain ⟨c, u, rfl⟩ := List.exists_cons_of_ne_nil hw.1
    exact List.takeWhile_cons_of_neg (by simp [hw.2 c List.mem_cons_self])
  have hrest : rest.takeWhile (!isBlank ·) = [] ∧ rest.dropWhile (!isBlank ·) = rest := by
    cases rest with
    | nil => exact ⟨rfl, rfl⟩
    | cons c rest => simp [hr c rfl]
  rw [cutWord, htrim, List.takeWhile_append_of_pos hg, htake, List.append_nil,
    List.takeWhile_append_of_pos hword, hrest.1, List.append_nil,
    List.dropWhile_append_of_pos hword, hrest.2]

theorem functionName?_eq_some_iff : t.functionName? = some n ↔
    ∃ k ws, (k = Keyword.func ∨ k = Keyword.callFunc) ∧ t.words = k.spelling :: n :: ws := by
  constructor
  · intro h
    unfold functionName? at h
    split at h
    · rw [Option.ite_none_right_eq_some] at h
      obtain ⟨hw | hw, hn⟩ := h
      · exact ⟨.func, _, .inl rfl, by rw [‹t.words = _›, hw, Option.some.inj hn]⟩
      · exact ⟨.callFunc, _, .inr rfl, by rw [‹t.words = _›, hw, Option.some.inj hn]⟩
    · cases h
  · rintro ⟨k, ws, rfl | rfl, h⟩
    all_goals simp [functionName?, h]

theorem functionName?_dropReturn (t : Text) : t.dropReturn.functionName? = t.functionName? := by
  rw [functionName?, functionName?, words_dropReturn]

theorem renameFunction_of_none (h : t.functionName? = none) : t.renameFunction r = t := by
  simp only [renameFunction, h]

theorem exists_place (h : t.functionName? = some n) :
    ∃ (k : Keyword) (gap gap' rest : Text) (ws : List Text),
      gap.IsGap ∧ gap'.IsGap ∧ gap' ≠ [] ∧ Follow ws rest ∧
        t = gap ++ (k.spelling ++ (gap' ++ (n ++ rest))) ∧
        t.words = k.spelling :: n :: ws ∧
        ∀ r, t.renameFunction r = gap ++ (k.spelling ++ (gap' ++ (r n ++ rest))) := by
  obtain ⟨k, ws, -, hk⟩ := functionName?_eq_some_iff.mp h
  obtain ⟨gap, rest, ht, hg, hw, hrest⟩ := words_eq_cons_iff.mp hk
  cases hrest with
  | @cons gap' _ rest' _ hg' hne hn hr =>
    refine ⟨k, gap, gap', rest', ws, hg, hg', hne, hr, ht, hk, fun r ↦ ?_⟩
    have hstart : StartsBlank (gap' ++ (n ++ rest')) := startsBlank_append hg' hne _
    simp only [renameFunction, h]
    rw [ht, cutWord_append hg hw hstart, cutWord_append hg' hn hr.startsBlank]

theorem words_renameFunction (h : t.functionName? = some n) (hr : IsWord (r n)) :
    ∃ (k : Keyword) (ws : List Text), t.words = k.spelling :: n :: ws ∧
      (t.renameFunction r).words = k.spelling :: r n :: ws := by
  obtain ⟨k, gap, gap', rest, ws, hg, hg', hne, hrest, -, hw, hrename⟩ := exists_place h
  have hk : IsWord k.spelling := isWord_of_mem_words (hw ▸ List.mem_cons_self)
  refine ⟨k, ws, hw, words_eq_cons_iff.mpr ⟨gap, _, hrename r, hg, hk, ?_⟩⟩
  exact .cons hg' hne hr hrest

example : renameFunction (fun _ ↦ ['B']) "\tCALLFUNC  A A\r".toList = "\tCALLFUNC  B A\r".toList := by
  decide

theorem not_break_renameFunction (ht : '\n' ∉ t)
    (hr : ∀ n, t.functionName? = some n → IsWord (r n)) : '\n' ∉ t.renameFunction r := by
  cases h : t.functionName? with
  | none =>
    rw [renameFunction_of_none h]
    exact ht
  | some n =>
    obtain ⟨k, gap, gap', rest, ws, -, -, -, -, hplace, -, hrename⟩ := exists_place h
    rw [hplace] at ht
    rw [hrename]
    simp only [List.mem_append, not_or] at ht ⊢
    exact ⟨ht.1, ht.2.1, ht.2.2.1, (hr n h).not_break, ht.2.2.2.2⟩

theorem renameFunction_eq_nil_iff : t.renameFunction r = [] ↔ t = [] := by
  cases h : t.functionName? with
  | none => rw [renameFunction_of_none h]
  | some n =>
    obtain ⟨k, gap, gap', rest, ws, -, -, hne, -, hplace, -, hrename⟩ := exists_place h
    rw [hrename, hplace]
    simp [hne]

theorem mem_splitOn {part : Text} (h : part ∈ t.splitOn '\n') : part ∈ t.rawLines ∨ part = [] := by
  unfold rawLines
  simp only
  split
  · obtain ⟨parts, hparts⟩ := List.getLast?_eq_some_iff.mp ‹_›
    rw [hparts] at h ⊢
    rw [List.dropLast_concat]
    exact (List.mem_append.mp h).imp_right List.mem_singleton.mp
  · exact .inl h

theorem rawLines_join_map {f : Text → Text} (hf : ∀ part ∈ t.rawLines, '\n' ∉ f part)
    (hnil : ∀ part, f part = [] ↔ part = []) :
    rawLines (join ['\n'] ((t.splitOn '\n').map f)) = t.rawLines.map f := by
  have hbreak : ∀ part ∈ (t.splitOn '\n').map f, '\n' ∉ part := by
    intro part hpart
    obtain ⟨part, hmem, rfl⟩ := List.mem_map.mp hpart
    rcases mem_splitOn hmem with h | rfl
    · exact hf part h
    · rw [(hnil []).mpr rfl]
      exact List.not_mem_nil
  have hne : (t.splitOn '\n').map f ≠ [] := by simp
  have hlast : ((t.splitOn '\n').map f).getLast? = some [] ↔ (t.splitOn '\n').getLast? = some [] := by
    rw [List.getLast?_map, Option.map_eq_some_iff]
    simp only [hnil, exists_eq_right]
  rw [rawLines, join, List.splitOn_intercalate '\n' hbreak hne]
  simp only [rawLines, hlast]
  split
  · rw [List.map_dropLast]
  · rfl

theorem rawLines_renameFunctions (hr : ∀ n ∈ t.functionNames, IsWord (r n)) :
    (t.renameFunctions r).rawLines = t.rawLines.map (renameFunction r) := by
  apply rawLines_join_map
  · intro part hpart
    apply not_break_renameFunction (not_mem_of_mem_rawLines hpart)
    intro n hn
    exact hr n (List.mem_filterMap.mpr ⟨part, hpart, hn⟩)
  · intro part
    exact renameFunction_eq_nil_iff

end Text

open Text

namespace SourceLine

/-- The second line has another name in the place of the name of the first, which is one of the
given names. -/
structure Renamed (r : Text → Text) (names : List Text) (l l' : SourceLine) : Prop where
  number : l'.number = l.number
  kept : l.text.functionName? = none → l'.text = l.text
  named : ∀ n, l.text.functionName? = some n → n ∈ names ∧ ∃ (k : Keyword) (ws : List Text),
    l.text.words = k.spelling :: n :: ws ∧ l'.text.words = k.spelling :: r n :: ws

variable {r : Text → Text} {names : List Text} {l l' : SourceLine} {n : Text}

theorem reading_of_words {k : Keyword} {ws : List Text} (h : l.text.words = k.spelling :: ws) :
    l.keyword? = some k ∧ l.operands = ws := by
  rw [keyword?, operands, h]
  exact ⟨Keyword.ofWord?_eq_some_iff.mpr rfl, rfl⟩

theorem Renamed.text_eq (h : Renamed r names l l')
    (hl : l.keyword? = some .func ∨ l.keyword? = some .callFunc → l.operands = []) :
    l'.text = l.text := by
  apply h.kept
  apply Option.eq_none_iff_forall_ne_some.mpr
  intro n hn
  obtain ⟨k, ws, hk, hw⟩ := functionName?_eq_some_iff.mp hn
  obtain ⟨hkeyword, hoperands⟩ := reading_of_words hw
  rw [hkeyword, hoperands] at hl
  have hnil := hl (hk.imp (congrArg some) (congrArg some))
  cases hnil

theorem Renamed.words (h : Renamed r names l l') {k : Keyword} {ws : List Text}
    (hk : k = .func ∨ k = .callFunc) (hw : l.text.words = k.spelling :: n :: ws) :
    n ∈ names ∧ l'.text.words = k.spelling :: r n :: ws := by
  obtain ⟨hn, j, vs, hl, hl'⟩ := h.named n (functionName?_eq_some_iff.mpr ⟨k, ws, hk, hw⟩)
  rw [hw] at hl
  obtain ⟨hj, hvs⟩ := List.cons.inj hl
  rw [hj, (List.cons.inj hvs).2]
  exact ⟨hn, hl'⟩

theorem Renamed.defines (h : Renamed r names l l') (hl : l.Defines n) :
    n ∈ names ∧ l'.Defines (r n) := by
  obtain ⟨ws, hw⟩ := hl.operands
  obtain ⟨hn, hl'⟩ := h.words (.inl rfl) (by rw [words_of_keyword hl.1, hw])
  obtain ⟨hkeyword, hoperands⟩ := reading_of_words hl'
  exact ⟨hn, hkeyword, by rw [hoperands]; rfl⟩

theorem Renamed.calls (h : Renamed r names l l') {arguments : List Text}
    (hl : l.Calls n arguments) : n ∈ names ∧ l'.Calls (r n) arguments := by
  obtain ⟨hn, hl'⟩ := h.words (.inr rfl) (by rw [words_of_keyword hl.1, hl.2])
  exact ⟨hn, reading_of_words hl'⟩

theorem renamed_ofText {raw : Text}
    (hr : ∀ n, raw.functionName? = some n → n ∈ names ∧ IsWord (r n)) (number a b : Nat) :
    Renamed r names (.ofText number a raw.dropReturn)
      (.ofText number b (raw.renameFunction r).dropReturn) := by
  refine ⟨rfl, fun h ↦ ?_, fun n h ↦ ?_⟩
  · have hraw : raw.functionName? = none := (functionName?_dropReturn raw).symm.trans h
    rw [renameFunction_of_none hraw]
    rfl
  · have hraw : raw.functionName? = some n := (functionName?_dropReturn raw).symm.trans h
    obtain ⟨hn, hw⟩ := hr n hraw
    obtain ⟨k, ws, hk, hk'⟩ := words_renameFunction hraw hw
    exact ⟨hn, k, ws, (words_dropReturn raw).trans hk, (words_dropReturn _).trans hk'⟩

end SourceLine

theorem forall₂_renamed {r : Text → Text} {names raws : List Text}
    (hr : ∀ raw ∈ raws, ∀ n, raw.functionName? = some n → n ∈ names ∧ IsWord (r n))
    (number a b : Nat) :
    List.Forall₂ (SourceLine.Renamed r names) (numberLines number a raws)
      (numberLines number b (raws.map (renameFunction r))) := by
  induction raws generalizing number a b with
  | nil => exact .nil
  | cons raw raws ih =>
    rw [List.forall_mem_cons] at hr
    exact .cons (SourceLine.renamed_ofText hr.1 _ a b) (ih hr.2 _ _ _)

theorem sourceLines_renameFunctions {r : Text → Text} {t : Text}
    (hr : ∀ n ∈ t.functionNames, IsWord (r n)) :
    List.Forall₂ (SourceLine.Renamed r t.functionNames) (sourceLines t)
      (sourceLines (t.renameFunctions r)) := by
  rw [sourceLines, sourceLines, rawLines_renameFunctions hr]
  apply forall₂_renamed
  intro raw hraw n hn
  have hmem : n ∈ t.functionNames := List.mem_filterMap.mpr ⟨raw, hraw, hn⟩
  exact ⟨hmem, hr n hmem⟩

end LabelBasic
