import LabelBasic.Proofs.Expansion.Failures

namespace LabelBasic

open Text

def Text.Opens (t name : Text) : Prop := [Keyword.func.spelling, name] <+: t.words

/-- The error is about `text`, which comes after the lines `before` of the source. -/
structure Pinpoints (source : Source) (before : List Text) (text : Text) (failure : Failure)
    (attached : Source) : Prop where
  attached_eq : attached = source
  line : failure.site.line = before.length + 1
  place : failure.site.Shows source.text text.trim
  excerpt : (ExpansionError.failed failure attached).excerpt? = some text.trim
  keyword : ∃ k, failure.fault.keyword? = some k ∧ text.trim.words.head? = some k.spelling
  name : ∀ n, failure.fault.name? = some n → text.trim.words[1]? = some n
  missing : ∀ m, failure.fault = .missingOperand m → text.trim = m.keyword.spelling
  /-- The other function is defined before, and nowhere else before. -/
  earlier : ∀ n k, failure.fault.earlier? = some (n, k) → k < failure.site.line ∧
    ∃ u t v, before = u ++ t :: v ∧ k = u.length + 1 ∧ t.Opens n ∧ ∀ x ∈ u ++ v, ¬ x.Opens n

/-- An error, other than for the size of the source, is about one of the lines. -/
def Explained (source : Source) (lines : List Text) (r : Except ExpansionError Expansion) : Prop :=
  ∀ failure attached, r = .error (.failed failure attached) →
    ∃ before text after, lines = before ++ text :: after ∧
      Pinpoints source before text failure attached

namespace SourceLine

variable {l : SourceLine} {n : Text}

theorem defines_iff_opens : l.Defines n ↔ l.text.Opens n := by
  constructor
  · intro h
    obtain ⟨ws, hw⟩ := h.operands
    exact ⟨ws, by rw [words_of_keyword h.1, hw]; rfl⟩
  · rintro ⟨ws, hw⟩
    constructor
    · rw [keyword?, ← hw]
      rfl
    · rw [operands, ← hw]
      rfl

end SourceLine

section Placed

variable {text : Text → Text} {source attached : Source} {parts : List Text} {o : Options}
  {before after : Script} {l : SourceLine} {failure : Failure}

theorem getElem?_of_append (h : placedLines text 0 0 parts = before ++ l :: after) :
    (placedLines text 0 0 parts)[before.length]? = some l := by
  rw [h]
  simp

theorem number_of_placedLines (h : placedLines text 0 0 parts = before ++ l :: after) :
    l.number = before.length + 1 := by
  have hl := getElem?_of_append h
  rw [getElem?_placedLines] at hl
  obtain ⟨part, -, rfl⟩ := Option.map_eq_some_iff.mp hl
  exact congrArg (· + 1) (Nat.zero_add _)

theorem Script.Blames.pinpoints (hp : placedLines text 0 0 parts = before ++ l :: after)
    (htext : ∀ t, text t <+: t) (hm : source.text.IsMadeOf parts) (hs : failure.site = l.site)
    (h : Blames before l failure.fault) :
    Pinpoints source (before.map SourceLine.text) l.text failure source := by
  have hn := number_of_placedLines hp
  have hplace : failure.site.Shows source.text l.text.trim :=
    hs ▸ shows_of_placedLines htext hm (getElem?_of_append hp)
  obtain ⟨k, hf, hk⟩ := h.keyword
  have hw := SourceLine.words_of_keyword hk
  refine ⟨rfl, ?_, hplace, hplace.slice?, ⟨k, hf, ?_⟩, ?_, ?_, ?_⟩
  · rw [hs, List.length_map, ← hn]
    rfl
  · rw [words_trim, hw]
    rfl
  · intro n hname
    obtain ⟨ws, ho⟩ := List.head?_eq_some_iff.mp (h.name n hname)
    rw [words_trim, hw, ho]
    rfl
  · intro m hmissing
    rw [hmissing] at hf
    obtain rfl : m.keyword = k := Option.some.inj hf
    exact trim_of_words (by rw [hw, h.missing m hmissing])
  · intro n j hearlier
    obtain ⟨u, d, v, rfl, rfl, hd, hx⟩ := h.earlier n j hearlier
    have hpd : placedLines text 0 0 parts = u ++ d :: (v ++ l :: after) := by
      rw [hp, List.append_assoc, List.cons_append]
    have hdn := number_of_placedLines hpd
    refine ⟨?_, u.map SourceLine.text, d.text, v.map SourceLine.text, by simp, by simpa using hdn,
      SourceLine.defines_iff_opens.mp hd, ?_⟩
    · have hline : failure.site.line = l.number := congrArg Site.line hs
      rw [hline, hn, hdn, List.length_append, List.length_cons]
      omega
    · rw [← List.map_append]
      intro x hmem
      obtain ⟨y, hy, rfl⟩ := List.mem_map.mp hmem
      exact fun ho ↦ hx y hy (SourceLine.defines_iff_opens.mpr ho)

theorem exists_pinpoints (htext : ∀ t, text t <+: t) (hm : source.text.IsMadeOf parts)
    (hn : parts.length ≤ maxOffset)
    (h : (expand o source (placedLines text 0 0 parts)).result =
      .error (.failed failure attached)) :
    ∃ before t after, parts.map text = before ++ t :: after ∧
      Pinpoints source before t failure attached := by
  have hr : Script.HasNumbers (placedLines text 0 0 parts) :=
    Script.hasNumbers_of_length_le (by rwa [length_placedLines])
  obtain ⟨rfl, before, l, after, hp, hs, hb⟩ := exists_blamed hr h
  refine ⟨before.map SourceLine.text, l.text, after.map SourceLine.text, ?_,
    hb.pinpoints hp htext hm hs⟩
  rw [← map_text_placedLines text 0 0 parts, hp, List.map_append, List.map_cons]

end Placed

section Sources

variable {o : Options} {source attached : Source} {items : List Text} {failure : Failure}

theorem map_text_numberItems (number offset : Nat) (items : List Text) :
    (numberItems number offset items).map SourceLine.text = items := by
  induction items generalizing number offset with
  | nil => rfl
  | cons item items ih => rw [numberItems, List.map_cons, ih]; rfl

theorem length_le_of_failed
    (h : (expandLines o items).result = .error (.failed failure attached)) :
    items.length ≤ maxOffset := by
  obtain ⟨l, hl, hk⟩ := exists_keyword_of_failed h
  have hsize : (join ['\n'] items).byteSize ≤ maxOffset := byteSize_le_of_failed h
  have hmem : l.text ∈ items := by
    rw [← map_text_numberItems 0 0 items]
    exact List.mem_map_of_mem hl
  have hpos : 0 < l.text.byteSize := by
    apply byteSize_pos
    intro he
    rw [SourceLine.keyword?, he] at hk
    exact hk rfl
  have hle := (isMadeOf_join items).byteSize_unlines_le
  have := length_add_byteSize_le hmem
  omega

theorem exists_pinpoints_source
    (h : (expandSource o source).result = .error (.failed failure attached)) :
    ∃ before t after, (sourceLines source.text).map SourceLine.text = before ++ t :: after ∧
      Pinpoints source before t failure attached := by
  have hsize := byteSize_le_of_failed h
  have hlen := length_rawLines_le source.text
  rw [expandSource, sourceLines_eq hsize] at h
  rw [sourceLines_eq hsize, map_text_placedLines]
  exact exists_pinpoints dropReturn_prefix (isMadeOf_rawLines source.text) (by omega) h

theorem exists_pinpoints_lines
    (h : (expandLines o items).result = .error (.failed failure attached)) :
    ∃ before t after, items = before ++ t :: after ∧
      Pinpoints ⟨"<input>".toList, join ['\n'] items⟩ before t failure attached := by
  have hlen := length_le_of_failed h
  have hsize : (join ['\n'] items).byteSize ≤ maxOffset := byteSize_le_of_failed h
  have hle := (isMadeOf_join items).byteSize_unlines_le
  rw [expandLines, numberItems_eq (by omega) (by omega)] at h
  have hp := exists_pinpoints List.prefix_refl (isMadeOf_join items) hlen h
  rw [List.map_id'] at hp
  exact hp

end Sources

/-- Every error shows the line it is about, whatever the settings. -/
theorem expansion_explained (o : Options) (source : Source) (items : List Text) :
    Explained source ((sourceLines source.text).map SourceLine.text)
        (expandSource o source).result ∧
      Explained ⟨"<input>".toList, join ['\n'] items⟩ items (expandLines o items).result :=
  ⟨fun _ _ h ↦ exists_pinpoints_source h, fun _ _ h ↦ exists_pinpoints_lines h⟩

def nestedScript : Source where
  name := "a.lb".toList
  text := "x\r\n\u3000FUNC A \r\n\n FUNC B".toList

theorem expansion_explained_nested :
    let o : Options := { trimLines := false }
    let items := ["x\ny".toList, "\tFUNC\nA".toList]
    let nested : Failure := ⟨.nestedFunction ['B'] ['A'] 2, ⟨4, 17, 6⟩⟩
    let opened : Failure := ⟨.unterminatedFunction ['A'], ⟨2, 5, 6⟩⟩
    let input : Source := ⟨"<input>".toList, join ['\n'] items⟩
    (expandSource o nestedScript).result = .error (.failed nested nestedScript) ∧
      (expandLines o items).result = .error (.failed opened input) ∧
      (∃ before text after, (sourceLines nestedScript.text).map SourceLine.text =
        before ++ text :: after ∧ Pinpoints nestedScript before text nested nestedScript) ∧
      ∃ before text after, items = before ++ text :: after ∧
        Pinpoints input before text opened input := by
  intro o items nested opened input
  have hs : (expandSource o nestedScript).result = .error (.failed nested nestedScript) := by
    decide +kernel
  have hl : (expandLines o items).result = .error (.failed opened input) := by decide +kernel
  obtain ⟨hsource, hlines⟩ := expansion_explained o nestedScript items
  exact ⟨hs, hl, hsource nested nestedScript hs, hlines opened input hl⟩

end LabelBasic
