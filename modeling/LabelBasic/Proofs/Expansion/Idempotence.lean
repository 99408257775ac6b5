import LabelBasic.Proofs.Expansion.Jumps
import LabelBasic.Proofs.Expansion.Agreement

namespace LabelBasic

open Text

/-- The text is a line that stays as it is, however often a script is expanded. -/
structure Text.IsSettled (t : Text) : Prop where
  noBreak : '\n' ∉ t
  trimmed : t.trim = t
  plain : t.words.head?.bind Keyword.ofWord? = none

def Instruction.HasWords : Instruction → Prop
  | beginMarker name => IsWord name
  | setVal _ (.text t) => IsWord t
  | _ => True

section Settled

/-- What stands between two words does not matter, as long as it has no line feed and the first
word is none of the keywords. -/
theorem Text.isSettled_between {v u w : Text} (hv : IsWord v) (hk : Keyword.ofWord? v = none)
    (hu : '\n' ∉ u) (hw : IsWord w) : IsSettled (v ++ ' ' :: (u ++ w)) := by
  refine ⟨?_, trim_eq_self ?_ ?_, ?_⟩
  · simp [hv.not_break, hu, hw.not_break]
  · intro c hc
    rw [List.head?_append_of_ne_nil v hv.1] at hc
    exact hv.2 c (List.mem_of_head? hc)
  · intro c hc
    have hlast : (v ++ ' ' :: (u ++ w)).getLast? = w.getLast? := by
      rw [← List.cons_append, ← List.append_assoc]
      exact List.getLast?_append_of_ne_nil _ hw.1
    rw [hlast] at hc
    exact hw.2 c (List.mem_of_getLast? hc)
  · rw [words_append_space hv]
    exact hk

theorem Instruction.isSettled_render {i : Instruction} (h : i.HasWords) : i.render.IsSettled := by
  have hm : IsWord ['#'] := by decide
  have hg : IsWord "GOTO".toList := by decide
  have hl : IsWord "LBL".toList := by decide
  have hs : IsWord "SETVAL".toList := by decide
  cases i with
  | beginMarker name => exact isSettled_between (u := "FUNC ".toList) hm (by decide) (by decide) h
  | endMarker =>
    have hw : IsWord "FUNCEND".toList := by decide
    exact isSettled_between (u := []) hm (by decide) (by decide) hw
  | goto a => exact isSettled_between (u := []) hg (by decide) (by decide) a.isWord_spelling
  | gotoIndirect x =>
    exact isSettled_between (u := ['$']) hg (by decide) (by decide) x.isWord_spelling
  | label a => exact isSettled_between (u := []) hl (by decide) (by decide) a.isWord_spelling
  | setVal x v =>
    have hr : (setVal x v).render =
        "SETVAL".toList ++ ' ' :: ((x.spelling ++ [' ']) ++ v.spelling) := by
      rw [render_setVal, List.append_assoc, List.singleton_append]
    have hv : IsWord v.spelling := by
      cases v with
      | text t => exact h
      | label a => exact a.isWord_spelling
    have hx : '\n' ∉ x.spelling ++ [' '] := by simp [x.isWord_spelling.not_break]
    rw [hr]
    exact isSettled_between hs (by decide) hx hv

end Settled

namespace Script

variable {s before : Script} {l : SourceLine} {o : Options}

theorem isWord_of_mem_operands {w : Text} (h : w ∈ l.operands) : IsWord w :=
  isWord_of_mem_words (List.mem_of_mem_tail h)

theorem hasWords_of_lineOutput {i : Instruction} (h : .generated i ∈ lineOutput o before l) :
    i.HasWords := by
  rcases generated_mem_lineOutput h with ⟨n, hn, hi⟩ | ⟨v, hv, hi⟩ | ⟨-, hi⟩ | ⟨n, as, hc, hi⟩
  · have hw : IsWord n := isWord_of_mem_operands (List.mem_of_head? hn.2)
    rcases mem_openingCode.mp hi with ⟨-, rfl⟩ | rfl | rfl
    · exact hw
    · trivial
    · trivial
  · have hw : IsWord v := isWord_of_mem_operands (List.mem_of_head? hv.2)
    simp only [Scan.returningCode, List.mem_cons, List.not_mem_nil, or_false] at hi
    rcases hi with rfl | rfl
    · exact hw
    · trivial
  · rcases mem_closingCode.mp hi with rfl | rfl | ⟨-, rfl⟩ <;> trivial
  · simp only [Scan.callingCode, List.mem_append, List.mem_map, List.mem_cons, List.not_mem_nil,
      or_false] at hi
    rcases hi with ⟨a, ha, rfl⟩ | rfl | rfl | rfl
    · apply isWord_of_mem_operands (l := l)
      rw [hc.2]
      exact List.mem_cons_of_mem n (List.fst_mem_of_mem_zipIdx ha)
    all_goals trivial

theorem copied_mem_lineOutput {t : Text} (h : .copied t ∈ lineOutput o before l)
    (hl : ∀ k, ¬ l.LacksOperand k) : l.keyword? = none ∧ t = Scan.lineText o l := by
  rcases l.reading_cases with hp | ⟨k, hk⟩ | ⟨n, hn⟩ | ⟨v, hv⟩ | he | ⟨n, arguments, hc⟩
  · rw [lineOutput_of_plain o before hp, List.mem_singleton] at h
    exact ⟨hp, OutputLine.copied.inj h⟩
  · exact absurd hk (hl k)
  · simp [lineOutput_of_defines o before hn] at h
  · simp [lineOutput_of_returns o before hv] at h
  · simp [lineOutput_of_closes o before he] at h
  · simp [lineOutput_of_calls o before hc] at h

theorem isSettled_lineOutput (ho : o.trimLines = true) (hb : '\n' ∉ l.text)
    (hl : ∀ k, ¬ l.LacksOperand k) {x : OutputLine} (hx : x ∈ lineOutput o before l) :
    x.text.IsSettled := by
  cases x with
  | generated i => exact Instruction.isSettled_render (hasWords_of_lineOutput hx)
  | copied t =>
    obtain ⟨hk, rfl⟩ := copied_mem_lineOutput hx hl
    have ht : Scan.lineText o l = l.text.trim := by rw [Scan.lineText, ho, if_pos rfl]
    rw [OutputLine.text, ht]
    refine ⟨fun hc ↦ hb (mem_of_mem_trim hc), trim_trim _, ?_⟩
    rw [words_trim]
    exact hk

theorem isSettled_texts (ho : o.trimLines = true) (hs : Faultless s)
    (hb : ∀ l ∈ s, '\n' ∉ l.text) : ∀ t ∈ (s.expansion o).texts, t.IsSettled := by
  intro t ht
  obtain ⟨x, hx, rfl⟩ := List.mem_map.mp ht
  obtain ⟨before, l, after, rfl, hl⟩ := mem_gather.mp hx
  have hmem : l ∈ before ++ l :: after := by simp
  exact isSettled_lineOutput ho (hb l hmem) (hs.not_lacksOperand hmem) hl

end Script

open Script

theorem Expansion.render_eq_unlines {x : Expansion} (h : x.trailingNewline = true) :
    x.render = unlines x.texts := by
  by_cases hl : x.lines = []
  · simp [render, texts, hl, join]
  · have ht : x.texts ≠ [] := by simpa [texts] using hl
    have he : (x.trailingNewline && !x.lines.isEmpty) = true := by simp [h, hl]
    rw [render, if_pos he, join_append_newline ht]

variable {o : Options}

theorem expandSource_unlines {ts : List Text} (h : ∀ t ∈ ts, IsSettled t) (ho : o.trimLines = true)
    (name : Text) (hsize : (unlines ts).byteSize ≤ maxOffset) :
    expandSource o ⟨name, unlines ts⟩ =
      ⟨[], .ok ⟨ts.map .copied, [], 0, o.trailingNewline⟩⟩ := by
  have hraw : rawLines (unlines ts) = ts := rawLines_unlines fun t ht ↦ (h t ht).noBreak
  have hk : ∀ l ∈ sourceLines (unlines ts), l.keyword? = none := by
    intro l hl
    obtain ⟨part, hp, he⟩ := exists_part hl
    rw [hraw] at hp
    rw [SourceLine.keyword?, he, words_dropReturn]
    exact (h part hp).plain
  rw [expandSource_plain hsize hk]
  simp only [ho, if_true, hraw]
  have hlines : (ts.map fun t ↦ OutputLine.copied t.trim) = ts.map .copied := by
    apply List.map_congr_left
    intro t ht
    rw [(h t ht).trimmed]
  rw [hlines]

/-- What an expansion puts out is expanded to itself, without functions, calls or events. -/
theorem expandSource_idempotent {source : Source} {x : Expansion} (ht : o.trimLines = true)
    (hn : o.trailingNewline = true) (h : (expandSource o source).result = .ok x)
    (hsize : x.render.byteSize ≤ maxOffset) (name : Text) :
    ∃ y, expandSource o ⟨name, x.render⟩ = ⟨[], .ok y⟩ ∧ y.texts = x.texts ∧
      y.render = x.render ∧ y.functions = [] ∧ y.callSites = 0 := by
  obtain ⟨-, hs, -, rfl, -⟩ := expand_eq_ok h
  have hsettled := isSettled_texts ht hs fun l ↦ not_break_of_sourceLines
  have hrender := Expansion.render_eq_unlines (x := expansion o (sourceLines source.text)) hn
  rw [hrender] at hsize ⊢
  refine ⟨_, expandSource_unlines hsettled ht name hsize, ?_, ?_, rfl, rfl⟩
  · exact List.map_map.trans (List.map_id _)
  · rw [Expansion.render_eq_unlines hn]
    congr 1
    exact List.map_map.trans (List.map_id _)

def unevenScript : Source where
  name := "a.lb".toList
  text := "FUNC\u00A0A\u2003x\r\n a\rb \r\r\n\n\tFUNCEND".toList

theorem expandSource_idempotent_uneven :
    let o : Options := { markers := false }
    let x := expansion o (sourceLines unevenScript.text)
    (expandSource o unevenScript).result = .ok x ∧ x.render.byteSize ≤ maxOffset ∧
      x.render =
        "GOTO SKIPFUNC0\nLBL FUNC0\na\rb\n\nGOTO $FUNCRTNGOTO\nLBL SKIPFUNC0\n".toList ∧
      ∃ y, expandSource o ⟨[], x.render⟩ = ⟨[], .ok y⟩ ∧ y.texts = x.texts ∧
        y.render = x.render ∧ y.functions = [] ∧ y.callSites = 0 := by
  intro o x
  have hx : (expandSource o unevenScript).result = .ok x := by decide +kernel
  have hsize : x.render.byteSize ≤ maxOffset := by decide +kernel
  exact ⟨hx, hsize, by decide +kernel, expandSource_idempotent rfl rfl hx hsize []⟩

end LabelBasic
