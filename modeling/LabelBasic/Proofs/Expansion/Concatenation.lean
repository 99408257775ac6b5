import LabelBasic.Proofs.Expansion.Pinpoint
import LabelBasic.Proofs.Expansion.Acceptance
import LabelBasic.Proofs.Expansion.Labels

namespace LabelBasic

def Label.renumber (n m : Nat) : Label → Label
  | entry i => entry (i + n)
  | skip i => skip (i + n)
  | resume j => resume (j + m)

def Operand.renumber (n m : Nat) : Operand → Operand
  | text t => text t
  | label a => label (a.renumber n m)

/-- The instruction with `n` added to the numbers of functions and `m` to those of calls. -/
def Instruction.renumber (n m : Nat) : Instruction → Instruction
  | beginMarker name => beginMarker name
  | endMarker => endMarker
  | goto a => goto (a.renumber n m)
  | gotoIndirect x => gotoIndirect x
  | label a => label (a.renumber n m)
  | setVal x v => setVal x (v.renumber n m)

def OutputLine.renumber (n m : Nat) : OutputLine → OutputLine
  | copied t => copied t
  | generated i => generated (i.renumber n m)

def Definition.renumber (n k : Nat) (d : Definition) : Definition :=
  { d with id := d.id + n, line := d.line + k }

/-- The same line after `k` other lines that take `b` bytes. -/
def SourceLine.move (k b : Nat) (l : SourceLine) : SourceLine where
  number := l.number + k
  span := ⟨l.span.start + b, l.span.stop + b⟩
  text := l.text

section Code

open Scan

variable (n m : Nat)

theorem renumber_openingCode (markers : Bool) (name : Text) (id : Nat) :
    (openingCode markers name id).map (Instruction.renumber n m) =
      openingCode markers name (id + n) := by
  cases markers <;> rfl

theorem renumber_closingCode (markers : Bool) (id : Nat) :
    (closingCode markers id).map (Instruction.renumber n m) = closingCode markers (id + n) := by
  cases markers <;> rfl

theorem renumber_callingCode (id site : Nat) (arguments : List Text) :
    (callingCode id site arguments).map (Instruction.renumber n m) =
      callingCode (id + n) (site + m) arguments := by
  simp only [callingCode, List.map_append, List.map_map]
  rfl

theorem renumber_generated (code : List Instruction) :
    (code.map .generated).map (OutputLine.renumber n m) =
      (code.map (Instruction.renumber n m)).map .generated := by
  rw [List.map_map, List.map_map]
  rfl

end Code

namespace Script

open SourceLine

variable {s t before : Script} {l : SourceLine} (k b : Nat)

def move (s : Script) : Script := s.map (SourceLine.move k b)

theorem numberOf_move (w : Keyword) (s : Script) : numberOf w (s.move k b) = numberOf w s := by
  rw [numberOf, linesOf, move, List.filter_map, List.length_map]
  rfl

theorem Blocks.move (h : Blocks s) : Blocks (s.move k b) := by
  induction h with
  | nil => exact .nil
  | line h _ ih => exact .line h ih
  | @block l e body rest hl hb he _ ih =>
    have hm : Script.move k b (l :: (body ++ e :: rest)) =
        l.move k b :: (body.map (SourceLine.move k b) ++ e.move k b :: Script.move k b rest) := by
      simp only [Script.move, List.map_cons, List.map_append]
    rw [hm]
    refine .block hl ?_ he ih
    intro x hx
    obtain ⟨y, hy, rfl⟩ := List.mem_map.mp hx
    exact hb y hy

theorem WellFormed.move (h : WellFormed s) : WellFormed (s.move k b) := by
  refine ⟨h.blocks.move k b, ?_, List.pairwise_map.mpr h.names, ?_⟩
  · intro l hl
    obtain ⟨x, hx, rfl⟩ := List.mem_map.mp hl
    exact h.operands x hx
  · intro before l after n arguments he hc
    obtain ⟨u, v, rfl, rfl, hv⟩ := List.map_eq_append_iff.mp he
    obtain ⟨x, w, rfl, rfl, -⟩ := List.map_eq_cons_iff.mp hv
    obtain ⟨d, hd, hn⟩ := h.calls u x w n arguments rfl hc
    exact ⟨d.move k b, List.mem_map_of_mem hd, hn⟩

theorem position_append {n : Text} (h : ∀ x ∈ s, ¬ x.Defines n) :
    position n (s ++ before.move k b) = position n before + numberOf .func s := by
  have hp : ∀ x ∈ s, (!decide (x.Defines n)) = true := by
    intro x hx
    simp [h x hx]
  rw [position, List.takeWhile_append_of_pos hp, numberOf_append, Nat.add_comm, move,
    List.takeWhile_map, ← move, numberOf_move]
  rfl

theorem numberOf_append_move (w : Keyword) :
    numberOf w (s ++ before.move k b) = numberOf w before + numberOf w s := by
  rw [numberOf_append, numberOf_move, Nat.add_comm]

theorem definition_append (l : SourceLine) :
    definition (s ++ before.move k b) (l.move k b) =
      (definition before l).map (Definition.renumber (numberOf .func s) k) := by
  have hnil {u : Script} {x : SourceLine} (hx : ∀ n, ¬ x.Defines n) : definition u x = [] :=
    List.eq_nil_iff_forall_not_mem.mpr fun d hd ↦ hx d.name (defines_of_mem_definition hd)
  by_cases hl : ∃ n, l.Defines n
  · obtain ⟨n, hn⟩ := hl
    rw [definition_of_defines before hn, definition_of_defines _ (l := l.move k b) hn,
      numberOf_append_move]
    rfl
  · push Not at hl
    rw [hnil hl, hnil (x := l.move k b) hl, List.map_nil]

theorem lineOutput_append (o : Options) (hl : ∀ w, ¬ l.LacksOperand w)
    (he : l.keyword? = some .funcEnd → before.IsOpen)
    (hc : ∀ n arguments, l.Calls n arguments → ∀ x ∈ s, ¬ x.Defines n) :
    lineOutput o (s ++ before.move k b) (l.move k b) =
      (lineOutput o before l).map
        (OutputLine.renumber (numberOf .func s) (numberOf .callFunc s)) := by
  rcases l.reading_cases with h | ⟨w, h⟩ | ⟨n, h⟩ | ⟨v, h⟩ | h | ⟨n, arguments, h⟩
  · rw [lineOutput_of_plain o before h, lineOutput_of_plain o _ (l := l.move k b) h]
    rfl
  · exact absurd h (hl w)
  · rw [lineOutput_of_defines o before h, lineOutput_of_defines o _ (l := l.move k b) h,
      renumber_generated, renumber_openingCode, numberOf_append_move]
  · rw [lineOutput_of_returns o before h, lineOutput_of_returns o _ (l := l.move k b) h]
    rfl
  · have ho := he h
    unfold IsOpen at ho
    have hsub : numberOf .func before + numberOf .func s - 1 =
        numberOf .func before - 1 + numberOf .func s := by omega
    rw [lineOutput_of_closes o before h, lineOutput_of_closes o _ (l := l.move k b) h,
      renumber_generated, renumber_closingCode, numberOf_append_move, hsub]
  · rw [lineOutput_of_calls o before h, lineOutput_of_calls o _ (l := l.move k b) h,
      renumber_generated, renumber_callingCode, numberOf_append_move,
      position_append k b (hc n arguments h)]

/-- A script after another one is expanded as it is alone, but for the numbers. -/
theorem expansion_append (o : Options) (ht : WellFormed t)
    (hd : ∀ a ∈ s, ∀ c ∈ t, ∀ n, a.Defines n → ¬ c.Defines n) :
    (s ++ t.move k b).expansion o =
      { lines := (s.expansion o).lines ++
          (t.expansion o).lines.map (.renumber (numberOf .func s) (numberOf .callFunc s))
        functions := (s.expansion o).functions ++
          (t.expansion o).functions.map (.renumber (numberOf .func s) k)
        callSites := numberOf .callFunc s + numberOf .callFunc t
        trailingNewline := o.trailingNewline } := by
  have hlines : gather (lineOutput o) (s ++ t.move k b) = gather (lineOutput o) s ++
      (gather (lineOutput o) t).map (.renumber (numberOf .func s) (numberOf .callFunc s)) := by
    rw [gather_append, Script.move, gather_map, map_gather]
    congr 1
    apply gather_congr
    intro before l after he
    apply lineOutput_append k b o
    · apply ht.operands
      rw [he]
      simp
    · exact (ht.blocks.fits before l after he).2
    · intro n arguments hc x hx hn
      obtain ⟨d, hmem, hdn⟩ := ht.calls before l after n arguments he hc
      refine hd x hx d ?_ n hn hdn
      rw [he]
      exact List.mem_append_left _ hmem
  have hfunctions : gather definition (s ++ t.move k b) = gather definition s ++
      (gather definition t).map (.renumber (numberOf .func s) k) := by
    rw [gather_append, Script.move, gather_map, map_gather]
    congr 1
    apply gather_congr
    intro before l after _
    exact definition_append k b l
  rw [expansion, hlines, hfunctions, numberOf_append, numberOf_move]
  rfl

end Script

open Script Text

theorem placedLines_move (text : Text → Text) (k b number offset : Nat) (parts : List Text) :
    placedLines text (number + k) (offset + b) parts =
      Script.move k b (placedLines text number offset parts) := by
  induction parts generalizing number offset with
  | nil => rfl
  | cons part parts ih =>
    have hn : number + k + 1 = number + 1 + k := by omega
    have hs : offset + b + part.byteSize + 1 = offset + part.byteSize + 1 + b := by omega
    have hp : offset + b + (text part).byteSize = offset + (text part).byteSize + b := by omega
    rw [placedLines, placedLines, hn, hs, hp, ih]
    rfl

theorem sourceLines_append {u v : Text} (hu : u = [] ∨ u.getLast? = some '\n')
    (hsize : (u ++ v).byteSize ≤ maxOffset) :
    sourceLines (u ++ v) = sourceLines u ++
      Script.move (sourceLines u).length (unlines u.rawLines).byteSize (sourceLines v) := by
  have hb := byteSize_append u v
  rw [sourceLines_eq hsize, rawLines_append hu, placedLines_append, placedLines_move,
    ← sourceLines_eq (by omega), ← sourceLines_eq (by omega)]
  rw [sourceLines, length_numberLines]

theorem exists_function_of_defines {s : Script} {l : SourceLine} {n : Text} (h : l ∈ s)
    (hn : l.Defines n) : ∃ d ∈ gather definition s, d.name = n := by
  obtain ⟨before, after, rfl⟩ := List.append_of_mem h
  refine ⟨⟨n, numberOf .func before, l.number⟩, mem_gather.mpr ⟨before, l, after, rfl, ?_⟩, rfl⟩
  rw [definition_of_defines before hn]
  exact List.mem_singleton_self _

/-- The expansion of one source after another is that of the first, and then that of the second
with its numbers past those of the first. -/
theorem expandSource_append {o : Options} {a b u v : Text} {x y : Expansion}
    (hu : u = [] ∨ u.getLast? = some '\n') (hsize : (u ++ v).byteSize ≤ maxOffset)
    (hx : (expandSource o ⟨a, u⟩).result = .ok x) (hy : (expandSource o ⟨b, v⟩).result = .ok y)
    (hd : ∀ d ∈ x.functions, ∀ e ∈ y.functions, d.name ≠ e.name) (c : Text) :
    (expandSource o ⟨c, u ++ v⟩).result = .ok
      { lines := x.lines ++ y.lines.map (.renumber x.functions.length x.callSites)
        functions := x.functions ++
          y.functions.map (.renumber x.functions.length (sourceLines u).length)
        callSites := x.callSites + y.callSites
        trailingNewline := o.trailingNewline } := by
  obtain ⟨-, hs, hso, rfl, -⟩ := expand_eq_ok hx
  obtain ⟨-, ht, hto, rfl, -⟩ := expand_eq_ok hy
  have hsw := wellFormed_iff.mpr ⟨hs, hso⟩
  have htw := wellFormed_iff.mpr ⟨ht, hto⟩
  have hnames : ∀ l ∈ sourceLines u, ∀ m ∈ sourceLines v, ∀ n, l.Defines n → ¬ m.Defines n := by
    intro l hl m hm n hln hmn
    obtain ⟨d, hdx, hdn⟩ := exists_function_of_defines hl hln
    obtain ⟨e, hey, hen⟩ := exists_function_of_defines hm hmn
    exact hd d hdx e hey (hdn.trans hen.symm)
  have hmoved (k b : Nat) : ∀ l ∈ sourceLines u, ∀ m ∈ Script.move k b (sourceLines v), ∀ n,
      l.Defines n → ¬ m.Defines n := by
    intro l hl m hm
    obtain ⟨e, he, rfl⟩ := List.mem_map.mp hm
    exact hnames l hl e he
  have hlines := sourceLines_append hu hsize
  obtain ⟨hf, hfo⟩ := wellFormed_iff.mp (hsw.append (htw.move _ _) (hmoved _ _))
  have hr := hasNumbers_sourceLines hsize
  have hcount : (expansion o (sourceLines u)).functions.length = numberOf .func (sourceLines u) :=
    length_functions hs
  rw [expandSource, hlines]
  rw [hlines] at hr
  rw [expand_of_faultless o hsize hf hr hfo, expansion_append _ _ o htw hnames, hcount]
  rfl

theorem expandSource_append_labels :
    let o : Options := { markers := false }
    let u : Text := "FUNC A\r\nFUNCEND\nCALLFUNC A\n".toList
    let v : Text := "GOTO FUNC0\n FUNC B\nFUNCRTN FUNC0\nFUNCEND\nCALLFUNC B".toList
    let x := expansion o (sourceLines u)
    let y := expansion o (sourceLines v)
    (expandSource o ⟨[], u⟩).result = .ok x ∧ (expandSource o ⟨[], v⟩).result = .ok y ∧
      (expandSource o ⟨[], u ++ v⟩).result = .ok
        { lines := x.lines ++ y.lines.map (.renumber 1 1)
          functions := [⟨['A'], 0, 1⟩, ⟨['B'], 1, 5⟩]
          callSites := 2
          trailingNewline := true } := by
  intro o u v x y
  have hx : (expandSource o ⟨[], u⟩).result = .ok x := by decide +kernel
  have hy : (expandSource o ⟨[], v⟩).result = .ok y := by decide +kernel
  have hd : ∀ d ∈ x.functions, ∀ e ∈ y.functions, d.name ≠ e.name := by decide +kernel
  exact ⟨hx, hy, expandSource_append (.inr (by decide)) (by decide) hx hy hd []⟩

end LabelBasic
