import Mathlib.Computability.StateTransition
import LabelBasic.Expansion.Expander
import LabelBasic.Proofs.Spelling

namespace LabelBasic.Machine

open StateTransition

/-- What the machine makes of a line. -/
inductive Command
  | nothing
  | label (x : Text)
  | store (x : Text)
  | jump (x : Text)
  | jumpBack
  /-- Does something that leaves the slot and the flow alone. -/
  | perform (line : Text)
deriving DecidableEq, Repr

def Command.ofText (t : Text) : Command :=
  if t.head? = some '#' then .nothing
  else match t.words with
    | [] => .nothing
    | [w, x] =>
      if w = "LBL".toList then .label x
      else if w = "GOTO".toList then
        if x = '$' :: Variable.returnAddress.spelling then .jumpBack else .jump x
      else .perform t
    | [w, y, x] =>
      if w = "SETVAL".toList ∧ y = Variable.returnAddress.spelling then .store x else .perform t
    | _ => .perform t

abbrev Program := List Command

/-- The program that an expansion stands for. -/
def load (x : Expansion) : Program := x.texts.map Command.ofText

structure State where
  /-- The commands from the current one on. -/
  rest : Program
  slot : Text
  trace : List Text := []
deriving DecidableEq, Repr

def find? (p : Program) (x : Text) : Option Program :=
  match p.dropWhile (· ≠ .label x) with
  | [] => none
  | rest => some rest

/-- The next state, unless the program is at its end or jumps to a label that it does not have. -/
def step (p : Program) (s : State) : Option State :=
  match s.rest with
  | [] => none
  | .nothing :: rest | .label _ :: rest => some { s with rest := rest }
  | .store x :: rest => some { s with rest := rest, slot := x }
  | .jump x :: _ => (find? p x).map fun rest ↦ { s with rest := rest }
  | .jumpBack :: _ => (find? p s.slot).map fun rest ↦ { s with rest := rest }
  | .perform line :: rest => some { s with rest := rest, trace := s.trace ++ [line] }

/-- Started at its first line, whatever is in the slot, the program comes to its end and has done
the lines of the trace. -/
def Performs (p : Program) (trace : List Text) : Prop :=
  ∀ slot, ∃ slot', (⟨[], slot', trace⟩ : State) ∈ eval (step p) ⟨p, slot, []⟩

/-- The words neither define a label nor jump, and they leave the slot alone. -/
structure Harmless (ws : List Text) : Prop where
  label : ws.head? ≠ some "LBL".toList
  goto : ws.head? ≠ some "GOTO".toList
  slot : ¬ ["SETVAL".toList, Variable.returnAddress.spelling] <+: ws

instance (ws : List Text) : Decidable (Harmless ws) :=
  decidable_of_iff (ws.head? ≠ some "LBL".toList ∧ ws.head? ≠ some "GOTO".toList ∧
    ¬ ["SETVAL".toList, Variable.returnAddress.spelling] <+: ws)
    ⟨fun ⟨hl, hg, hs⟩ ↦ ⟨hl, hg, hs⟩, fun ⟨hl, hg, hs⟩ ↦ ⟨hl, hg, hs⟩⟩

/-- What a line of the script does, which is nothing if it is blank or a comment. -/
def visible (t : Text) : List Text := if t.head? = some '#' ∨ t.words = [] then [] else [t]

section Reading

open Text Command

theorem ofText_of_harmless {t : Text} (h : Harmless t.words) :
    ofText t = .nothing ∧ visible t = [] ∨ ofText t = .perform t ∧ visible t = [t] := by
  by_cases hc : t.head? = some '#'
  · exact .inl ⟨if_pos hc, if_pos (.inl hc)⟩
  by_cases hb : t.words = []
  · refine .inl ⟨?_, if_pos (.inr hb)⟩
    rw [ofText, if_neg hc, hb]
  refine .inr ⟨?_, if_neg (by simp [hc, hb])⟩
  obtain ⟨hl, hg, hs⟩ := h
  rw [ofText, if_neg hc]
  split
  · exact absurd ‹_› hb
  · rename_i w x hw
    rw [hw] at hl hg
    rw [if_neg fun h ↦ hl (congrArg some h), if_neg fun h ↦ hg (congrArg some h)]
  · rename_i w y x hw
    rw [if_neg]
    rintro ⟨rfl, rfl⟩
    exact hs (hw ▸ ⟨[x], rfl⟩)
  · rfl

theorem words_label (a : Label) :
    words (Instruction.label a).render = ["LBL".toList, a.spelling] := by
  have hr : (Instruction.label a).render = "LBL".toList ++ ' ' :: a.spelling := by
    change "LBL ".toList ++ a.spelling = _
    simp
  rw [hr, words_append_space (by decide), words_of_isWord a.isWord_spelling]

theorem words_goto (a : Label) :
    words (Instruction.goto a).render = ["GOTO".toList, a.spelling] := by
  have hr : (Instruction.goto a).render = "GOTO".toList ++ ' ' :: a.spelling := by
    change "GOTO ".toList ++ a.spelling = _
    simp
  rw [hr, words_append_space (by decide), words_of_isWord a.isWord_spelling]

theorem words_setVal (x : Variable) (v : Operand) :
    words (Instruction.setVal x v).render = "SETVAL".toList :: x.spelling :: words v.spelling := by
  rw [Instruction.render_setVal, words_append_space (by decide),
    words_append_space x.isWord_spelling]

theorem ofText_label (a : Label) :
    ofText (Instruction.label a).render = .label a.spelling := by
  have hc : (Instruction.label a).render.head? ≠ some '#' := nofun
  rw [ofText, if_neg hc, words_label]
  exact if_pos rfl

theorem ofText_goto (a : Label) : ofText (Instruction.goto a).render = .jump a.spelling := by
  have hc : (Instruction.goto a).render.head? ≠ some '#' := nofun
  have ha : a.spelling ≠ '$' :: Variable.returnAddress.spelling := by
    cases a <;> nofun
  rw [ofText, if_neg hc, words_goto]
  exact if_neg ha

theorem ofText_gotoIndirect :
    ofText (Instruction.gotoIndirect .returnAddress).render = .jumpBack := by
  decide

theorem ofText_store (a : Label) :
    ofText (Instruction.setVal .returnAddress (.label a)).render = .store a.spelling := by
  have hc : (Instruction.setVal .returnAddress (.label a)).render.head? ≠ some '#' := nofun
  have hw := words_setVal .returnAddress (.label a)
  rw [Operand.spelling, words_of_isWord a.isWord_spelling] at hw
  rw [ofText, if_neg hc, hw]
  exact if_pos ⟨rfl, rfl⟩

theorem ofText_setVal {x : Variable} (hx : x ≠ .returnAddress) (v : Operand) :
    ofText (Instruction.setVal x v).render = .perform (Instruction.setVal x v).render := by
  have hc : (Instruction.setVal x v).render.head? ≠ some '#' := nofun
  have hw := words_setVal x v
  have hh : Harmless (words (Instruction.setVal x v).render) := by
    rw [hw]
    refine ⟨nofun, nofun, fun h ↦ hx ?_⟩
    rw [List.cons_prefix_cons, List.cons_prefix_cons] at h
    exact (Variable.spelling_inj.mp h.2.1).symm
  rcases ofText_of_harmless hh with ⟨-, h⟩ | ⟨h, -⟩
  · rw [visible, if_neg (by simp [hc, hw])] at h
    cases h
  · exact h

theorem ofText_returnValue (t : Text) :
    ofText (Instruction.setVal .returnValue (.text t)).render =
      .perform ("SETVAL FUNCRTN ".toList ++ t) := by
  have hr : (Instruction.setVal .returnValue (.text t)).render =
      "SETVAL FUNCRTN ".toList ++ t := by
    change "SETVAL ".toList ++ "FUNCRTN".toList ++ ' ' :: t = _
    simp
  have hx : Variable.returnValue ≠ .returnAddress := nofun
  rw [ofText_setVal hx, hr]

theorem ofText_parameter (k : Nat) (t : Text) :
    ofText (Instruction.setVal (.parameter k) (.text t)).render =
      .perform ("SETVAL FUNCPARAM".toList ++ decimal k ++ ' ' :: t) := by
  have hr : (Instruction.setVal (.parameter k) (.text t)).render =
      "SETVAL FUNCPARAM".toList ++ decimal k ++ ' ' :: t := by
    change "SETVAL ".toList ++ ("FUNCPARAM".toList ++ decimal k) ++ ' ' :: t = _
    simp
  have hx : Variable.parameter k ≠ .returnAddress := nofun
  rw [ofText_setVal hx, hr]

end Reading

section Stepping

variable {p rest : Program} {slot : Text} {trace : List Text}

def Command.label? : Command → Option Text
  | label x => some x
  | _ => none

theorem find?_append {x : Text} {before : Program} (h : .label x ∉ before) (after : Program) :
    find? (before ++ .label x :: after) x = some (.label x :: after) := by
  have hp : ∀ c ∈ before, decide (c ≠ .label x) = true := by
    intro c hc
    rw [decide_eq_true_eq]
    rintro rfl
    exact h hc
  rw [find?, List.dropWhile_append_of_pos hp, List.dropWhile_cons_of_neg (by simp)]

theorem find?_of_nodup {x : Text} {before after : Program} (hp : p = before ++ .label x :: after)
    (hn : (p.filterMap Command.label?).Nodup) : find? p x = some (.label x :: after) := by
  subst hp
  apply find?_append
  intro h
  rw [List.filterMap_append, List.nodup_append] at hn
  have hb : x ∈ before.filterMap Command.label? := List.mem_filterMap.mpr ⟨_, h, rfl⟩
  exact hn.2.2 x hb x List.mem_cons_self rfl

theorem reaches_idle {idle : Program} (h : ∀ c ∈ idle, c = .nothing) :
    Reaches (step p) ⟨idle ++ rest, slot, trace⟩ ⟨rest, slot, trace⟩ := by
  induction idle with
  | nil => exact .refl
  | cons c idle ih =>
    obtain rfl := h c List.mem_cons_self
    exact .head rfl (ih fun d hd ↦ h d (List.mem_cons_of_mem _ hd))

theorem reaches_perform (lines : List Text) :
    Reaches (step p) ⟨lines.map .perform ++ rest, slot, trace⟩ ⟨rest, slot, trace ++ lines⟩ := by
  induction lines generalizing trace with
  | nil =>
    rw [List.append_nil]
    exact .refl
  | cons line lines ih =>
    have hl : trace ++ line :: lines = trace ++ [line] ++ lines := by simp
    rw [hl]
    exact .head rfl ih

theorem reaches_visible {t : Text} (h : Harmless t.words) :
    Reaches (step p) ⟨.ofText t :: rest, slot, trace⟩ ⟨rest, slot, trace ++ visible t⟩ := by
  rcases ofText_of_harmless h with ⟨hc, hv⟩ | ⟨hc, hv⟩
  · rw [hc, hv, List.append_nil]
    exact .single rfl
  · rw [hc, hv]
    exact .single rfl

theorem reaches_jump {x : Text} {target : Program} (h : find? p x = some target) :
    Reaches (step p) ⟨.jump x :: rest, slot, trace⟩ ⟨target, slot, trace⟩ := by
  apply Relation.ReflTransGen.single
  simp [step, h]

theorem reaches_jumpBack {target : Program} (h : find? p slot = some target) :
    Reaches (step p) ⟨.jumpBack :: rest, slot, trace⟩ ⟨target, slot, trace⟩ := by
  apply Relation.ReflTransGen.single
  simp [step, h]

end Stepping

end LabelBasic.Machine
