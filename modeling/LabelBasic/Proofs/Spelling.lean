import LabelBasic.Instruction
import LabelBasic.Proofs.Text.Words

namespace LabelBasic

namespace Text

def stem (t : Text) : Text := t.takeWhile (!·.isDigit)

theorem stem_append_decimal {s : Text} (hs : s.all (!·.isDigit) = true) (n : Nat) :
    stem (s ++ decimal n) = s := by
  obtain ⟨d, ds, hn⟩ : ∃ d ds, decimal n = d :: ds :=
    List.exists_cons_of_ne_nil Nat.toDigits_ne_nil
  have hd : d.isDigit = true :=
    Nat.isDigit_of_mem_toDigits (by decide) (by decide) (hn ▸ List.mem_cons_self)
  rw [stem, List.takeWhile_append_of_pos (List.all_eq_true.mp hs), hn,
    List.takeWhile_cons_of_neg (by simp [hd]), List.append_nil]

theorem isWord_append_decimal {s : Text} (hs : IsWord s) (n : Nat) : IsWord (s ++ decimal n) :=
  hs.append fun _ hc ↦ isBlank_of_mem_decimal hc

end Text

def Label.stem : Label → Text
  | entry _ => "FUNC".toList
  | skip _ => "SKIPFUNC".toList
  | resume _ => "FUNCRTNGOTO".toList

def Variable.stem : Variable → Text
  | returnAddress => "FUNCRTNGOTO".toList
  | returnValue => "FUNCRTN".toList
  | parameter _ => "FUNCPARAM".toList

theorem Label.stem_spelling (l : Label) : l.spelling.stem = l.stem := by
  cases l <;> exact Text.stem_append_decimal (by decide) _

theorem Variable.stem_spelling (x : Variable) : x.spelling.stem = x.stem := by
  cases x with
  | returnAddress => rfl
  | returnValue => rfl
  | parameter index => exact Text.stem_append_decimal (by decide) index

theorem Label.spelling_inj {a b : Label} : a.spelling = b.spelling ↔ a = b := by
  refine ⟨fun h ↦ ?_, fun h ↦ h ▸ rfl⟩
  have hs : a.stem = b.stem := by rw [← a.stem_spelling, h, b.stem_spelling]
  cases a <;> cases b
  case entry.entry i j => rw [Text.decimal_inj.mp (List.append_cancel_left h)]
  case skip.skip i j => rw [Text.decimal_inj.mp (List.append_cancel_left h)]
  case resume.resume i j => rw [Text.decimal_inj.mp (List.append_cancel_left h)]
  all_goals
    dsimp only [stem] at hs
    exact absurd hs (by decide)

theorem Variable.spelling_inj {x y : Variable} : x.spelling = y.spelling ↔ x = y := by
  refine ⟨fun h ↦ ?_, fun h ↦ h ▸ rfl⟩
  have hs : x.stem = y.stem := by rw [← x.stem_spelling, h, y.stem_spelling]
  cases x <;> cases y
  case returnAddress.returnAddress => rfl
  case returnValue.returnValue => rfl
  case parameter.parameter i j => rw [Text.decimal_inj.mp (List.append_cancel_left h)]
  all_goals
    dsimp only [stem] at hs
    exact absurd hs (by decide)

theorem Label.spelling_ne_variable (l : Label) (x : Variable) : l.spelling ≠ x.spelling := by
  intro h
  have hs : l.stem = x.stem := by rw [← l.stem_spelling, h, x.stem_spelling]
  cases l <;> cases x
  case resume.returnAddress j => exact Nat.toDigits_ne_nil (List.append_right_eq_self.mp h)
  all_goals
    dsimp only [stem, Variable.stem] at hs
    exact absurd hs (by decide)

theorem Label.isWord_spelling (l : Label) : Text.IsWord l.spelling := by
  cases l <;> exact Text.isWord_append_decimal (by decide) _

theorem Variable.isWord_spelling (x : Variable) : Text.IsWord x.spelling := by
  cases x with
  | returnAddress => decide
  | returnValue => decide
  | parameter index => exact Text.isWord_append_decimal (by decide) index

/-- The first operand is a text, and it spells the label that the second one is. -/
inductive Operand.SpellsOut : Operand → Operand → Prop
  | label (l : Label) : SpellsOut (.text l.spelling) (.label l)

theorem Operand.SpellsOut.spelling_eq {v w : Operand} (h : v.SpellsOut w) :
    v.spelling = w.spelling := by
  cases h with
  | label l => rfl

theorem Operand.eq_or_spellsOut {v w : Operand} (h : v.spelling = w.spelling) :
    v = w ∨ v.SpellsOut w ∨ w.SpellsOut v := by
  cases v <;> cases w
  case text.text t u =>
    obtain rfl : t = u := h
    exact .inl rfl
  case text.label t l =>
    obtain rfl : t = l.spelling := h
    exact .inr (.inl (.label l))
  case label.text l t =>
    obtain rfl : l.spelling = t := h
    exact .inr (.inr (.label l))
  case label.label l k =>
    obtain rfl : l = k := Label.spelling_inj.mp h
    exact .inl rfl

namespace Instruction

theorem render_setVal (x : Variable) (v : Operand) :
    (setVal x v).render = "SETVAL".toList ++ ' ' :: (x.spelling ++ ' ' :: v.spelling) := by
  change "SETVAL ".toList ++ x.spelling ++ ' ' :: v.spelling = _
  simp

theorem render_setVal_inj {x y : Variable} {v w : Operand} :
    (setVal x v).render = (setVal y w).render ↔ x = y ∧ v.spelling = w.spelling := by
  rw [render_setVal, render_setVal, List.append_right_inj, List.cons_inj_right,
    Text.append_space_inj x.isWord_spelling y.isWord_spelling, Variable.spelling_inj]

theorem render_beginMarker_ne (name : Text) : (beginMarker name).render ≠ endMarker.render := by
  intro h
  change "# FUNC".toList ++ ' ' :: name = "# FUNC".toList ++ "END".toList at h
  exact absurd (List.cons.inj (List.append_cancel_left h)).1 (by decide)

theorem render_goto_ne (l : Label) (x : Variable) : (goto l).render ≠ (gotoIndirect x).render := by
  intro h
  change "GOTO ".toList ++ l.spelling = "GOTO ".toList ++ '$' :: x.spelling at h
  have hl : l.spelling = '$' :: x.spelling := List.append_cancel_left h
  cases l <;> exact absurd (List.cons.inj hl).1 (by decide)

/-- Both assign to one variable, and the operand of the first spells out that of the second. -/
inductive SpellsOut : Instruction → Instruction → Prop
  | setVal (x : Variable) {v w : Operand} (h : v.SpellsOut w) : SpellsOut (setVal x v) (setVal x w)

theorem SpellsOut.render_eq {a b : Instruction} (h : a.SpellsOut b) : a.render = b.render := by
  cases h with
  | setVal x h => exact render_setVal_inj.mpr ⟨rfl, h.spelling_eq⟩

/-- A written instruction determines the instruction, but for an operand that may be a label or the
text that spells it; and labels and variables are told apart by their spellings. -/
theorem render_unambiguous :
    (∀ a b : Instruction, a.render = b.render ↔ a = b ∨ a.SpellsOut b ∨ b.SpellsOut a) ∧
      Function.Injective Label.spelling ∧ Function.Injective Variable.spelling ∧
      ∀ (l : Label) (x : Variable), l.spelling ≠ x.spelling := by
  refine ⟨fun a b ↦ ⟨fun h ↦ ?_, fun h ↦ ?_⟩, fun _ _ ↦ Label.spelling_inj.mp,
    fun _ _ ↦ Variable.spelling_inj.mp, Label.spelling_ne_variable⟩
  · cases a <;> cases b
    case beginMarker.beginMarker name name' =>
      exact .inl (congrArg beginMarker (List.append_cancel_left h))
    case beginMarker.endMarker name => exact absurd h (render_beginMarker_ne name)
    case endMarker.beginMarker name => exact absurd h.symm (render_beginMarker_ne name)
    case endMarker.endMarker => exact .inl rfl
    case goto.goto l k =>
      exact .inl (congrArg goto (Label.spelling_inj.mp (List.append_cancel_left h)))
    case goto.gotoIndirect l x => exact absurd h (render_goto_ne l x)
    case gotoIndirect.goto x l => exact absurd h.symm (render_goto_ne l x)
    case gotoIndirect.gotoIndirect x y =>
      exact .inl (congrArg gotoIndirect (Variable.spelling_inj.mp (List.append_cancel_left h)))
    case label.label l k =>
      exact .inl (congrArg label (Label.spelling_inj.mp (List.append_cancel_left h)))
    case setVal.setVal x v y w =>
      obtain ⟨rfl, hvw⟩ := render_setVal_inj.mp h
      rcases Operand.eq_or_spellsOut hvw with rfl | hs | hs
      · exact .inl rfl
      · exact .inr (.inl (.setVal x hs))
      · exact .inr (.inr (.setVal x hs))
    all_goals exact absurd (List.cons.inj h).1 (by decide)
  · rcases h with rfl | hs | hs
    · rfl
    · exact hs.render_eq
    · exact hs.render_eq.symm

end Instruction

def Instruction.label? : Instruction → Option Label
  | label l => some l
  | _ => none

namespace OutputLine

def label? : OutputLine → Option Label
  | generated i => i.label?
  | copied _ => none

/-- A line of the script that is copied and defines no label. -/
def IsSilent : OutputLine → Prop
  | copied t => ¬ "LBL ".toList <+: t
  | generated _ => True

theorem definedLabel?_eq_some_iff {t u : Text} :
    definedLabel? t = some u ↔ t = "LBL ".toList ++ u := Text.after?_eq_some_iff

theorem definedLabel?_text {x : OutputLine} (hx : x.IsSilent) :
    definedLabel? x.text = x.label?.map Label.spelling := by
  cases x with
  | copied t =>
    refine Option.eq_none_iff_forall_not_mem.mpr fun u hu ↦ hx ?_
    exact ⟨u, (definedLabel?_eq_some_iff.mp hu).symm⟩
  | generated i =>
    cases i with
    | label l => exact definedLabel?_eq_some_iff.mpr rfl
    | beginMarker | endMarker | goto | gotoIndirect | setVal => rfl

end OutputLine

end LabelBasic
