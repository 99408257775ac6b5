import LabelBasic.Expansion.Scan
import LabelBasic.Proofs.Text.Words

namespace LabelBasic

def Keyword.expected : Keyword → Text
  | .funcRtn => Directive.returnValue
  | _ => Directive.functionName

namespace SourceLine

def keyword? (l : SourceLine) : Option Keyword := l.text.words.head?.bind Keyword.ofWord?

def operands (l : SourceLine) : List Text := l.text.words.tail

def Defines (l : SourceLine) (name : Text) : Prop :=
  l.keyword? = some .func ∧ l.operands.head? = some name

def Returns (l : SourceLine) (value : Text) : Prop :=
  l.keyword? = some .funcRtn ∧ l.operands.head? = some value

def Calls (l : SourceLine) (name : Text) (arguments : List Text) : Prop :=
  l.keyword? = some .callFunc ∧ l.operands = name :: arguments

/-- The line has nothing after a keyword that needs an operand. -/
def LacksOperand (l : SourceLine) (k : Keyword) : Prop :=
  l.keyword? = some k ∧ k ≠ .funcEnd ∧ l.operands = []

/-- The line neither starts nor ends a function body. -/
def IsInner (l : SourceLine) : Prop := l.keyword? ≠ some .func ∧ l.keyword? ≠ some .funcEnd

instance (l : SourceLine) (name : Text) : Decidable (l.Defines name) :=
  inferInstanceAs (Decidable (_ ∧ _))

variable {l : SourceLine}

theorem Defines.unique {m n : Text} (hm : l.Defines m) (hn : l.Defines n) : m = n :=
  Option.some.inj (hm.2.symm.trans hn.2)

theorem Defines.operands {n : Text} (h : l.Defines n) : ∃ ws, l.operands = n :: ws := by
  obtain ⟨ws, hw⟩ := List.head?_eq_some_iff.mp h.2
  exact ⟨ws, hw⟩

theorem Returns.operands {v : Text} (h : l.Returns v) : ∃ ws, l.operands = v :: ws := by
  obtain ⟨ws, hw⟩ := List.head?_eq_some_iff.mp h.2
  exact ⟨ws, hw⟩

theorem reading_cases (l : SourceLine) :
    l.keyword? = none ∨ (∃ k, l.LacksOperand k) ∨ (∃ n, l.Defines n) ∨ (∃ v, l.Returns v) ∨
      l.keyword? = some .funcEnd ∨ ∃ n arguments, l.Calls n arguments := by
  cases hk : l.keyword? with
  | none => exact .inl rfl
  | some k =>
    refine .inr ?_
    by_cases he : k = .funcEnd
    · exact .inr (.inr (.inr (.inl (he ▸ rfl))))
    cases ho : l.operands with
    | nil => exact .inl ⟨k, hk, he, ho⟩
    | cons w ws =>
      cases k with
      | func => exact .inr (.inl ⟨w, hk, by rw [ho]; rfl⟩)
      | funcRtn => exact .inr (.inr (.inl ⟨w, hk, by rw [ho]; rfl⟩))
      | funcEnd => exact absurd rfl he
      | callFunc => exact .inr (.inr (.inr (.inr ⟨w, ws, hk, ho⟩)))

theorem not_keyword_of_numberSign {t w : Text} {ws : List Text} (ht : t.head? = some '#')
    (hw : t.words = w :: ws) : Keyword.ofWord? w = none := by
  obtain ⟨u, rfl⟩ := List.head?_eq_some_iff.mp ht
  obtain ⟨v, vs, hv⟩ := Text.words_cons_of_not_blank (c := '#') (by decide) u
  obtain ⟨rfl, -⟩ := List.cons.inj (hw.symm.trans hv)
  refine Option.eq_none_iff_forall_not_mem.mpr fun k hk ↦ ?_
  have hs := congrArg List.head? (Keyword.ofWord?_eq_some_iff.mp hk)
  rw [List.head?_cons] at hs
  cases k <;> exact absurd hs (by decide)

theorem words_of_keyword {k : Keyword} (h : l.keyword? = some k) :
    l.text.words = k.spelling :: l.operands := by
  obtain ⟨w, hw, hk⟩ := Option.bind_eq_some_iff.mp h
  obtain ⟨ws, hws⟩ := List.head?_eq_some_iff.mp hw
  rw [operands, hws, Keyword.ofWord?_eq_some_iff.mp hk]
  rfl

end SourceLine

theorem Line.classify_of_words {t : Text} {k : Keyword} {ws : List Text}
    (h : t.words = k.spelling :: ws) :
    classify t = (Directive.ofWords k ws).map directive := by
  have hk : Keyword.ofWord? k.spelling = some k := Keyword.ofWord?_eq_some_iff.mpr rfl
  have hs : t.head? ≠ some '#' := by
    intro hs
    rw [SourceLine.not_keyword_of_numberSign hs h] at hk
    cases hk
  simp only [classify, if_neg hs, h, hk]

namespace Scan

variable (o : Options) (s : Scan) {l : SourceLine}

@[simp] theorem words_lineText (l : SourceLine) : (lineText o l).words = l.text.words := by
  unfold lineText
  split
  · exact Text.words_trim l.text
  · rfl

theorem classify_of_keyword {k : Keyword} (h : l.keyword? = some k) :
    Line.classify (lineText o l) = (Directive.ofWords k l.operands).map Line.directive :=
  Line.classify_of_words ((words_lineText o l).trans (SourceLine.words_of_keyword h))

theorem step_of_plain (h : l.keyword? = none) :
    s.step o l = (s, .ok { lines := [.copied (lineText o l)] }) := by
  have hc : ∃ x, Line.classify (lineText o l) = .ok x ∧ ∀ d, x ≠ .directive d := by
    unfold Line.classify
    split
    · exact ⟨_, rfl, nofun⟩
    · rw [words_lineText]
      cases hw : l.text.words with
      | nil => exact ⟨_, rfl, nofun⟩
      | cons w ws =>
        have hk : Keyword.ofWord? w = none := by simpa [SourceLine.keyword?, hw] using h
        simp only [hk]
        exact ⟨_, rfl, nofun⟩
  obtain ⟨x, hx, hd⟩ := hc
  unfold step
  cases x with
  | directive d => exact absurd rfl (hd d)
  | blank | comment t | other t => rw [hx]

theorem step_of_lacksOperand {k : Keyword} (h : l.LacksOperand k) :
    s.step o l = (s, .error (.missingOperand ⟨k, k.expected⟩)) := by
  obtain ⟨hk, he, ho⟩ := h
  rw [step, classify_of_keyword o hk, ho]
  cases k with
  | funcEnd => exact absurd rfl he
  | func | funcRtn | callFunc => rfl

theorem step_of_defines {n : Text} (h : l.Defines n) :
    s.step o l = s.openFunction o n l.site := by
  obtain ⟨ws, hw⟩ := h.operands
  rw [step, classify_of_keyword o h.1, hw]
  rfl

theorem step_of_returns {v : Text} (h : l.Returns v) :
    s.step o l = (s, .ok (.ofCode (returningCode v) [])) := by
  obtain ⟨ws, hw⟩ := h.operands
  rw [step, classify_of_keyword o h.1, hw]
  rfl

theorem step_of_closes (h : l.keyword? = some .funcEnd) :
    s.step o l = s.closeFunction o l.site := by
  rw [step, classify_of_keyword o h]
  rfl

theorem step_of_calls {n : Text} {arguments : List Text} (h : l.Calls n arguments) :
    s.step o l = s.callFunction o n arguments l.site := by
  rw [step, classify_of_keyword o h.1, h.2]
  rfl

end Scan

end LabelBasic
