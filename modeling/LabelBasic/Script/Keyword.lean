import LabelBasic.Text.Basic

namespace LabelBasic

inductive Keyword
  | func
  | funcRtn
  | funcEnd
  | callFunc
deriving DecidableEq, Repr

namespace Keyword

def all : List Keyword := [func, funcRtn, funcEnd, callFunc]

def spelling : Keyword → Text
  | func => "FUNC".toList
  | funcRtn => "FUNCRTN".toList
  | funcEnd => "FUNCEND".toList
  | callFunc => "CALLFUNC".toList

theorem spelling_inj {j k : Keyword} : j.spelling = k.spelling ↔ j = k := by
  cases j <;> cases k <;> decide

def ofWord? (w : Text) : Option Keyword := all.find? fun k ↦ k.spelling == w

theorem ofWord?_eq_some_iff {w : Text} {k : Keyword} : ofWord? w = some k ↔ w = k.spelling := by
  constructor
  · intro h
    exact (eq_of_beq (List.find?_some (p := fun j : Keyword ↦ j.spelling == w) h)).symm
  · rintro rfl
    cases k <;> decide

end Keyword

end LabelBasic
