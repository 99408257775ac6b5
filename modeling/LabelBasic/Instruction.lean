import LabelBasic.Text.Basic

namespace LabelBasic

inductive Label
  | entry (id : Nat)
  | skip (id : Nat)
  | resume (id : Nat)
deriving DecidableEq, Repr

def Label.spelling : Label → Text
  | entry id => "FUNC".toList ++ Text.decimal id
  | skip id => "SKIPFUNC".toList ++ Text.decimal id
  | resume id => "FUNCRTNGOTO".toList ++ Text.decimal id

inductive Variable
  | returnAddress
  | returnValue
  | parameter (index : Nat)
deriving DecidableEq, Repr

def Variable.spelling : Variable → Text
  | returnAddress => "FUNCRTNGOTO".toList
  | returnValue => "FUNCRTN".toList
  | parameter index => "FUNCPARAM".toList ++ Text.decimal index

inductive Operand
  | text (t : Text)
  | label (l : Label)
deriving DecidableEq, Repr

def Operand.spelling : Operand → Text
  | text t => t
  | label l => l.spelling

inductive Instruction
  | beginMarker (name : Text)
  | endMarker
  | goto (target : Label)
  | gotoIndirect (x : Variable)
  | label (l : Label)
  | setVal (x : Variable) (value : Operand)
deriving DecidableEq, Repr

def Instruction.render : Instruction → Text
  | beginMarker name => "# FUNC ".toList ++ name
  | endMarker => "# FUNCEND".toList
  | goto target => "GOTO ".toList ++ target.spelling
  | gotoIndirect x => "GOTO $".toList ++ x.spelling
  | label l => "LBL ".toList ++ l.spelling
  | setVal x value => "SETVAL ".toList ++ x.spelling ++ ' ' :: value.spelling

/-- A line of the output, which is either a line of the script or an instruction that one of its
directives became. -/
inductive OutputLine
  | copied (text : Text)
  | generated (instruction : Instruction)
deriving DecidableEq, Repr

def OutputLine.text : OutputLine → Text
  | copied t => t
  | generated i => i.render

def definedLabel? (line : Text) : Option Text := line.after? "LBL ".toList

end LabelBasic
