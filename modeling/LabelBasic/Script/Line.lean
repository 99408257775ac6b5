import LabelBasic.Text.Blank
import LabelBasic.Script.Keyword

namespace LabelBasic

inductive Directive
  | opening (name : Text)
  | returning (value : Text)
  | closing
  | calling (name : Text) (arguments : List Text)
deriving DecidableEq, Repr

namespace Directive

def keyword : Directive → Keyword
  | opening _ => .func
  | returning _ => .funcRtn
  | closing => .funcEnd
  | calling _ _ => .callFunc

end Directive

inductive Line
  | blank
  | comment (text : Text)
  | directive (d : Directive)
  | other (text : Text)
deriving DecidableEq, Repr

structure MissingOperand where
  keyword : Keyword
  expected : Text
deriving DecidableEq, Repr

namespace Directive

def functionName : Text := "a function name".toList

def returnValue : Text := "a return value".toList

def ofWords : Keyword → List Text → Except MissingOperand Directive
  | .func, [] => .error ⟨.func, functionName⟩
  | .func, name :: _ => .ok (opening name)
  | .funcRtn, [] => .error ⟨.funcRtn, returnValue⟩
  | .funcRtn, value :: _ => .ok (returning value)
  | .funcEnd, _ => .ok closing
  | .callFunc, [] => .error ⟨.callFunc, functionName⟩
  | .callFunc, name :: arguments => .ok (calling name arguments)

theorem keyword_of_ofWords {k : Keyword} {ws : List Text} {d : Directive}
    (h : ofWords k ws = .ok d) : d.keyword = k := by
  cases k <;> cases ws <;> simp only [ofWords, reduceCtorEq, Except.ok.injEq] at h <;>
    subst h <;> rfl

end Directive

namespace Line

/-- Tells what a line is. The text is taken as it stands: a comment starts at its first
character, and line breaks inside it are blank characters. -/
def classify (t : Text) : Except MissingOperand Line :=
  if t.head? = some '#' then .ok (comment t)
  else match t.words with
    | [] => .ok blank
    | w :: ws => match Keyword.ofWord? w with
      | none => .ok (other t)
      | some k => (Directive.ofWords k ws).map directive

end Line

end LabelBasic
