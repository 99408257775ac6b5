import LabelBasic.Source.Line
import LabelBasic.Script.Line

namespace LabelBasic

inductive Fault
  | nestedFunction (name outer : Text) (outerLine : Nat)
  | duplicateFunction (name : Text) (firstLine : Nat)
  | unmatchedEnd
  | undefinedFunction (name : Text)
  | unterminatedFunction (name : Text)
  | missingOperand (missing : MissingOperand)
  | labelOverflow (counter : Text)
deriving DecidableEq, Repr

namespace Fault

def message : Fault → Text
  | nestedFunction name outer _ =>
    "nested function definitions: FUNC ".toList ++ name ++ " inside FUNC ".toList ++ outer
  | duplicateFunction name _ =>
    "duplicate function: `".toList ++ name ++ "` is already defined".toList
  | unmatchedEnd => "FUNCEND without a matching FUNC".toList
  | undefinedFunction name => "call to undefined function `".toList ++ name ++ "`".toList
  | unterminatedFunction name => "function `".toList ++ name ++ "` is never closed".toList
  | missingOperand missing =>
    missing.keyword.spelling ++ " expects ".toList ++ missing.expected
  | labelOverflow counter =>
    "too many ".toList ++ counter ++ "s: generated label numbers would repeat".toList

def code : Fault → Text
  | nestedFunction .. => "lbx::nested_function".toList
  | duplicateFunction .. => "lbx::duplicate_function".toList
  | unmatchedEnd => "lbx::unmatched_funcend".toList
  | undefinedFunction _ => "lbx::undefined_function".toList
  | unterminatedFunction _ => "lbx::unterminated_function".toList
  | missingOperand _ => "lbx::missing_operand".toList
  | labelOverflow _ => "lbx::label_overflow".toList

def help : Fault → Option Text
  | nestedFunction name outer outerLine => some <|
    "close `".toList ++ outer ++ "` (opened on line ".toList ++ Text.decimal outerLine ++
      ") with FUNCEND before starting `".toList ++ name ++ "`".toList
  | duplicateFunction name firstLine => some <|
    "`".toList ++ name ++ "` was first defined on line ".toList ++ Text.decimal firstLine ++
      "; function names must be unique".toList
  | undefinedFunction _ => some
    "functions must be defined with FUNC before the first CALLFUNC that uses them".toList
  | unterminatedFunction name => some <|
    "add FUNCEND after the body of `".toList ++ name ++ "`".toList
  | unmatchedEnd | missingOperand _ | labelOverflow _ => none

def label : Fault → Text
  | nestedFunction .. => "function bodies cannot nest".toList
  | duplicateFunction .. => "redefined here".toList
  | unmatchedEnd => "no function body is open here".toList
  | undefinedFunction name => "`".toList ++ name ++ "` is not defined at this point".toList
  | unterminatedFunction _ => "opened here".toList
  | missingOperand missing => "missing ".toList ++ missing.expected
  | labelOverflow counter => "no label number left for this ".toList ++ counter

end Fault

structure Failure where
  fault : Fault
  site : Site
deriving DecidableEq, Repr

/-- A text with the name it is reported under. -/
structure Source where
  name : Text
  text : Text
deriving DecidableEq, Repr

def Source.detached : Source := ⟨"<input>".toList, []⟩

inductive ExpansionError
  | sourceTooLarge (size : Nat)
  | failed (failure : Failure) (source : Source)
deriving DecidableEq, Repr

namespace ExpansionError

def message : ExpansionError → Text
  | sourceTooLarge size =>
    "source is ".toList ++ Text.decimal size ++ " bytes, larger than the 4 GiB limit".toList
  | failed failure _ => failure.fault.message

def code : ExpansionError → Text
  | sourceTooLarge _ => "lbx::source_too_large".toList
  | failed failure _ => failure.fault.code

def help : ExpansionError → Option Text
  | sourceTooLarge _ => some "split the script into smaller files".toList
  | failed failure _ => failure.fault.help

def label : ExpansionError → Option Text
  | sourceTooLarge _ => none
  | failed failure _ => some failure.fault.label

/-- The place the error points at; an error that points at none has line zero. -/
def site : ExpansionError → Site
  | sourceTooLarge _ => ⟨0, 0, 0⟩
  | failed failure _ => failure.site

def source? : ExpansionError → Option Source
  | sourceTooLarge _ => none
  | failed _ source => some source

def withSource (source : Source) : ExpansionError → ExpansionError
  | sourceTooLarge size => sourceTooLarge size
  | failed failure _ => failed failure source

def excerpt? : ExpansionError → Option Text
  | sourceTooLarge _ => none
  | failed failure source => source.text.slice? failure.site.offset failure.site.length

end ExpansionError

end LabelBasic
