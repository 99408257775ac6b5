import LabelBasic.Instruction

namespace LabelBasic

inductive Level
  | error
  | warn
  | info
  | debug
  | trace
deriving DecidableEq, Repr

namespace Level

def detail : Level → Nat
  | error => 1
  | warn => 2
  | info => 3
  | debug => 4
  | trace => 5

def name : Level → Text
  | error => "ERROR".toList
  | warn => "WARN".toList
  | info => "INFO".toList
  | debug => "DEBUG".toList
  | trace => "TRACE".toList

end Level

inductive Event
  | functionOpened (function : Text) (id line : Nat)
  | functionClosed (function : Text) (id line : Nat)
  /-- A call inside a function body, which overwrites the address that body returns to. -/
  | nestedCall (line : Nat) (caller callee : Text)
  | callExpanded (callee : Text) (resume : Label) (line : Nat)
  | expansionFinished (input : Text) (functions callSites lines : Nat)
deriving DecidableEq, Repr

inductive FieldValue
  | number (n : Nat)
  | quoted (t : Text)
  | plain (t : Text)
deriving DecidableEq, Repr

namespace Event

def level : Event → Level
  | functionOpened .. | functionClosed .. | callExpanded .. => .debug
  | nestedCall .. => .warn
  | expansionFinished .. => .info

def target : Event → Text
  | expansionFinished .. => "lbx".toList
  | _ => "lbx_macro::expand".toList

def message : Event → Text
  | functionOpened .. => "function opened".toList
  | functionClosed .. => "function closed".toList
  | nestedCall .. =>
    "CALLFUNC inside a function body overwrites the caller's return address".toList
  | callExpanded .. => "call expanded".toList
  | expansionFinished .. => "expansion finished".toList

def fields : Event → List (Text × FieldValue)
  | functionOpened function id line =>
    [("function".toList, .quoted function), ("id".toList, .number id),
      ("line".toList, .number line)]
  | functionClosed function id line =>
    [("function".toList, .plain function), ("id".toList, .number id),
      ("line".toList, .number line)]
  | nestedCall line caller callee =>
    [("line".toList, .number line), ("caller".toList, .plain caller),
      ("callee".toList, .quoted callee)]
  | callExpanded callee resume line =>
    [("callee".toList, .quoted callee), ("resume".toList, .plain resume.spelling),
      ("line".toList, .number line)]
  | expansionFinished input functions callSites lines =>
    [("input".toList, .plain input), ("functions".toList, .number functions),
      ("call_sites".toList, .number callSites), ("lines".toList, .number lines)]

def fieldNames (e : Event) : List Text := "message".toList :: e.fields.map Prod.fst

end Event

end LabelBasic
