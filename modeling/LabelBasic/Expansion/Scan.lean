import LabelBasic.Options
import LabelBasic.Expansion.Fault
import LabelBasic.Log.Event

namespace LabelBasic

/-- A function by its name, its number and the line that opens it. -/
structure Definition where
  name : Text
  id : Nat
  line : Nat
deriving DecidableEq, Repr

structure OpenFunction where
  name : Text
  id : Nat
  site : Site
deriving DecidableEq, Repr

structure Emission where
  lines : List OutputLine := []
  events : List Event := []
deriving DecidableEq, Repr

def Emission.ofCode (code : List Instruction) (events : List Event) : Emission where
  lines := code.map .generated
  events := events

structure Scan where
  functions : List Definition := []
  nextDefinition : Nat := 0
  nextCallSite : Nat := 0
  opened : Option OpenFunction := none
deriving DecidableEq, Repr

def maxLabel : Nat := UInt32.size - 1

namespace Scan

def lookup? (s : Scan) (name : Text) : Option Definition :=
  s.functions.find? fun d ↦ d.name == name

/-- The instructions before a function body, which straight-line flow jumps over. -/
def openingCode (markers : Bool) (name : Text) (id : Nat) : List Instruction :=
  (if markers then [.beginMarker name] else []) ++ [.goto (.skip id), .label (.entry id)]

def closingCode (markers : Bool) (id : Nat) : List Instruction :=
  [.gotoIndirect .returnAddress, .label (.skip id)] ++ if markers then [.endMarker] else []

def returningCode (value : Text) : List Instruction :=
  [.setVal .returnValue (.text value), .gotoIndirect .returnAddress]

/-- The instructions of call number `site` of function number `id`: they set the parameters, which
are numbered from one, remember where to come back to, and jump. -/
def callingCode (id site : Nat) (arguments : List Text) : List Instruction :=
  arguments.zipIdx.map (fun a ↦ .setVal (.parameter (a.2 + 1)) (.text a.1)) ++
    [.setVal .returnAddress (.label (.resume site)), .goto (.entry id), .label (.resume site)]

def openFunction (o : Options) (s : Scan) (name : Text) (site : Site) :
    Scan × Except Fault Emission :=
  match s.opened, s.lookup? name with
  | some outer, _ => (s, .error (.nestedFunction name outer.name outer.site.line))
  | none, some first => (s, .error (.duplicateFunction name first.line))
  | none, none =>
    let id := s.nextDefinition
    ({ s with
        functions := s.functions ++ [⟨name, id, site.line⟩]
        opened := some ⟨name, id, site⟩ },
      .ok (.ofCode (openingCode o.markers name id) [.functionOpened name id site.line]))

def closeFunction (o : Options) (s : Scan) (site : Site) : Scan × Except Fault Emission :=
  match s.opened with
  | none => (s, .error .unmatchedEnd)
  | some f =>
    if s.nextDefinition < maxLabel then
      ({ s with nextDefinition := s.nextDefinition + 1, opened := none },
        .ok (.ofCode (closingCode o.markers f.id) [.functionClosed f.name f.id site.line]))
    else ({ s with opened := none }, .error (.labelOverflow "function".toList))

def callWarning (o : Options) (s : Scan) (callee : Text) (line : Nat) : List Event :=
  match s.opened with
  | some f => if o.warnNestedCalls then [.nestedCall line f.name callee] else []
  | none => []

def callFunction (o : Options) (s : Scan) (name : Text) (arguments : List Text) (site : Site) :
    Scan × Except Fault Emission :=
  match s.lookup? name with
  | none => (s, .error (.undefinedFunction name))
  | some callee =>
    if s.nextCallSite < maxLabel then
      ({ s with nextCallSite := s.nextCallSite + 1 },
        .ok (.ofCode (callingCode callee.id s.nextCallSite arguments)
          (s.callWarning o name site.line ++
            [.callExpanded name (.resume s.nextCallSite) site.line])))
    else (s, .error (.labelOverflow "call site".toList))

/-- Does what a directive says. Leaving a body is allowed anywhere. -/
def obey (o : Options) (s : Scan) (d : Directive) (site : Site) : Scan × Except Fault Emission :=
  match d with
  | .opening name => s.openFunction o name site
  | .returning value => (s, .ok (.ofCode (returningCode value) []))
  | .closing => s.closeFunction o site
  | .calling name arguments => s.callFunction o name arguments site

/-- What a line that is no directive contributes, and what a directive is read from. -/
def lineText (o : Options) (l : SourceLine) : Text := if o.trimLines then l.text.trim else l.text

def step (o : Options) (s : Scan) (l : SourceLine) : Scan × Except Fault Emission :=
  match Line.classify (lineText o l) with
  | .error missing => (s, .error (.missingOperand missing))
  | .ok (.directive d) => s.obey o d l.site
  | .ok _ => (s, .ok { lines := [.copied (lineText o l)] })

def unterminated? (s : Scan) : Option Failure :=
  s.opened.map fun f ↦ ⟨.unterminatedFunction f.name, f.site⟩

end Scan

end LabelBasic
