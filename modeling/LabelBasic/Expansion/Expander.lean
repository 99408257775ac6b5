import LabelBasic.Expansion.Scan

namespace LabelBasic

structure Expander where
  options : Options := {}
  scan : Scan := {}
  output : Array OutputLine := #[]
  log : Array Event := #[]

structure Expansion where
  lines : List OutputLine
  functions : List Definition
  callSites : Nat
  trailingNewline : Bool
deriving DecidableEq, Repr

namespace Expansion

def texts (x : Expansion) : List Text := x.lines.map OutputLine.text

def labels (x : Expansion) : List Text := x.texts.filterMap definedLabel?

/-- The lines with line feeds between them, and one at the end if the options ask for it and there
is a line. -/
def render (x : Expansion) : Text :=
  Text.join ['\n'] x.texts ++ if x.trailingNewline && !x.lines.isEmpty then ['\n'] else []

end Expansion

namespace Expander

def inFunction (e : Expander) : Bool := e.scan.opened.isSome

/-- Takes one line. A line that fails adds nothing to the output or the log. -/
def feed (e : Expander) (l : SourceLine) : Expander × Option Failure :=
  match e.scan.step e.options l with
  | (scan, .ok emission) =>
    ({ e with
        scan := scan
        output := e.output ++ emission.lines
        log := e.log ++ emission.events }, none)
  | (scan, .error fault) => ({ e with scan := scan }, some ⟨fault, l.site⟩)

def feedAll (e : Expander) : List SourceLine → Expander × Option Failure
  | [] => (e, none)
  | l :: ls =>
    match e.feed l with
    | (e', none) => e'.feedAll ls
    | (e', some failure) => (e', some failure)

def finish (e : Expander) : Except Failure Expansion :=
  match e.scan.unterminated? with
  | some failure => .error failure
  | none => .ok {
      lines := e.output.toList
      functions := e.scan.functions
      callSites := e.scan.nextCallSite
      trailingNewline := e.options.trailingNewline }

end Expander

structure Run where
  log : List Event := []
  result : Except ExpansionError Expansion

def expand (o : Options) (source : Source) (lines : List SourceLine) : Run :=
  if source.text.byteSize ≤ maxOffset then
    match Expander.feedAll { options := o } lines with
    | (e, some failure) => ⟨e.log.toList, .error (.failed failure source)⟩
    | (e, none) => ⟨e.log.toList, e.finish.mapError (.failed · source)⟩
  else { result := .error (.sourceTooLarge source.text.byteSize) }

def expandSource (o : Options) (source : Source) : Run :=
  expand o source (sourceLines source.text)

/-- Expands a script given line by line. Its source is the lines joined by line feeds. -/
def expandLines (o : Options) (items : List Text) : Run :=
  expand o { Source.detached with text := Text.join ['\n'] items } (numberItems 0 0 items)

end LabelBasic
