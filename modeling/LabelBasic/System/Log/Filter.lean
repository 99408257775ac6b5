import LabelBasic.Log.Event
import LabelBasic.System.Log.Pattern

namespace LabelBasic

abbrev Threshold := Nat

namespace Threshold

def all : Threshold := Level.trace.detail

def names : List (Text × Threshold) :=
  [("off".toList, 0), ("error".toList, 1), ("warn".toList, 2), ("info".toList, 3),
    ("debug".toList, 4), ("trace".toList, 5)]

def number? (t : Text) : Option Nat :=
  let ds := if t.head? = some '+' then t.tail else t
  if !ds.isEmpty && ds.all Char.isDigit then some (Nat.ofDigitChars 10 ds 0) else none

def parse? (t : Text) : Option Threshold :=
  match number? t with
  | some n => if n ≤ all then some n else none
  | none => names.lookup (t.map Char.toLower)

end Threshold

inductive FilterError
  | malformed
  | unknownLevel
  | badPattern (cause : PatternError)
deriving DecidableEq, Repr

def FilterError.message : FilterError → Text
  | malformed => "invalid filter directive".toList
  | unknownLevel =>
    "error parsing level filter: expected one of \"off\", \"error\", \"warn\", \"info\", ".toList ++
      "\"debug\", \"trace\", or a number 0-5".toList
  | badPattern .malformed => "invalid field filter: error building NFA".toList
  | badPattern .wordBoundary =>
    "invalid field filter: unsupported regex feature for DFAs: cannot build DFAs for ".toList ++
      "regexes with Unicode word boundaries; switch to ASCII word boundaries, or ".toList ++
      "heuristically enable Unicode word boundaries or use a different regex engine".toList

inductive FilterScope
  | everything
  | withField (name : Text)
  /-- Events inside a span. This program has no spans, so there are no such events. -/
  | insideSpan
deriving DecidableEq, Repr

structure FilterDirective where
  target : Option Text
  scope : FilterScope
  threshold : Threshold
deriving DecidableEq, Repr

namespace FilterDirective

def isInitial (c : Char) : Bool := Text.isAlphanumeric c || c ∈ ['-', ':', '_', '[']

def readThreshold (t : Text) : Except FilterError Threshold :=
  if t = [] then .ok .all
  else match Threshold.parse? t with
    | some n => .ok n
    | none => .error .unknownLevel

def part (t : Text) (start stop : Nat) : Except FilterError Text :=
  match t.slice? start (stop - start) with
  | some u => .ok u
  | none => .error .malformed

def partFrom (t : Text) (start : Nat) : Except FilterError Text :=
  match t.dropBytes? start with
  | some u => .ok u
  | none => .error .malformed

def splitAt? (p : Char → Bool) (t : Text) : Option (Text × Char × Text) :=
  match t.span (!p ·) with
  | (before, c :: rest) => some (before, c, rest)
  | _ => none

/-- Reads what stands between braces, after `span` and within brackets: a field and, after an equals
sign, a pattern for its value. A second equals sign ends the pattern. -/
def readField (span field : Text) : Except FilterError FilterScope :=
  if field = [] then .error .malformed
  else match field.splitOn '=' with
    | _ :: value :: _ => match Pattern.check value with
      | .ok _ => .ok .insideSpan
      | .error e => .error (.badPattern e)
    | _ => .ok (if span = [] then .withField field else .insideSpan)

def readScope (t rest : Text) (start : Nat) : Except FilterError (FilterScope × Text × Nat) :=
  match splitAt? (fun c ↦ c == ']' || c == '\x7b') rest with
  | none => .error .malformed
  | some (span, ']', after) => .ok (.insideSpan, after, start + span.byteSize + 1)
  | some (span, _, rest) => match splitAt? (· == '\x7d') rest with
    | none => .error .malformed
    | some (field, _, after) => do
      let i := start + span.byteSize + 1
      let j := i + field.byteSize
      let scope ← readField (← part t start (i - 1)) (← part t i j)
      match after with
      | ']' :: after => return (scope, after, j + 2)
      | _ => .error .malformed

/-- Reads a directive. Its parts are found without the blank characters at its ends, and their
positions, which count bytes, then hold for the text with these characters. -/
def parse (t : Text) : Except FilterError FilterDirective :=
  let inner := t.trim
  if !inner.head?.any isInitial then .error .malformed
  else match splitAt? (fun c ↦ c == '=' || c == '[') inner with
    | none => match Threshold.parse? t with
      | some n => .ok ⟨none, .everything, n⟩
      | none => .ok ⟨some t, .everything, .all⟩
    | some (before, '=', _) => do
      let target ← part t 0 before.byteSize
      return ⟨some target, .everything, ← readThreshold (← partFrom t (before.byteSize + 1))⟩
    | some (before, _, rest) => do
      let target ← part t 0 before.byteSize
      let (scope, after, stop) ← readScope t rest (before.byteSize + 1)
      let directive (n : Threshold) : FilterDirective :=
        ⟨if before = [] then none else some target, scope, n⟩
      match after with
      | [] => return directive .all
      | '=' :: _ => return directive (← readThreshold (← partFrom t (stop + 1)))
      | _ => .error .malformed

def concerns (d : FilterDirective) (e : Event) : Bool :=
  (match d.target with
    | none => true
    | some start => start.isPrefixOf e.target) &&
  match d.scope with
  | .everything => true
  | .withField name => name ∈ e.fieldNames
  | .insideSpan => false

def closeness (d : FilterDirective) : Nat :=
  match d.target with
  | none => 0
  | some start => start.length

def field (d : FilterDirective) : Option Text :=
  match d.scope with
  | .withField name => some name
  | _ => none

/-- Whether `d`, which comes later, decides rather than `best`, where both concern an event. -/
def outranks (d best : FilterDirective) : Bool :=
  best.closeness < d.closeness ||
  (best.closeness == d.closeness && match best.field, d.field with
    | none, _ => true
    | some _, none => false
    | some f, some g => !g.lex f fun a b ↦ a.toNat < b.toNat)

end FilterDirective

structure LogFilter where
  directives : List FilterDirective
deriving DecidableEq, Repr

namespace LogFilter

def pieces (t : Text) : List Text := (t.splitOn ',').filter fun p ↦ !p.isEmpty

def parse? (t : Text) : Option LogFilter :=
  ((pieces t).mapM fun p ↦ (FilterDirective.parse p).toOption).map LogFilter.mk

def parseKnown (t : Text) : LogFilter :=
  ⟨(pieces t).filterMap fun p ↦ (FilterDirective.parse p).toOption⟩

def complaints (t : Text) : List Text :=
  (pieces t).filterMap fun p ↦
    match FilterDirective.parse p with
    | .ok _ => none
    | .error e => some ("ignoring `".toList ++ p ++ "`: ".toList ++ e.message)

def deciding? (f : LogFilter) (e : Event) : Option FilterDirective :=
  (f.directives.filter (·.concerns e)).foldl
    (fun best d ↦ if best.all d.outranks then some d else best) none

def passes (f : LogFilter) (e : Event) : Bool :=
  match f.deciding? e with
  | none => false
  | some d => e.level.detail ≤ d.threshold

end LogFilter

end LabelBasic
