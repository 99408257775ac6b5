import LabelBasic.System.Alphanumeric
import LabelBasic.System.Log.Pattern.Class

namespace LabelBasic

inductive PatternError
  | malformed
  | wordBoundary
deriving DecidableEq, Repr

namespace Pattern

open Reader

structure Part where
  height : Nat := 0
  repeatable : Bool := true
deriving DecidableEq, Repr

structure OpenGroup where
  mode : Mode := {}
  alternatives : List Nat := []
  parts : List Part := []
deriving DecidableEq, Repr

namespace OpenGroup

def lastHeight (g : OpenGroup) : Nat := joined (g.parts.map Part.height)

def height (g : OpenGroup) : Nat := joined (g.lastHeight :: g.alternatives)

def add (g : OpenGroup) (p : Part) : OpenGroup := { g with parts := p :: g.parts }

def alternate (g : OpenGroup) : OpenGroup :=
  { g with alternatives := g.lastHeight :: g.alternatives, parts := [] }

def repeat? (g : OpenGroup) : Option OpenGroup :=
  match g.parts with
  | p :: ps => if p.repeatable then some { g with parts := ⟨p.height + 1, true⟩ :: ps } else none
  | [] => none

end OpenGroup

structure Progress where
  group : OpenGroup := {}
  outer : List OpenGroup := []
  names : List Text := []
  wordBoundary : Bool := false
deriving DecidableEq, Repr

def groupName : Reader Text := do
  let c ← one fun c ↦ c == '_' || Text.isAlphabetic c
  let rest ← run fun c ↦ Text.isAlphanumeric c || c ∈ ['_', '.', '[', ']']
  let _ ← char '>'
  return c :: rest

namespace Progress

def mode (s : Progress) : Mode := s.group.mode

def add (s : Progress) (p : Part) : Progress := { s with group := s.group.add p }

def enter (s : Progress) (inner : Mode) : Progress :=
  { s with group := { mode := inner }, outer := s.group :: s.outer }

def leave? (s : Progress) : Option Progress :=
  match s.outer with
  | [] => none
  | g :: gs => some { s with group := g.add ⟨s.group.height + 1, true⟩, outer := gs }

def addAtom? (s : Progress) (a : Atom) : Option Progress :=
  match a with
  | .literal _ => if s.mode.foldsUnicode then none else some (s.add {})
  | .kind | .place => some (s.add {})
  | .wordBoundary => some { s.add {} with wordBoundary := s.wordBoundary || s.mode.unicode }

/-- What follows a parenthesis and a question mark: flags for a group or, if the parenthesis
closes again, for the rest of the open one. -/
def flags (s : Progress) : Reader Progress := do
  let on ← run (· ∈ Mode.letters)
  let off := (← attempt (char '-' *> run1 (· ∈ Mode.letters))).getD []
  if !(on ++ off).Nodup then failure
  let m := s.mode.change on off
  match ← next with
  | ':' => return s.enter m
  | ')' =>
    if (on ++ off).isEmpty then failure
    else return { s with group := { s.group.add ⟨0, false⟩ with mode := m } }
  | _ => failure

def opening (s : Progress) : Reader Progress := do
  s.mode.skip
  match ← attempt (word "?P<".toList <|> word "?<".toList) with
  | some _ => do
    let name ← groupName
    if name ∈ s.names then failure
    return { s.enter s.mode with names := name :: s.names }
  | none => do
    match ← attempt (char '?') with
    | some _ => s.flags
    | none => return s.enter s.mode

def step (s : Progress) : Reader Progress := do
  match ← next with
  | '(' => s.opening
  | ')' => StateT.lift s.leave?
  | '|' => return { s with group := s.group.alternate }
  | '[' => do
    let h ← bracketed s.mode
    return s.add ⟨h, true⟩
  | '?' | '*' | '+' => do
    let g ← StateT.lift s.group.repeat?
    let _ ← attempt (char '?')
    return { s with group := g }
  | '\x7b' => failure
  | '.' => if s.mode.unicode then return s.add {} else failure
  | '^' | '$' => return s.add {}
  | '\\' => do
    let a ← escaped s.mode
    StateT.lift (s.addAtom? a)
  | c => StateT.lift (s.addAtom? (.literal c))

/-- The rest of a pattern, of `limit` parts at most. -/
def complete (s : Progress) : Nat → Reader Progress
  | 0 => failure
  | limit + 1 => do
    s.mode.skip
    match ← attempt finished with
    | some _ => return s
    | none => do
      let s ← s.step
      complete s limit

end Progress

def isPositiveNumber (t : Text) : Bool :=
  let digits := run1 Char.isDigit
  let point := char '.'
  let exponent := do
    let _ ← one (· ∈ ['e', 'E'])
    let _ ← attempt (one (· ∈ ['+', '-']))
    digits
  let number : Reader Unit := do
    let _ ← char '+'
    let _ ← (digits <* attempt (point *> run Char.isDigit)) <|> (point *> digits)
    let _ ← attempt exponent
    finished
  (number t).isSome || (t.map Char.toLower) ∈ ["+inf", "+infinity", "+nan"].map String.toList

def check (t : Text) : Except PatternError Unit :=
  if isPositiveNumber t then .ok ()
  else match Progress.complete {} (t.length + 1) t with
    | some (s, _) =>
      if !s.outer.isEmpty || maxHeight < s.group.height then .error .malformed
      else if s.wordBoundary then .error .wordBoundary
      else .ok ()
    | none => .error .malformed

end Pattern

end LabelBasic
