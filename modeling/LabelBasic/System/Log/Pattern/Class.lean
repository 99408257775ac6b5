import LabelBasic.System.Log.Pattern.Mode

namespace LabelBasic.Pattern

open Reader

inductive Atom
  | literal (c : Char)
  | kind
  | place
  | wordBoundary
deriving DecidableEq, Repr

/-- What follows a backslash. Every ASCII character that is neither a letter nor a digit stands
for itself, save the angle brackets. -/
def escaped (m : Mode) : Reader Atom := do
  match ← next with
  | 'x' => do
    let c ← m.codePoint 2
    if m.unicode || c.toNat < 0x80 then return .literal c else failure
  | 'u' => .literal <$> m.codePoint 4
  | 'U' => .literal <$> m.codePoint 8
  | 'a' => return .literal '\x07'
  | 'f' => return .literal '\x0c'
  | 'n' => return .literal '\n'
  | 'r' => return .literal '\r'
  | 't' => return .literal '\t'
  | 'v' => return .literal '\x0b'
  | 'd' | 's' | 'w' => if m.unicode then failure else return .kind
  | 'A' | 'z' => return .place
  | 'b' | 'B' | '<' | '>' => return .wordBoundary
  | c => if c.toNat < 0x80 && !c.isAlphanum then return .literal c else failure

def member (m : Mode) : Reader Atom := do
  match ← next with
  | '\\' => escaped m
  | c => return .literal c

def bound (m : Mode) : Reader Char := do
  match ← member m with
  | .literal c => if m.admits c then return c else failure
  | _ => failure

def glance (m : Mode) (t : Text) : Option Char :=
  if m.spaced then
    match Text.trimStart t with
    | '#' :: rest => (Text.trimStart rest).head?
    | rest => rest.head?
  else t.head?

/-- Whether a hyphen follows that stands for a range: one before a closing bracket or before
another hyphen does not. -/
def startsRange (m : Mode) : Reader Bool := do
  match ← get with
  | '-' :: t => return glance m t != some ']' && glance m t != some '-'
  | _ => return false

def item (m : Mode) : Reader Unit := do
  let low ← member m
  m.skip
  if ← startsRange m then
    let _ ← char '-'
    m.skip
    let high ← bound m
    match low with
    | .literal c => if m.admits c && c ≤ high then return else failure
    | _ => failure
  else
    match low with
    | .literal c => if m.admits c then return else failure
    | .kind => return
    | _ => failure

def asciiClasses : List Text :=
  ["alnum", "alpha", "ascii", "blank", "cntrl", "digit", "graph", "lower", "print", "punct",
    "space", "upper", "word", "xdigit"].map String.toList

def asciiClass : Reader Bool := do
  word "[:".toList
  let complement ← attempt (char '^')
  let name ← run (· != ':')
  word ":]".toList
  if name ∈ asciiClasses then return complement.isSome else failure

structure OpenClass where
  left : Option Nat := none
  items : List Nat := []
deriving DecidableEq, Repr

namespace OpenClass

def height (c : OpenClass) : Nat :=
  match c.left with
  | none => joined c.items
  | some h => max h (joined c.items) + 1

def add (c : OpenClass) (h : Nat) : OpenClass := { c with items := h :: c.items }

def operate (c : OpenClass) : OpenClass := ⟨some c.height, []⟩

/-- What may stand right after an opening bracket: the sign of a complement, and then hyphens or
a closing bracket that are meant as such. -/
def start (m : Mode) : Reader OpenClass := do
  m.skip
  let complement ← attempt (char '^')
  if complement.isSome && !m.unicode then failure
  m.skip
  let hyphens ← many (char '-' <* m.skip)
  let marks ← if hyphens.isEmpty then Option.toList <$> attempt (char ']') else pure hyphens
  if marks.all m.admits then return ⟨none, marks.map fun _ ↦ 0⟩ else failure

/-- The rest of a class, whose height is the outcome, within other classes that are open. Each of
them and each item takes one off `limit`. -/
def complete (m : Mode) : Nat → OpenClass → List OpenClass → Reader Nat
  | 0, _, _ => failure
  | limit + 1, c, outer => do
    m.skip
    match ← attempt asciiClass with
    | some complement =>
      if m.foldsUnicode || (complement && !m.unicode) then failure
      else complete m limit (c.add 0) outer
    | none => do
      match ← attempt (char '[') with
      | some _ => do
        let inner ← start m
        complete m limit inner (c :: outer)
      | none => do
        match ← attempt (char ']') with
        | some _ =>
          match outer with
          | [] => return c.height + 1
          | o :: os => complete m limit (o.add (c.height + 1)) os
        | none => do
          match ← attempt (word "&&".toList <|> word "--".toList <|> word "~~".toList) with
          | some _ => complete m limit c.operate outer
          | none => do
            item m
            complete m limit (c.add 0) outer

end OpenClass

def bracketed (m : Mode) : Reader Nat := do
  let c ← OpenClass.start m
  let rest ← get
  OpenClass.complete m (rest.length + 1) c []

end LabelBasic.Pattern
