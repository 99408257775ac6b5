import LabelBasic.System.Toml.Value
import LabelBasic.System.Toml.Literal

namespace LabelBasic.Toml

open Reader

/-- Arrays and tables in braces may be this deep inside each other, and keys this long. -/
def maxDepth : Nat := 79

def comment : Reader Unit := do
  let _ ← char '#'
  let _ ← run isPlain

def lineEnd : Reader Unit := (do let _ ← newline) <|> finished

def lineRest : Reader Unit := do
  spaces
  let _ ← attempt comment
  lineEnd

def bareKey : Reader Text :=
  run1 fun c ↦ c.isAlphanum || c == '-' || c == '_'

def key : Reader (List Text × Text) := do
  let part : Reader Text := spaces *> (basicText <|> literalText <|> bareKey) <* spaces
  let parts ← separated part (char '.')
  match parts.getLast? with
  | some last => if parts.length ≤ maxDepth then return (parts.dropLast, last) else failure
  | none => failure

def gap : Reader Unit := do
  let _ ← many ((do let _ ← one isSpace) <|> (do let _ ← attempt comment; let _ ← newline))

def array (item : Reader Value) : Reader Value := do
  let _ ← char '['
  let items ← attempt (separated (gap *> item <* gap) (char ',') <* attempt (char ','))
  gap
  let _ ← char ']'
  return .array (items.getD [])

def inlineTable (item : Reader Value) : Reader Value := do
  let _ ← char '\x7b'
  let pair : Reader ((List Text × Text) × Value) := do
    let k ← key
    let _ ← char '='
    spaces
    return (k, ← item <* spaces)
  let pairs ← attempt (separated pair (char ','))
  spaces
  let _ ← char '\x7d'
  let entries ← (pairs.getD []).foldlM
    (fun es p ↦ liftM (Entries.addDotted? p.1.1 p.1.2 p.2 es)) []
  return .table .inline entries

def value (depth : Nat) : Reader Value :=
  (Value.text <$> quoted) <|>
  (word "true".toList *> pure (.switch true)) <|>
  (word "false".toList *> pure (.switch false)) <|>
  (Value.literal <$> literal) <|>
  match depth with
  | 0 => failure
  | inner + 1 => array (value inner) <|> inlineTable (value inner)

/-- A document up to some line: its tables, and the path of the header that is in force. -/
structure Document where
  entries : Entries := []
  path : List Text := []

namespace Document

def set? (d : Document) (path : List Text) (key : Text) (v : Value) : Option Document := do
  return { d with entries := ← d.entries.editHeader (Entries.addDotted? path key v) d.path }

def header? (d : Document) (path : List Text) (key : Text) : Option Document := do
  return ⟨← d.entries.editHeader (Entries.openTable? key) path, path ++ [key]⟩

def arrayHeader? (d : Document) (path : List Text) (key : Text) : Option Document := do
  return ⟨← d.entries.editHeader (Entries.openArrayTable? key) path, path ++ [key]⟩

def header (d : Document) : Reader Document := do
  let _ ← char '['
  let (path, last) ← key
  let _ ← char ']'
  lineRest
  liftM (d.header? path last)

def arrayHeader (d : Document) : Reader Document := do
  word "[[".toList
  let (path, last) ← key
  word "]]".toList
  lineRest
  liftM (d.arrayHeader? path last)

def assignment (d : Document) : Reader Document := do
  let (path, last) ← key
  let _ ← char '='
  spaces
  let v ← value maxDepth
  lineRest
  liftM (d.set? path last v)

def emptyLine (d : Document) : Reader Document :=
  ((do let _ ← newline) <|> (comment *> lineEnd)) *> pure d

/-- Reads all lines; each takes at least one character, so the text bounds their number. -/
def lines : Nat → Document → Reader Document
  | 0, d => pure d
  | limit + 1, d =>
    (do
      let d' ← emptyLine d <|> arrayHeader d <|> header d <|> assignment d
      spaces
      lines limit d') <|> pure d

end Document

def parse? (t : Text) : Option Entries :=
  let reader : Reader Document := do
    let _ ← attempt (char '\uFEFF')
    spaces
    let d ← Document.lines t.length {}
    finished
    return d
  (reader.run' t).map Document.entries

end LabelBasic.Toml
