import LabelBasic.System.Reader

namespace LabelBasic.Toml

open Reader

def isSpace (c : Char) : Bool := c == ' ' || c == '\t'

def isPlain (c : Char) : Bool := c == '\t' || (' ' ≤ c && c ≤ '~') || 0x80 ≤ c.toNat

def quotationMark : Char := '\x22'

def apostrophe : Char := '\x27'

def spaces : Reader Unit := do let _ ← run isSpace

def newline : Reader Char := char '\n' <|> (char '\r' *> char '\n')

def codePoint (count : Nat) : Reader Char := do
  match charOfHex? count (← upTo (one isHexDigit) count) with
  | some c => return c
  | none => failure

def escaped : Reader Char := do
  match ← next with
  | 'b' => return '\x08'
  | 'f' => return '\x0c'
  | 'n' => return '\n'
  | 'r' => return '\r'
  | 't' => return '\t'
  | '\\' => return '\\'
  | '\x22' => return quotationMark
  | 'u' => codePoint 4
  | 'U' => codePoint 8
  | _ => failure

def basicChar : Reader Char :=
  one (fun c ↦ isPlain c && c != quotationMark && c != '\\') <|> (char '\\' *> escaped)

def literalChar : Reader Char := one fun c ↦ isPlain c && c != apostrophe

def basicText : Reader Text :=
  char quotationMark *> many basicChar <* char quotationMark

def literalText : Reader Text :=
  char apostrophe *> many literalChar <* char apostrophe

def continuation : Reader Text := do
  let _ ← char '\\'
  spaces
  let _ ← newline
  let _ ← many (newline <|> one isSpace)
  return []

/-- The text of several lines between three marks and three marks. One or two marks may stand
anywhere in it, also right before the closing ones. -/
def severalLines (mark : Char) (content : Reader Text) : Reader Text := do
  word [mark, mark, mark]
  let _ ← attempt newline
  let marks (after : Reader Unit) : Reader Text :=
    (word [mark, mark] *> after *> pure [mark, mark]) <|> (word [mark] *> after *> pure [mark])
  let body ← many (content <|> marks (peek content))
  let last ← attempt (marks (peek (word [mark, mark, mark])))
  word [mark, mark, mark]
  return body.flatten ++ last.getD []

def quoted : Reader Text :=
  severalLines quotationMark (continuation <|> (([·]) <$> (basicChar <|> newline))) <|>
  basicText <|>
  severalLines apostrophe (([·]) <$> (literalChar <|> newline)) <|>
  literalText

end LabelBasic.Toml
