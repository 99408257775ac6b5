import LabelBasic.Text.Blank
import LabelBasic.System.Reader

namespace LabelBasic.Pattern

open Reader

structure Mode where
  spaced : Bool := false
  caseless : Bool := false
  unicode : Bool := true
deriving DecidableEq, Repr

namespace Mode

def letters : Text := "imsUuRx".toList

def change (m : Mode) (on off : Text) : Mode :=
  let flag (c : Char) (old : Bool) : Bool := c ∈ on || (old && c ∉ off)
  ⟨flag 'x' m.spaced, flag 'i' m.caseless, flag 'u' m.unicode⟩

def skip (m : Mode) : Reader Unit := do
  if m.spaced then
    let _ ← many (one Text.isBlank <|> (char '#' <* run (· != '\n')))

/-- Whether letter case makes no difference where it would have to be known beyond ASCII. -/
def foldsUnicode (m : Mode) : Bool := m.unicode && m.caseless

def admits (m : Mode) (c : Char) : Bool := if m.unicode then !m.caseless else c.toNat < 0x80

def codePoint (m : Mode) (count : Nat) : Reader Char := do
  let digits ← upTo (m.skip *> one isHexDigit) count
  match charOfHex? count digits with
  | some c => return c
  | none => failure

end Mode

def joined : List Nat → Nat
  | [] => 0
  | [h] => h
  | hs => hs.foldl max 0 + 1

def maxHeight : Nat := 250

end LabelBasic.Pattern
