import LabelBasic.Text.Basic

namespace LabelBasic

abbrev Reader := StateT Text Option

namespace Reader

variable {α : Type}

def one (p : Char → Bool) : Reader Char := fun
  | c :: t => if p c then some (c, t) else none
  | [] => none

def next : Reader Char := one fun _ ↦ true

def char (c : Char) : Reader Char := one (· == c)

def word (w : Text) : Reader Unit := fun t ↦ (t.after? w).map fun rest ↦ ((), rest)

def run (p : Char → Bool) : Reader Text := fun t ↦ some (t.span p)

def run1 (p : Char → Bool) : Reader Text := do return (← one p) :: (← run p)

def finished : Reader Unit := fun
  | [] => some ((), [])
  | _ => none

def peek (r : Reader α) : Reader Unit := fun t ↦ (r t).map fun _ ↦ ((), t)

def attempt (r : Reader α) : Reader (Option α) := (some <$> r) <|> pure none

def upTo (r : Reader α) : Nat → Reader (List α)
  | 0 => pure []
  | limit + 1 => (do return (← r) :: (← upTo r limit)) <|> pure []

/-- As many items as follow each other. No item may be empty, so the text bounds their number. -/
def many (r : Reader α) : Reader (List α) := fun t ↦ upTo r t.length t

def separated (r : Reader α) (separator : Reader Char) : Reader (List α) := do
  return (← r) :: (← many (separator *> r))

def hexValue (digits : Text) : Nat :=
  digits.foldl (fun n c ↦ 16 * n +
    if c.isDigit then c.toNat - '0'.toNat else c.toLower.toNat - 'a'.toNat + 10) 0

def isHexDigit (c : Char) : Bool :=
  c.isDigit || ('a' ≤ c && c ≤ 'f') || ('A' ≤ c && c ≤ 'F')

def charOfHex? (count : Nat) (digits : Text) : Option Char :=
  let n := hexValue digits
  if digits.length = count && n.isValidChar then some (Char.ofNat n) else none

end Reader

end LabelBasic
