import LabelBasic.System.Toml.Quoted

namespace LabelBasic.Toml

open Reader

def digits (p : Char → Bool) : Reader Text := do
  return (← one p) :: (← many (one p <|> (char '_' *> one p)))

def sign : Reader Text := do return (← attempt (one fun c ↦ c == '+' || c == '-')).toList

def wholeDigits : Reader Text := do
  match ← one Char.isDigit with
  | '0' => return ['0']
  | c => return c :: (← many (one Char.isDigit <|> (char '_' *> one Char.isDigit)))

def valueIn (base : Nat) (ds : Text) : Nat := ds.foldl (fun n c ↦ base * n + hexValue [c]) 0

/-- A whole number that fits in 64 bits with a sign. Only decimal ones have a sign of their own. -/
def wholeNumber : Reader Text := do
  let limit := Nat.pow 2 63
  let based (mark : Char) (base : Nat) (p : Char → Bool) : Reader Text := do
    word ['0', mark]
    let ds ← digits p
    if valueIn base ds < limit then return '0' :: mark :: ds else failure
  let decimal : Reader Text := do
    let s ← sign
    let ds ← wholeDigits
    let bound := if s == ['-'] then limit + 1 else limit
    if valueIn 10 ds < bound then return s ++ ds else failure
  based 'x' 16 isHexDigit <|> based 'o' 8 (fun c ↦ '0' ≤ c && c ≤ '7') <|>
    based 'b' 2 (fun c ↦ c == '0' || c == '1') <|> decimal

def exponent : Reader (Text × Text) := do
  let _ ← one fun c ↦ c == 'e' || c == 'E'
  return (← sign, ← digits Char.isDigit)

/-- Whether `n` times ten to the power `e` rounds to a double that is not finite. The largest
finite double is `(2 ^ 53 - 1) * 2 ^ 971`, and half a unit above it rounding goes up. -/
def exceedsDoubles (n : Nat) (e : Int) : Bool :=
  let places : Int := (Nat.toDigits 10 n).length + e
  if n = 0 || places < 300 then false
  else if 400 < places then true
  else (Nat.pow 2 54 - 1) * Nat.pow 2 970 * Nat.pow 10 (-e).toNat ≤ n * Nat.pow 10 e.toNat

def fractional : Reader Text := do
  let s ← sign
  let whole ← wholeDigits
  let fraction ← attempt (char '.' *> digits Char.isDigit)
  let power ← attempt exponent
  if fraction.isNone && power.isNone then failure
  let decimals := fraction.getD []
  let (powerSign, powerDigits) := power.getD ([], ['0'])
  let size : Int := valueIn 10 powerDigits
  let e : Int := (if powerSign == ['-'] then -size else size) - decimals.length
  if s != ['-'] && exceedsDoubles (valueIn 10 (whole ++ decimals)) e then failure
  return s ++ whole ++ (fraction.map ('.' :: ·)).getD [] ++
    (power.map fun p ↦ 'e' :: p.1 ++ p.2).getD []

def special : Reader Text := do
  let s ← sign
  let name (w : Text) : Reader Text := do
    word w
    return s ++ w
  name "inf".toList <|> name "nan".toList

def fixed (count low high : Nat) : Reader (Nat × Text) := do
  let ds ← upTo (one Char.isDigit) count
  let n := valueIn 10 ds
  if ds.length = count && low ≤ n && n ≤ high then return (n, ds) else failure

def daysOfMonth (year month : Nat) : Nat :=
  if month = 2 then
    if year % 4 = 0 && (year % 100 != 0 || year % 400 = 0) then 29 else 28
  else if month ∈ [4, 6, 9, 11] then 30
  else 31

def date : Reader Text := do
  let (year, y) ← fixed 4 0 9999
  let _ ← char '-'
  let (month, m) ← fixed 2 1 12
  let _ ← char '-'
  let (_, d) ← fixed 2 1 (daysOfMonth year month)
  return y ++ '-' :: m ++ '-' :: d

def time : Reader Text := do
  let (_, h) ← fixed 2 0 23
  let _ ← char ':'
  let (_, m) ← fixed 2 0 59
  let _ ← char ':'
  let (_, s) ← fixed 2 0 60
  let fraction ← attempt (char '.' *> run1 Char.isDigit)
  return h ++ ':' :: m ++ ':' :: s ++ (fraction.map ('.' :: ·)).getD []

def timeOffset : Reader Text :=
  (([·]) <$> one fun c ↦ c == 'Z' || c == 'z') <|> do
    let s ← one fun c ↦ c == '+' || c == '-'
    let (_, h) ← fixed 2 0 23
    let _ ← char ':'
    let (_, m) ← fixed 2 0 59
    return s :: h ++ ':' :: m

def moment : Reader Text :=
  (do
    let d ← date
    let rest ← attempt do
      let t ← one fun c ↦ c == 'T' || c == 't' || c == ' '
      return t :: (← time) ++ (← attempt timeOffset).getD []
    return d ++ rest.getD []) <|> time

def literal : Reader Text := moment <|> fractional <|> special <|> wholeNumber

end LabelBasic.Toml
