import LabelBasic.Text.Basic
import LabelBasic.System.Hidden

namespace LabelBasic.Text

def codePointEscape (c : Char) : Text :=
  ['\\', 'u', '\x7b'] ++ Nat.toDigits 16 c.toNat ++ ['\x7d']

def escape (c : Char) : Text :=
  if c = '\x00' then ['\\', '0']
  else if c = '\t' then ['\\', 't']
  else if c = '\n' then ['\\', 'n']
  else if c = '\r' then ['\\', 'r']
  else if c = '\\' || c = '\x22' then ['\\', c]
  else if isHidden c then codePointEscape c
  else [c]

def quote (t : Text) : Text := '\x22' :: t.flatMap escape ++ ['\x22']

end LabelBasic.Text
