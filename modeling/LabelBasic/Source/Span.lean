namespace LabelBasic

/-- The largest position, which is also the size of the largest source. -/
def maxOffset : Nat := UInt32.size - 1

def saturate (n : Nat) : Nat := min n maxOffset

theorem saturate_of_le {n : Nat} (h : n ≤ maxOffset) : saturate n = n := Nat.min_eq_left h

structure Span where
  start : Nat := 0
  stop : Nat := 0
deriving DecidableEq, Repr

namespace Span

def length (s : Span) : Nat := s.stop - s.start

def isEmpty (s : Span) : Bool := s.start == s.stop

end Span

/-- Where something stands in a source: the number of its line, its first byte and its size in
bytes. The last two are not limited to `maxOffset`. -/
structure Site where
  line : Nat
  offset : Nat
  length : Nat
deriving DecidableEq, Repr

end LabelBasic
