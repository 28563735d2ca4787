/-! # Spans of code points

A character class of the Unicode character database is a list of spans in ascending order. A span
with a step above one stands for every step-th code point, which keeps the alternating case tables
short.
-/
namespace GrantFs.Unicode

structure Span where
  first : Nat
  last : Nat
  step : Nat
deriving DecidableEq, Repr

def Span.has (s : Span) (n : Nat) : Bool :=
  decide (s.first ≤ n) && decide (n ≤ s.last) && (n - s.first) % s.step == 0

/-- Spans ascend, so the search ends at the first one that begins behind `n`. -/
def inSpans : List Span → Nat → Bool
  | [], _ => false
  | s :: rest, n => if n < s.first then false else s.has n || inSpans rest n

end GrantFs.Unicode
