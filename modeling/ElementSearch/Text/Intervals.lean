/-! Finite unions of closed intervals of code points.
A character class of the library is an ASCII rule together with one such table for the
code points from 128 on; nothing is assumed about the order of the intervals. -/

namespace ElementSearch.Intervals

def mem (table : List (Nat × Nat)) (n : Nat) : Bool :=
  table.any fun (low, high) => low ≤ n && n ≤ high

/-- The distance of `n` from the start of the interval that holds it. -/
def offset? (table : List (Nat × Nat)) (n : Nat) : Option Nat :=
  (table.find? fun (low, high) => low ≤ n && n ≤ high).map fun (low, _) => n - low

end ElementSearch.Intervals
