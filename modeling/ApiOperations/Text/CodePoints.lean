/-!
Finite descriptions of sets of code points and of maps between them. A set is a list of closed
intervals, or of stepped runs where the members alternate with others; a map is a list of runs,
each with the code point that its first member goes to.
-/

namespace ApiOperations.Text

/-- Some interval of the list holds the code point. -/
def coveredBy (intervals : List (Nat × Nat)) (n : Nat) : Bool :=
  intervals.any fun r => r.1 ≤ n && n ≤ r.2

/-- The code points `first, first + step, …, last`. -/
structure Run where
  first : Nat
  last : Nat
  step : Nat

def Run.contains (r : Run) (n : Nat) : Bool :=
  r.first ≤ n && n ≤ r.last && (n - r.first) % r.step == 0

/-- A run whose members move together: its first member goes to `target`. -/
structure Shift where
  run : Run
  target : Nat

/-- The image of `n` under the first shift whose run holds it. -/
def shiftBy (shifts : List Shift) (n : Nat) : Option Nat :=
  (shifts.find? (·.run.contains n)).map fun s => s.target + (n - s.run.first)

end ApiOperations.Text
