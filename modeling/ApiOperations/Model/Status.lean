import ApiOperations.Text.Blank
import ApiOperations.Text.Casing

/-!
Statuses of responses: an exact code from 100 to 599, a hundred of codes such as `4XX`, or the default.
They are ordered by code, a hundred right after its lowest code and the default last.
-/

namespace ApiOperations

inductive Status where
  | code (n : Nat)
  /-- The codes that start with the digit `d`. -/
  | hundred (d : Nat)
  | default
  deriving DecidableEq

namespace Status

open ApiOperations.Text

/-- The number that ASCII digits spell. -/
def decimal (cs : List Char) : Nat :=
  cs.foldl (fun n c => 10 * n + (c.toNat - '0'.toNat)) 0

/-- The status that a trimmed key spells. -/
def ofTrimmed? (cs : List Char) : Option Status :=
  if sameIgnoringAsciiCase cs "default".toList then some default
  else
    match cs with
    | [d, x, y] =>
      if x.toUpper = 'X' ∧ y.toUpper = 'X' then
        if '1' ≤ d ∧ d ≤ '5' then some (hundred (d.toNat - '0'.toNat)) else none
      else exactCode? cs
    | _ => exactCode? cs
where
  /-- The exact code that digits spell. -/
  exactCode? (cs : List Char) : Option Status :=
    if cs ≠ [] ∧ cs.all Char.isDigit ∧ 100 ≤ decimal cs ∧ decimal cs ≤ 599 then
      some (code (decimal cs))
    else none

/-- The status that a key of a response table spells, white space around it aside. -/
def ofKey? (key : String) : Option Status :=
  ofTrimmed? (trim key.toList)

/-- The status as it is displayed. -/
def display : Status → String
  | code n => String.ofList (Nat.toDigits 10 n)
  | hundred d => String.ofList (Nat.toDigits 10 d) ++ "XX"
  | default => "default"

/-- The place of a status in the order: the default last, then codes, then the kind. -/
def rank : Status → Nat × Nat × Nat
  | code n => (0, n, 0)
  | hundred d => (0, 100 * d, 1)
  | default => (1, 0, 0)

/-- The order of statuses. -/
def le (s t : Status) : Bool :=
  let (a, b, c) := s.rank
  let (d, e, f) := t.rank
  a < d || (a == d && (b < e || (b == e && c ≤ f)))

/-- Whether a status counts as an error, from a lowest code on; a hundred counts from its lowest code
and the default is decided on its own. -/
structure Threshold where
  floor : Nat
  defaultIsError : Bool

def Threshold.isError (t : Threshold) : Status → Bool
  | code n => t.floor ≤ n
  | hundred d => t.floor ≤ 100 * d
  | default => t.defaultIsError

end Status

end ApiOperations
