import ApiOperations.Decimal.Shortest

/-!
The text of a finite binary number: its shortest digits, written positionally while the decimal
exponent is small and with an exponent otherwise.
-/

namespace ApiOperations.Decimal

/-- The choices that a format makes. -/
structure Layout where
  /-- Least exponent of the first digit that is written positionally. -/
  least : Int
  /-- Greatest such exponent. -/
  greatest : Int
  /-- A positive exponent carries a sign. -/
  signed : Bool

/-- Digits and the exponent of the first one, positionally; at least one digit follows the point. -/
def positional (ds : List Char) (k : Int) : List Char :=
  if k < 0 then '0' :: '.' :: (List.replicate (-k - 1).toNat '0' ++ ds)
  else
    let whole := k.toNat + 1
    let pad := ds ++ List.replicate (whole - ds.length) '0'
    let frac := pad.drop whole
    pad.take whole ++ '.' :: (if frac.isEmpty then ['0'] else frac)

/-- Digits and the exponent of the first one, with the point after the first digit. -/
def scientific (layout : Layout) (ds : List Char) (k : Int) : List Char :=
  let mantissa := match ds with
    | [] => []
    | [d] => [d]
    | d :: rest => d :: '.' :: rest
  let mark := if k < 0 then ['e', '-'] else if layout.signed then ['e', '+'] else ['e']
  mantissa ++ mark ++ Nat.toDigits 10 k.natAbs

/-- The text of a magnitude. -/
def magnitude (layout : Layout) (m : Nat) (q : Int) : List Char :=
  if m = 0 then ['0', '.', '0']
  else
    let s := shortest m q
    let ds := Nat.toDigits 10 s.digits
    let k := s.exponent + ds.length - 1
    if layout.least ≤ k ∧ k ≤ layout.greatest then positional ds k else scientific layout ds k

/-- The text of a number. -/
def render (layout : Layout) (x : Binary64) : List Char :=
  let body := magnitude layout x.significand x.exponent
  if x.negative then '-' :: body else body

end ApiOperations.Decimal
