/-!
Finite binary floating-point numbers of 64 bits, as exact pairs of integers. A magnitude is
`significand · 2 ^ exponent` with at most 53 bits; reading a ratio or a decimal gives the nearest
magnitude, of two equally near ones the one with the even significand.
-/

namespace ApiOperations

/-- The number `± significand · 2 ^ exponent`. -/
structure Binary64 where
  negative : Bool
  significand : Nat
  exponent : Int
  deriving DecidableEq, Inhabited

namespace Binary64

/-- A magnitude: significand and exponent. -/
abbrev Magnitude := Nat × Int

/-- The least exponent. -/
def minExponent : Int := -1074

/-- The greatest exponent. -/
def maxExponent : Int := 971

def zero : Magnitude := (0, minExponent)

/-- `num · 2 ^ (-q) / den` as a pair of naturals. -/
def scaled (num den : Nat) (q : Int) : Nat × Nat :=
  if 0 ≤ q then (num, den * Nat.pow 2 q.toNat) else (num * Nat.pow 2 (-q).toNat, den)

/-- The integer nearest to `num / den`; a half goes to the even neighbour. -/
def roundHalfEven (num den : Nat) : Nat :=
  let m := num / den
  let r := num % den
  if 2 * r < den then m
  else if den < 2 * r then m + 1
  else m + m % 2

/-- The magnitude nearest to `num / den`, or nothing above the greatest one. -/
def ofRatio (num den : Nat) : Option Magnitude :=
  if num = 0 ∨ den = 0 then some zero
  else
    let guess : Int := (Nat.log2 num : Int) - Nat.log2 den - 52
    let (n, d) := scaled num den guess
    let q := max minExponent (if n / d < Nat.pow 2 52 then guess - 1 else guess)
    let (n, d) := scaled num den q
    let m := roundHalfEven n d
    let (m, q) := if m = Nat.pow 2 53 then (Nat.pow 2 52, q + 1) else (m, q)
    if maxExponent < q then none else some (m, q)

/-- The magnitude nearest to `digits · 10 ^ exponent`. Far outside of the range no power of ten is
formed. -/
def ofDecimal (digits : Nat) (exponent : Int) : Option Magnitude :=
  if digits = 0 then some zero
  else
    let top := exponent + (Nat.log2 digits : Int) / 3
    if 400 < exponent then none
    else if top < -400 then some zero
    else if 0 ≤ exponent then ofRatio (digits * Nat.pow 10 exponent.toNat) 1
    else ofRatio digits (Nat.pow 10 (-exponent).toNat)

/-- The nearest magnitude to a product. -/
def mul (a b : Magnitude) : Option Magnitude :=
  let (n, d) := scaled (a.1 * b.1) 1 (-(a.2 + b.2))
  ofRatio n d

/-- The nearest magnitude to a quotient. -/
def div (a b : Magnitude) : Option Magnitude :=
  let (n, d) := scaled a.1 b.1 (b.2 - a.2)
  ofRatio n d

end Binary64

end ApiOperations
