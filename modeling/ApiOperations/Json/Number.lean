import ApiOperations.Json.Value

/-!
Reading JSON numbers. The digits of a numeral are gathered into an integer of 64 bits as long as they
fit; digits before the point that do not fit raise the decimal exponent and those after it are
dropped. The gathered integer and the power of ten are each rounded to a binary number, and so is
their product or quotient, so a numeral with many digits may come out a last place away from the
nearest number. A numeral above the greatest binary number is refused.
-/

namespace ApiOperations.Json

/-- The parts of a numeral: digits before and after the point, and a signed exponent. -/
structure Numeral where
  negative : Bool
  whole : List Char
  fraction : Option (List Char)
  exponent : Option (Bool × List Char)

def digitValue (c : Char) : Nat :=
  c.toNat - '0'.toNat

/-- The number that a list of decimal digits spells. -/
def digitsValue (ds : List Char) : Nat :=
  ds.foldl (fun n c => 10 * n + digitValue c) 0

/-- A gathered significand with its decimal exponent. -/
structure Gathered where
  significand : Nat
  exponent : Int

/-- Gather digits before the point; once one does not fit, it and the rest only count. -/
def gatherWhole (acc : Nat) : List Char → Gathered × Bool
  | [] => (⟨acc, 0⟩, true)
  | c :: cs =>
    let next := 10 * acc + digitValue c
    if next < Nat.pow 2 64 then gatherWhole next cs else (⟨acc, cs.length + 1⟩, false)

/-- Gather digits after the point until one does not fit. -/
def gatherFraction (g : Gathered) : List Char → Gathered
  | [] => g
  | c :: cs =>
    let next := 10 * g.significand + digitValue c
    if next < Nat.pow 2 64 then gatherFraction ⟨next, g.exponent - 1⟩ cs else g

/-- The binary number nearest to `10 ^ 308`. -/
def greatestPower : Binary64.Magnitude :=
  (0x11CCF385EBC8A0, 971)

/-- Divide a magnitude by `10 ^ e`, in steps of the greatest power of ten that is finite. -/
def divideByPower (x : Binary64.Magnitude) (e : Nat) : Option Binary64.Magnitude :=
  if x.1 = 0 then some x
  else if e ≤ 308 then do Binary64.div x (← Binary64.ofDecimal 1 e)
  else
    match Binary64.div x greatestPower with
    | none => none
    | some y => divideByPower y (e - 308)
termination_by e

/-- The magnitude that a gathered numeral is read as. -/
def Gathered.magnitude? (g : Gathered) : Option Binary64.Magnitude := do
  let x ← Binary64.ofRatio g.significand 1
  if g.significand = 0 then some x
  else if 308 < g.exponent then none
  else if 0 ≤ g.exponent then Binary64.mul x (← Binary64.ofDecimal 1 g.exponent)
  else divideByPower x (-g.exponent).toNat

/-- The value of a numeral, or nothing if it is too large. -/
def Numeral.number? (t : Numeral) : Option Number :=
  let (g, fits) := gatherWhole 0 t.whole
  let integer : Int := if t.negative then -(g.significand : Int) else g.significand
  if fits && t.fraction.isNone && t.exponent.isNone && fitsInteger integer &&
      !(t.negative && g.significand == 0) then
    some (.int integer)
  else
    let g := match t.fraction with
      | none => g
      | some ds => gatherFraction g ds
    let g := match t.exponent with
      | none => g
      | some (down, ds) =>
        let e : Int := digitsValue ds
        ⟨g.significand, if down then g.exponent - e else g.exponent + e⟩
    g.magnitude?.map fun m => .float ⟨t.negative, m.1, m.2⟩

end ApiOperations.Json
