import ApiOperations.Decimal.Binary64

/-!
The fewest decimal digits that read back as a given binary number. For one digit, two digits and so
on, the two neighbours of the number on that decimal grid are tested against the interval of reals
that round to it; the first grid with a hit wins, and of two hits the nearer one. On a tie the even
last digit is taken.
-/

namespace ApiOperations.Decimal

open ApiOperations (Binary64)

/-- The decimal `digits · 10 ^ exponent`. -/
structure Scaled where
  digits : Nat
  exponent : Int
  deriving DecidableEq

/-- Half-open or closed interval of the reals that round to a magnitude, in units of a quarter of
its last place: `4 · significand` lies between `low` and `high`. -/
structure Cell where
  low : Nat
  mid : Nat
  high : Nat
  closed : Bool

/-- The cell of a magnitude. Below a power of two the neighbours are twice as dense. -/
def cell (m : Nat) (q : Int) : Cell :=
  let low := if m = Nat.pow 2 52 ∧ Binary64.minExponent < q then 4 * m - 1 else 4 * m - 2
  ⟨low, 4 * m, 4 * m + 2, m % 2 == 0⟩

def Cell.holds (c : Cell) (x unit : Nat) : Bool :=
  if c.closed then c.low * unit ≤ x && x ≤ c.high * unit
  else c.low * unit < x && x < c.high * unit

/-- A ratio as `num / den` times a power of two and a power of ten, all exponents non-negative. -/
def weights (q : Int) (e : Int) : Nat × Nat :=
  (Nat.pow 2 (q - 2).toNat * Nat.pow 10 (-e).toNat, Nat.pow 2 (2 - q).toNat * Nat.pow 10 e.toNat)

/-- The number's neighbour on the grid of multiples of `10 ^ e` that reads back as the number. -/
def neighbour? (c : Cell) (q e : Int) : Option Nat :=
  let (unit, step) := weights q e
  let value := c.mid * unit
  let below := value / step
  let hitBelow := below ≠ 0 && c.holds (below * step) unit
  let hitAbove := c.holds ((below + 1) * step) unit
  let rest := 2 * (value % step)
  match hitBelow, hitAbove with
  | false, false => none
  | true, false => some below
  | false, true => some (below + 1)
  | true, true =>
    if rest < step then some below
    else if step < rest then some (below + 1)
    else some (below + below % 2)

/-- The first grid with a hit among the `n` grids from `10 ^ e` downwards. -/
def search (c : Cell) (q : Int) : Nat → Int → Option Scaled
  | 0, _ => none
  | n + 1, e =>
    match neighbour? c q e with
    | some d => some ⟨d, e⟩
    | none => search c q n (e - 1)

/-- The decimal without zeros at its end. -/
def stripZeros : Nat → Scaled → Scaled
  | 0, s => s
  | n + 1, s =>
    if s.digits % 10 = 0 ∧ s.digits ≠ 0 then stripZeros n ⟨s.digits / 10, s.exponent + 1⟩ else s

/-- The shortest decimal of a positive magnitude. The search starts above the first digit and stops
after seventeen digits, which always suffice. -/
def shortest (m : Nat) (q : Int) : Scaled :=
  let bits : Int := (Nat.log2 m : Int) + q
  let top := bits * 30103 / 100000 + 2
  match search (cell m q) q 22 top with
  | some s => stripZeros 20 s
  | none => ⟨m, q⟩

end ApiOperations.Decimal
