import ApiOperations.Tree.Basic
import ApiOperations.Yaml.Node

/-!
What the scalars of YAML mean. Where a text is wanted every scalar is its text. Otherwise a plain
scalar without a tag is null, a truth value, an integer or a number if it is spelled like one, and a
text if not; a scalar in quotes is a text, and a core tag asks for its type.
-/

namespace ApiOperations.Yaml

open ApiOperations (Binary64)

/-! ### Spellings -/

def isNullWord (s : String) : Bool :=
  s == "null" || s == "Null" || s == "NULL" || s == "~"

def boolWord? (s : String) : Option Bool :=
  if s == "true" || s == "True" || s == "TRUE" then some true
  else if s == "false" || s == "False" || s == "FALSE" then some false
  else none

/-- The value of a digit in a base up to 16. -/
def digit? (base : Nat) (c : Char) : Option Nat :=
  let v :=
    if c.isDigit then some (c.toNat - '0'.toNat)
    else if 'a' ≤ c ∧ c ≤ 'f' then some (c.toNat - 'a'.toNat + 10)
    else if 'A' ≤ c ∧ c ≤ 'F' then some (c.toNat - 'A'.toNat + 10)
    else none
  v.filter (· < base)

/-- The number that digits spell in a base; at least one digit. -/
def digits? (base : Nat) (cs : List Char) : Option Nat :=
  if cs.isEmpty then none else cs.foldlM (fun n c => (digit? base c).map (base * n + ·)) 0

/-- Digits with a zero in front of them, which are a text and not a number. -/
def isPadded (cs : List Char) : Bool :=
  let ds := match cs with
    | '-' :: cs => cs
    | '+' :: cs => cs
    | cs => cs
  1 < ds.length && ds.head? == some '0' && ds.all Char.isDigit

/-- Digits after a prefix that names their base. -/
def based? : List Char → Option Nat
  | '0' :: 'x' :: cs => digits? 16 cs
  | '0' :: 'o' :: cs => digits? 8 cs
  | '0' :: 'b' :: cs => digits? 2 cs
  | _ => none

/-- An integer, with a sign if it has one. -/
def integer? (cs : List Char) : Option Int :=
  match cs with
  | '-' :: ds =>
    match based? ds with
    | some n => some (-n)
    | none => if isPadded cs then none else (digits? 10 ds).map fun n => -n
  | _ =>
    let ds := match cs with
      | '+' :: ds => ds
      | ds => ds
    match based? ds with
    | some n => some n
    | none => if isPadded cs then none else (digits? 10 ds).map fun n => n

/-- A natural number where one is wanted. -/
def natural? (s : String) : Option Nat :=
  match s.toList with
  | '-' :: _ => none
  | cs => (integer? cs).bind fun n => if n < Nat.pow 2 64 then some n.toNat else none

/-- The digits of a decimal fraction and its exponent: digits with a point somewhere, then an exponent
with digits. -/
def decimal? (cs : List Char) : Option (Nat × Int) := do
  let whole := cs.takeWhile Char.isDigit
  let cs := cs.dropWhile Char.isDigit
  let (fraction, cs) := match cs with
    | '.' :: cs => (cs.takeWhile Char.isDigit, cs.dropWhile Char.isDigit)
    | cs => ([], cs)
  let mantissa ← digits? 10 (whole ++ fraction)
  let exponent ← match cs with
    | [] => some 0
    | e :: cs =>
      if e == 'e' || e == 'E' then
        match cs with
        | '-' :: ds => (digits? 10 ds).map fun n => -(n : Int)
        | '+' :: ds => (digits? 10 ds).map fun n => (n : Int)
        | ds => (digits? 10 ds).map fun n => (n : Int)
      else none
  return (mantissa, exponent - fraction.length)

/-- A number that is not spelled as an integer; the nearest binary number counts, and there must be
one. -/
def float? (s : String) : Option Atom :=
  if [".inf", ".Inf", ".INF", "+.inf", "+.Inf", "+.INF", "-.inf", "-.Inf", "-.INF", ".nan", ".NaN",
      ".NAN"].contains s then some .nonFinite
  else
    let (negative, cs) := match s.toList with
      | '-' :: cs => (true, cs)
      | '+' :: cs => (false, cs)
      | cs => (false, cs)
    do
      let (mantissa, exponent) ← decimal? cs
      let (m, q) ← Binary64.ofDecimal mantissa exponent
      return .number (.float ⟨negative, m, q⟩)

/-- An integer of 64 bits; one that only fits 128 bits is refused, and a longer one is none. -/
def integerAtom? (s : String) : Option (Option Atom) :=
  match integer? s.toList with
  | none => none
  | some n =>
    if n = 0 ∧ s.toList.head? = some '-' then some (some .negativeZero)
    else if Json.fitsInteger n then some (some (.number (.int n)))
    else if -(Nat.pow 2 127 : Int) ≤ n && n < Nat.pow 2 128 then some none
    else none

/-! ### Scalars -/

namespace Scalar

/-- A plain scalar by its spelling. -/
def plainAtom? (s : String) : Option Atom :=
  if s.isEmpty || isNullWord s then some .null
  else
    match boolWord? s with
    | some b => some (.bool b)
    | none =>
      match integerAtom? s with
      | some r => r
      | none => if isPadded s.toList then some (.string s) else (float? s).or (some (.string s))

/-- The scalar with its type settled. -/
def atom? (s : Scalar) : Option Atom :=
  match s.tag with
  | some .bool => (boolWord? s.text).map .bool
  | some .int => (integerAtom? s.text).join
  | some .float => float? s.text
  | some .null => if isNullWord s.text then some .null else none
  | some .other => some (.string s.text)
  | some .illegible | none => if s.style = .plain then plainAtom? s.text else some (.string s.text)

/-- Plain, or literal under the tag of the type that is wanted. -/
def mayBe (s : Scalar) (tag : CoreTag) : Bool :=
  s.style = .plain || (s.style = .literal && s.tag = some tag)

/-- Whether a scalar leaves out an optional value. -/
def absent? (s : Scalar) : Option Bool :=
  if s.style ≠ .plain then some false
  else
    match s.tag with
    | none => some (s.text.isEmpty || isNullWord s.text)
    | some .null => if isNullWord s.text then some true else none
    | some _ => some false

def isEmpty (s : Scalar) : Bool :=
  s.text.isEmpty && s.style = .plain

instance : Dialect Scalar where
  text? s := some s.text
  flag? s := if s.mayBe .bool then boolWord? s.text else none
  natural? s := if s.mayBe .int then natural? s.text else none
  absent? := absent?
  isNull s := s.absent? == some true
  isEmpty := isEmpty
  key? s := some (.name s.text)
  atom? := atom?
  positional := false
  variantRecords := false

end Scalar

end ApiOperations.Yaml
