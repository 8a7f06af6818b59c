import ApiOperations.Text.Table.Casing

/-!
Upper and lower case of single characters. A character may become several, so both maps give lists.
-/

namespace ApiOperations.Text

def isLowercase (c : Char) : Bool :=
  if c.toNat < 0x80 then c.isLower else Table.lowercase.any (·.contains c.toNat)

def isUppercase (c : Char) : Bool :=
  if c.toNat < 0x80 then c.isUpper else Table.uppercase.any (·.contains c.toNat)

/-- The image of `c` in the table of shifts, or in the list of exceptions, or `c` itself. -/
def mapped (shifts : List Shift) (exceptions : List (Nat × List Nat)) (c : Char) : List Char :=
  match shiftBy shifts c.toNat with
  | some n => [Char.ofNat n]
  | none =>
    match exceptions.lookup c.toNat with
    | some ns => ns.map Char.ofNat
    | none => [c]

/-- The lower case of a character, without regard to its neighbours. -/
def toLowercase (c : Char) : List Char :=
  if c.toNat < 0x80 then [c.toLower] else mapped Table.toLower Table.toLowerMany c

/-- The upper case of a character. -/
def toUppercase (c : Char) : List Char :=
  if c.toNat < 0x80 then [c.toUpper] else mapped Table.toUpper Table.toUpperMany c

/-- Every character of the text in upper case. -/
def uppercased (s : String) : String :=
  String.ofList (s.toList.flatMap toUppercase)

/-- Equality of two texts up to the case of ASCII letters. -/
def sameIgnoringAsciiCase (s t : List Char) : Bool :=
  s.map Char.toLower == t.map Char.toLower

theorem toLowercase_of_ascii {c : Char} (h : c.toNat < 0x80) : toLowercase c = [c.toLower] := by
  simp [toLowercase, h]

theorem toUppercase_of_ascii {c : Char} (h : c.toNat < 0x80) : toUppercase c = [c.toUpper] := by
  simp [toUppercase, h]

end ApiOperations.Text
