import ApiOperations.Text.CodePoints
import ApiOperations.Text.Table.Alphabetic

/-!
Letters and numerals of all scripts. Inside ASCII the tests are the usual ranges, outside they read
the tables.
-/

namespace ApiOperations.Text

/-- The character has the property Alphabetic. -/
def isAlphabetic (c : Char) : Bool :=
  if c.toNat < 0x80 then c.isAlpha else coveredBy Table.alphabetic c.toNat

/-- The character is a digit, a letter numeral or another number sign. -/
def isNumeric (c : Char) : Bool :=
  if c.toNat < 0x80 then c.isDigit else coveredBy Table.numeric c.toNat

def isAlphanumeric (c : Char) : Bool :=
  isAlphabetic c || isNumeric c

theorem isAlphanumeric_of_ascii {c : Char} (h : c.toNat < 0x80) :
    isAlphanumeric c = c.isAlphanum := by
  simp [isAlphanumeric, isAlphabetic, isNumeric, h, Char.isAlphanum]

end ApiOperations.Text
