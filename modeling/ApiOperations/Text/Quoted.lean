import ApiOperations.Text.CodePoints
import ApiOperations.Text.Table.Unprintable

/-!
Texts in double quotes, as type labels show them: quotes, backslashes and the usual controls are
escaped with a backslash, and a character that would not show by itself is given by its code point.
-/

namespace ApiOperations.Text

/-- The character shows by itself, outside of escapes. -/
def isPrintable (c : Char) : Bool :=
  if c.toNat < 0x80 then 0x20 ≤ c.toNat && c.toNat < 0x7F
  else !coveredBy Table.joining c.toNat && !coveredBy Table.shapeless c.toNat

/-- The digits of a number to base 16, in lower case. -/
def hexDigits (n : Nat) : List Char :=
  Nat.toDigits 16 n

/-- A character inside of double quotes. -/
def quotedChar (c : Char) : List Char :=
  match c with
  | '\x00' => ['\\', '0']
  | '\t' => ['\\', 't']
  | '\n' => ['\\', 'n']
  | '\r' => ['\\', 'r']
  | '"' => ['\\', '"']
  | '\\' => ['\\', '\\']
  | c => if isPrintable c then [c] else '\\' :: 'u' :: '{' :: (hexDigits c.toNat ++ ['}'])

/-- A text in double quotes. -/
def quoted (cs : List Char) : List Char :=
  '"' :: (cs.flatMap quotedChar ++ ['"'])

end ApiOperations.Text
