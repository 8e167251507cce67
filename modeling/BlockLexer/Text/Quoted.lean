import BlockLexer.Text
import BlockLexer.Unicode.Unprintable

/-! # Quoted text

Texts and characters as they stand in messages: between quotes, with short escapes for the common
control characters and hexadecimal escapes for whatever would not show. A quote is escaped only
between quotes of its own kind.
-/

namespace BlockLexer.Text

/-- Lower-case hexadecimal digits without leading zeros. -/
def hexadecimal (code : Nat) : Text :=
  Nat.toDigits 16 code

/-- One character between quotes of the kind `mark`. -/
def escape (mark : Char) (c : Char) : Text :=
  if c = '\x00' then ['\\', '0']
  else if c = '\t' then ['\\', 't']
  else if c = '\r' then ['\\', 'r']
  else if c = '\n' then ['\\', 'n']
  else if c = '\\' ∨ c = mark then ['\\', c]
  else if Unicode.isUnprintable c then
    ['\\', 'u', '\x7b'] ++ hexadecimal c.toNat ++ ['\x7d']
  else [c]

/-- The text between double quotes. -/
def quoted (text : Text) : Text :=
  ['\x22'] ++ text.flatMap (escape '\x22') ++ ['\x22']

/-- One character between single quotes. -/
def quotedChar (c : Char) : Text :=
  ['\x27'] ++ escape '\x27' c ++ ['\x27']

end BlockLexer.Text
