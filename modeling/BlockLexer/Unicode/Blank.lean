import BlockLexer.Unicode.Ranges

/-! # Blank characters

The characters with the White_Space property. A line of these alone is blank, whatever its
indentation.
-/

namespace BlockLexer.Unicode

/-- The blank characters. -/
def blanks : Ranges where
  bounds :=
    [(0x9, 0xD), (0x20, 0x20), (0x85, 0x85), (0xA0, 0xA0), (0x1680, 0x1680), (0x2000, 0x200A),
     (0x2028, 0x2029), (0x202F, 0x202F), (0x205F, 0x205F), (0x3000, 0x3000)]
  increasing := by decide +kernel

/-- `c` is blank. -/
def isBlank (c : Char) : Bool :=
  blanks.contains c

end BlockLexer.Unicode
