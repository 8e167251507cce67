import BlockLexer.Lexeme.Basic

/-! # Open blocks

Content blocks and block comments run across lines. The state between two physical lines is the
block that is open there, if any. Each line is scanned by itself: quoted text and line comments
open nothing, and no string runs past the end of its line.
-/

namespace BlockLexer

/-- A construct that is open at the end of a line. -/
inductive OpenBlock where
  /-- A content block opened on a line with this indentation. -/
  | content (level : Nat)
  /-- A block comment. -/
  | comment
deriving DecidableEq

/-- What the next character of a line belongs to. -/
inductive Surrounding where
  /-- Neither a block nor a string. -/
  | code
  /-- A string that ends with this character. -/
  | string (mark : Char)
  /-- An open block. -/
  | block (opened : OpenBlock)
deriving DecidableEq

namespace Surrounding

/-- The surrounding at the beginning of a line. -/
def ofOpen : Option OpenBlock → Surrounding
  | none => .code
  | some opened => .block opened

/-- The block left open at the end of a line; a string is never left open. -/
def open? : Surrounding → Option OpenBlock
  | .block opened => some opened
  | _ => none

/-- The surrounding after a character outside strings and blocks that begins no comment. -/
def enter (level : Nat) (c : Char) : Surrounding :=
  if c = backtick then .block (.content level)
  else if (Quote.ofChar? c).isSome then .string c
  else .code

end Surrounding

namespace OpenBlock

/-- The block open after the rest of a line with indentation `level`. -/
def scan (level : Nat) : Surrounding → Text → Option OpenBlock
  | surrounding, [] => surrounding.open?
  | .code, '/' :: '/' :: _ => none
  | .code, '/' :: '*' :: rest => scan level (.block .comment) rest
  | .code, c :: rest => scan level (Surrounding.enter level c) rest
  | .string mark, '\\' :: _ :: rest => scan level (.string mark) rest
  | .string mark, c :: rest =>
      scan level (if c = mark ∨ c = '\n' then .code else .string mark) rest
  | .block .comment, '*' :: '/' :: rest => scan level .code rest
  | .block .comment, _ :: rest => scan level (.block .comment) rest
  | .block (.content opener), c :: rest =>
      scan level (if c = backtick ∧ level ≤ opener then .code else .block (.content opener)) rest

/-- The line ends a content block by being indented less, without closing it. -/
def isCutOff (before : Option OpenBlock) (line : Text) : Bool :=
  match before with
  | some (.content opener) => decide (Text.indentation line < opener) && !Text.isBlank line
  | _ => false

/-- The block open after a physical line, when `before` is the one open before it. -/
def afterLine (before : Option OpenBlock) (line : Text) : Option OpenBlock :=
  if isCutOff before line then none
  else scan (Text.indentation line) (Surrounding.ofOpen before) line

end OpenBlock

end BlockLexer
