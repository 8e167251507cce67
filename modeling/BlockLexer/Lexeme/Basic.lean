import BlockLexer.Error
import BlockLexer.Token.Basic

/-! # Lexemes

A lexeme is a piece of text cut off by the lexical rules, before it has a place. `Lexeme.spell`
gives back the exact characters, delimiters included, so a text is the spelling of its lexemes in
order. A flaw is a piece of text that no rule accepts.
-/

namespace BlockLexer

/-- Opens and closes a content block. -/
def backtick : Char := '\x60'

/-- The two marks that delimit a string. -/
inductive Quote where
  | single
  | double
deriving DecidableEq

namespace Quote

/-- The character of a quote. -/
def char : Quote → Char
  | single => '\x27'
  | double => '\x22'

/-- The quote written as `c`, if it is one. -/
def ofChar? (c : Char) : Option Quote :=
  if c = '\x27' then some single
  else if c = '\x22' then some double
  else none

/-- A quote found by its character is written as that character. -/
theorem char_of_ofChar? {c : Char} {quote : Quote} (hquote : ofChar? c = some quote) :
    quote.char = c := by
  unfold ofChar? at hquote
  split at hquote
  · next hsingle => cases hquote; exact hsingle.symm
  · split at hquote
    · next hdouble => cases hquote; exact hdouble.symm
    · contradiction

end Quote

/-- A piece of text that the lexical rules keep together. -/
inductive Lexeme where
  /-- Spaces, tabs and carriage returns. -/
  | spacing (run : Text)
  /-- A line feed. -/
  | newline
  /-- A comment that runs to the end of its line. -/
  | lineComment (body : Text)
  /-- A comment between delimiters. -/
  | blockComment (body : Text)
  | greaterOrEquals
  | lessOrEquals
  /-- A name. -/
  | word (name : Text)
  /-- Digits with separators in order. -/
  | number (format : NumberFormat) (literal : Text)
  /-- A string on one line; escapes are kept as they are written. -/
  | quoted (quote : Quote) (body : Text)
  /-- A content block, with all the text between its backticks. -/
  | content (body : Text)
  | symbol (sign : Symbol)
deriving DecidableEq

namespace Lexeme

/-- The characters of a lexeme. -/
def spell : Lexeme → Text
  | .spacing run => run
  | .newline => ['\n']
  | .lineComment body => ['/', '/'] ++ body
  | .blockComment body => ['/', '*'] ++ body ++ ['*', '/']
  | .greaterOrEquals => ['>', '=']
  | .lessOrEquals => ['<', '=']
  | .word name => name
  | .number _ literal => literal
  | .quoted quote body => [quote.char] ++ body ++ [quote.char]
  | .content body => [backtick] ++ body ++ [backtick]
  | .symbol sign => [sign.char]

/-- The kind of token that a lexeme becomes. -/
def kind : Lexeme → Kind
  | .spacing _ => .whitespace
  | .newline => .newline
  | .lineComment _ => .comment
  | .blockComment _ => .comment
  | .greaterOrEquals => .greaterOrEquals
  | .lessOrEquals => .lessOrEquals
  | .word _ => .identifier
  | .number format _ => .number format
  | .quoted _ _ => .stringLiteral
  | .content _ => .contentBlock
  | .symbol sign => .symbol sign

/-- The value of the token that a lexeme becomes: its text without delimiters and, of a content
block that spans lines, without the opening line. -/
def value : Lexeme → Text
  | .lineComment body => body
  | .blockComment body => body
  | .quoted _ body => body
  | .content body => (Text.afterFirstLine? body).getD body
  | lexeme => lexeme.spell

/-- The opening line of a content block that spans lines, without its backtick. -/
def opening? : Lexeme → Option Text
  | .content body => (Text.afterFirstLine? body).map (fun _ => Text.firstLine body)
  | _ => none

/-- Indentation of the line on which a lexeme ends, when `level` is that of the line on which it
starts and `rest` is the text after it. -/
def levelAfter (lexeme : Lexeme) (level : Nat) (rest : Text) : Nat :=
  if '\n' ∈ lexeme.spell then Text.indentation (Text.lastLine lexeme.spell ++ rest) else level

/-- The opening line is shorter than the block. -/
theorem length_of_opening? {lexeme : Lexeme} {opening : Text}
    (hopening : lexeme.opening? = some opening) : opening.length < lexeme.spell.length := by
  cases lexeme <;> simp only [opening?, Option.map_eq_some_iff, reduceCtorEq] at hopening
  case content body =>
    obtain ⟨_, _, rfl⟩ := hopening
    have := (List.takeWhile_sublist (l := body) (· ≠ '\n')).length_le
    simp only [Text.firstLine, spell, List.length_append, List.length_cons, List.length_nil]
    omega

end Lexeme

/-- A piece of text that is no lexeme. -/
structure Flaw where
  cause : Cause
  /-- What stands between the place where a lexeme was expected and the malformed text. -/
  lead : Text
  /-- The malformed text. -/
  snippet : Text
deriving DecidableEq

/-- The error for a flaw, when a lexeme was expected at `position`. -/
def Flaw.locate (flaw : Flaw) (position : Position) : LexicalError :=
  ⟨flaw.cause, position.after flaw.lead, flaw.snippet⟩

end BlockLexer
