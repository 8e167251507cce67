import BlockLexer.Position
import BlockLexer.Text.Quoted

/-! # Errors

A lexical error names its cause, the place of the malformed text and that text. Reading fails with
a lexical error or because the input has ended. The wording of all messages is in this module.
-/

namespace BlockLexer

/-- What is wrong with a malformed piece of text. -/
inductive Cause where
  /-- No lexeme begins with this character. -/
  | unexpectedCharacter (c : Char)
  /-- A string is not closed on its line. -/
  | unterminatedString
  /-- A block comment is never closed. -/
  | unterminatedComment
  /-- A content block is never closed. -/
  | unterminatedContentBlock
  /-- A line inside a content block is indented less than the line that opened it. -/
  | unexpectedIndentation
  /-- A number has letters glued to it or separators out of order. -/
  | invalidNumber
deriving DecidableEq

/-- The wording of a cause. -/
def Cause.message : Cause → String
  | .unexpectedCharacter c => "unexpected character " ++ String.ofList (Text.quotedChar c)
  | .unterminatedString => "unterminated string literal"
  | .unterminatedComment => "unterminated block comment"
  | .unterminatedContentBlock => "unterminated content block"
  | .unexpectedIndentation => "unexpected indentation level"
  | .invalidNumber => "invalid number"

/-- A malformed piece of text and its place. -/
structure LexicalError where
  cause : Cause
  position : Position
  snippet : Text
deriving DecidableEq

/-- The cause, the place and the quoted text. -/
def LexicalError.message (error : LexicalError) : String :=
  error.cause.message ++ " at " ++ error.position.render ++ ": " ++
    String.ofList (Text.quoted error.snippet)

/-- Why a reader has nothing to return. -/
inductive ReadError where
  /-- The input ends at this position. -/
  | endOfInput (position : Position)
  /-- The input is malformed. -/
  | lexical (error : LexicalError)
deriving DecidableEq

namespace ReadError

/-- The wording of a read error. -/
def message : ReadError → String
  | .endOfInput position => "unexpected end of input at " ++ position.render
  | .lexical error => error.message

/-- The place at which reading failed. -/
def position : ReadError → Position
  | .endOfInput position => position
  | .lexical error => error.position

/-- Reading failed only because nothing is left. -/
def isEndOfInput : ReadError → Bool
  | .endOfInput _ => true
  | .lexical _ => false

end ReadError

/-- The bytes of a source are not valid UTF-8. -/
inductive EncodingError where
  | invalidUtf8
deriving DecidableEq

/-- The wording of an encoding error. -/
def EncodingError.message : EncodingError → String
  | .invalidUtf8 => "stream did not contain valid UTF-8"

end BlockLexer
