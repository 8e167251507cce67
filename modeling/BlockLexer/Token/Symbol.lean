/-! # Symbols

The closed table of single-character symbols. Each symbol is an operator or punctuation.
-/

namespace BlockLexer

/-- Broad class of a token, the level at which most grammar rules look at it. -/
inductive Category where
  | operator
  | punctuation
  | identifier
  | string
  | number
  | contentBlock
  | comment
  | whitespace
deriving DecidableEq

/-- The word for a category. -/
def Category.name : Category → String
  | .operator => "Operator"
  | .punctuation => "Punctuation"
  | .identifier => "Identifier"
  | .string => "String"
  | .number => "Number"
  | .contentBlock => "ContentBlock"
  | .comment => "Comment"
  | .whitespace => "Whitespace"

/-- A symbol written as one character. -/
inductive Symbol where
  | plus
  | minus
  | asterisk
  | equals
  | greater
  | less
  | exclamation
  | percent
  | power
  | ampersand
  | pipe
  | tilde
  | slash
  | backslash
  | semicolon
  | comma
  | dot
  | colon
  | openCurly
  | closeCurly
  | openSquare
  | closeSquare
  | openParenthesis
  | closeParenthesis
  | atSign
  | hash
  | underscore
  | dollar
  | question
deriving DecidableEq

namespace Symbol

/-- Every symbol, operators first. -/
def all : List Symbol :=
  [plus, minus, asterisk, equals, greater, less, exclamation, percent, power, ampersand, pipe,
   tilde, slash, backslash, semicolon, comma, dot, colon, openCurly, closeCurly, openSquare,
   closeSquare, openParenthesis, closeParenthesis, atSign, hash, underscore, dollar, question]

/-- The character that a symbol is written as. -/
def char : Symbol → Char
  | plus => '+'
  | minus => '-'
  | asterisk => '*'
  | equals => '='
  | greater => '>'
  | less => '<'
  | exclamation => '!'
  | percent => '%'
  | power => '^'
  | ampersand => '&'
  | pipe => '|'
  | tilde => '~'
  | slash => '/'
  | backslash => '\\'
  | semicolon => ';'
  | comma => ','
  | dot => '.'
  | colon => ':'
  | openCurly => '\x7b'
  | closeCurly => '\x7d'
  | openSquare => '['
  | closeSquare => ']'
  | openParenthesis => '('
  | closeParenthesis => ')'
  | atSign => '@'
  | hash => '#'
  | underscore => '_'
  | dollar => '$'
  | question => '?'

/-- The word for a symbol. -/
def name : Symbol → String
  | plus => "Plus"
  | minus => "Minus"
  | asterisk => "Asterisk"
  | equals => "Equals"
  | greater => "Greater"
  | less => "Less"
  | exclamation => "Exclamation"
  | percent => "Percent"
  | power => "Power"
  | ampersand => "Ampersand"
  | pipe => "Pipe"
  | tilde => "Tilde"
  | slash => "ForwardSlash"
  | backslash => "Backslash"
  | semicolon => "SemiColon"
  | comma => "Comma"
  | dot => "Dot"
  | colon => "Colon"
  | openCurly => "OpenCurlyBrace"
  | closeCurly => "CloseCurlyBrace"
  | openSquare => "OpenSquareBrace"
  | closeSquare => "CloseSquareBrace"
  | openParenthesis => "OpenParenthesis"
  | closeParenthesis => "CloseParenthesis"
  | atSign => "At"
  | hash => "HashPound"
  | underscore => "Underscore"
  | dollar => "Dollar"
  | question => "Question"

/-- Whether a symbol is an operator or punctuation. -/
def category : Symbol → Category
  | plus | minus | asterisk | equals | greater | less | exclamation | percent | power | ampersand
  | pipe | tilde => .operator
  | _ => .punctuation

/-- The symbol written as `c`, if there is one. -/
def ofChar? (c : Char) : Option Symbol :=
  all.find? (fun symbol => symbol.char = c)

/-- The symbol with this name, if there is one. -/
def ofName? (name : String) : Option Symbol :=
  all.find? (fun symbol => symbol.name = name)

/-- A symbol found by its character is written as that character. -/
theorem char_of_ofChar? {c : Char} {symbol : Symbol} (hsymbol : ofChar? c = some symbol) :
    symbol.char = c := by
  simpa using List.find?_some hsymbol

/-- Every symbol is found by its own character. -/
theorem ofChar?_char (symbol : Symbol) : ofChar? symbol.char = some symbol := by
  cases symbol <;> rfl

end Symbol

end BlockLexer
