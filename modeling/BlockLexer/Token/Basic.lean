import BlockLexer.Position
import BlockLexer.Settings
import BlockLexer.Token.NumberFormat
import BlockLexer.Token.Symbol

/-! # Tokens

A token is a classified piece of text with its two ends and the indentation of the line on which
it starts. Only a content block that spans lines has children: the tokens of its opening line.
-/

namespace BlockLexer

/-- The precise kind of a token. -/
inductive Kind where
  | symbol (sign : Symbol)
  | greaterOrEquals
  | lessOrEquals
  | identifier
  | stringLiteral
  | number (format : NumberFormat)
  | contentBlock
  | comment
  | whitespace
  | newline
deriving DecidableEq

namespace Kind

/-- The broad class of a kind. -/
def category : Kind → Category
  | .symbol sign => sign.category
  | .greaterOrEquals | .lessOrEquals => .operator
  | .identifier => .identifier
  | .stringLiteral => .string
  | .number _ => .number
  | .contentBlock => .contentBlock
  | .comment => .comment
  | .whitespace | .newline => .whitespace

/-- The word for a kind, without what it carries. -/
def name : Kind → String
  | .symbol _ => "Symbol"
  | .greaterOrEquals => "GreaterOrEquals"
  | .lessOrEquals => "LessOrEquals"
  | .identifier => "Identifier"
  | .stringLiteral => "StringLiteral"
  | .number _ => "Number"
  | .contentBlock => "ContentBlock"
  | .comment => "Comment"
  | .whitespace => "Whitespace"
  | .newline => "Newline"

/-- The kind with what it carries in parentheses. -/
def render (kind : Kind) : Text :=
  match kind with
  | .symbol sign => kind.name.toList ++ ['('] ++ sign.name.toList ++ [')']
  | .number format => kind.name.toList ++ ['('] ++ format.render ++ [')']
  | _ => kind.name.toList

/-- Spacing and line ends, which separate tokens and mean nothing else. -/
def isTrivia : Kind → Bool
  | .whitespace | .newline => true
  | _ => false

end Kind

/-- The settings keep tokens of this kind. -/
def Settings.keeps (settings : Settings) : Kind → Bool
  | .whitespace | .newline => settings.keepSpacing
  | .comment => settings.keepComments
  | _ => true

/-- A classified piece of text. -/
structure Token where
  kind : Kind
  /-- The text without delimiters; of a block that spans lines, the part after its opening line.
  -/
  value : Text
  /-- Position of the first character. -/
  start : Position
  /-- Position after the last character. -/
  stop : Position
  /-- Indentation of the line on which the token starts. -/
  level : Nat
  /-- Tokens of the opening line of a content block that spans lines. -/
  children : List Token

namespace Token

mutual

/-- Tokens are compared field by field. -/
def decideEq : (left right : Token) → Decidable (left = right)
  | ⟨kind, value, start, stop, level, children⟩,
    ⟨kind', value', start', stop', level', children'⟩ =>
      if hfields : kind = kind' ∧ value = value' ∧ start = start' ∧ stop = stop' ∧
          level = level' then
        match decideEqList children children' with
        | isTrue hchildren =>
            isTrue (by
              obtain ⟨hkind, hvalue, hstart, hstop, hlevel⟩ := hfields
              rw [hkind, hvalue, hstart, hstop, hlevel, hchildren])
        | isFalse hchildren => isFalse (by rintro ⟨⟩; exact hchildren rfl)
      else isFalse (by rintro ⟨⟩; exact hfields ⟨rfl, rfl, rfl, rfl, rfl⟩)

/-- Lists of tokens are compared token by token. -/
def decideEqList : (left right : List Token) → Decidable (left = right)
  | [], [] => isTrue rfl
  | [], _ :: _ => isFalse (by rintro ⟨⟩)
  | _ :: _, [] => isFalse (by rintro ⟨⟩)
  | token :: tokens, token' :: tokens' =>
      match decideEq token token' with
      | isTrue hhead =>
          match decideEqList tokens tokens' with
          | isTrue htail => isTrue (by rw [hhead, htail])
          | isFalse htail => isFalse (by rintro ⟨⟩; exact htail rfl)
      | isFalse hhead => isFalse (by rintro ⟨⟩; exact hhead rfl)

end

instance : DecidableEq Token := decideEq

/-- The token of a symbol, at indentation zero. -/
def ofSymbol (symbol : Symbol) (start stop : Position) : Token :=
  ⟨.symbol symbol, [symbol.char], start, stop, 0, []⟩

/-- The broad class of a token. -/
def category (token : Token) : Category :=
  token.kind.category

/-- The symbol, of a symbol token. -/
def symbol? (token : Token) : Option Symbol :=
  match token.kind with
  | .symbol symbol => some symbol
  | _ => none

/-- The token is this symbol. -/
def isSymbol (token : Token) (symbol : Symbol) : Bool :=
  token.symbol? = some symbol

/-- The token is spacing or a line end. -/
def isTrivia (token : Token) : Bool :=
  token.kind.isTrivia

/-- Kind, quoted value and the two ends, on one line. Children are left out. -/
def render (token : Token) : String :=
  String.ofList (token.kind.render ++ ['('] ++ Text.quoted token.value ++ [')', '@']) ++
    token.start.render ++ ".." ++ token.stop.render

end Token

end BlockLexer
