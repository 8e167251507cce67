import BlockLexer.Block
import BlockLexer.Tokenize

/-! # Lines

A line is a physical line of a source, or several of them merged. It knows where it stands, which
blocks are open around it, and whether its tokens have been asked for before. A skipped line has
no tokens.
-/

namespace BlockLexer

/-- Consecutive physical lines of a source. -/
structure Line where
  settings : Settings
  /-- The characters, line feeds included. -/
  text : Text
  /-- Position of the first character. -/
  start : Position
  /-- Position of the last character. -/
  final : Position
  /-- Number of physical lines. -/
  span : Nat
  /-- Byte offset of the first character in the source. -/
  offset : Nat
  /-- Byte offset after the last character in the source. -/
  stopOffset : Nat
  /-- A block is open before the first character. -/
  startsInBlock : Bool
  /-- A block is open after the last character. -/
  endsInBlock : Bool
  /-- The line is not tokenized. -/
  skipped : Bool
  /-- The tokens, or the error, once they have been asked for. -/
  cache : Option (Except LexicalError (List Token))

namespace Line

/-- The line opens a block and leaves it open. -/
def opensBlock (line : Line) : Bool :=
  !line.startsInBlock && line.endsInBlock

/-- Number of leading tabs. -/
def indentation (line : Line) : Nat :=
  Text.indentation line.text

/-- The tokens have been asked for before. -/
def isTokenized (line : Line) : Bool :=
  line.cache.isSome

/-- The tokens as computed from the text; a skipped line has none. -/
def freshTokens (line : Line) : Except LexicalError (List Token) :=
  if line.skipped then .ok [] else tokenizeAt line.settings line.start line.text

/-- The tokens, from the cache if they have been asked for before. -/
def tokens (line : Line) : Except LexicalError (List Token) :=
  line.cache.getD line.freshTokens

/-- The line after its tokens have been asked for. -/
def tokenized (line : Line) : Line :=
  { line with cache := some line.tokens }

/-- The line with another choice about skipping, and its tokens to be computed anew. -/
def withSkipped (line : Line) (skipped : Bool) : Line :=
  { line with skipped := skipped, cache := none }

/-- With block tracking, a unit next to an open block is skipped. -/
def skips (settings : Settings) (startsInBlock endsInBlock : Bool) : Bool :=
  settings.trackBlocks && (startsInBlock || endsInBlock)

/-- One physical line, away from all blocks. -/
def single (settings : Settings) (text : Text) (start final : Position)
    (offset stopOffset : Nat) : Line where
  settings := settings
  text := text
  start := start
  final := final
  span := 1
  offset := offset
  stopOffset := stopOffset
  startsInBlock := false
  endsInBlock := false
  skipped := false
  cache := none

/-- The line with what is known about blocks around it, which decides whether it is skipped. -/
def withBlocks (line : Line) (startsInBlock endsInBlock : Bool) : Line :=
  { line with
    startsInBlock := startsInBlock
    endsInBlock := endsInBlock }.withSkipped (skips line.settings startsInBlock endsInBlock)

/-- A line and the line that follows it as one. -/
def merge (line next : Line) : Line where
  settings := line.settings
  text := line.text ++ next.text
  start := line.start
  final := next.final
  span := line.span + next.span
  offset := line.offset
  stopOffset := next.stopOffset
  startsInBlock := line.startsInBlock
  endsInBlock := next.endsInBlock
  skipped := skips line.settings line.startsInBlock next.endsInBlock
  cache := none

/-- A line and all that follow it as one. -/
def mergeAll (line : Line) (following : List Line) : Line :=
  following.foldl merge line

/-- Two lines are the same if they stand in the same place, hold the same text and are both
skipped or both not; what has been asked of them does not count. -/
def same (line other : Line) : Bool :=
  line.start = other.start && line.final = other.final && line.span = other.span &&
    line.skipped = other.skipped && line.text = other.text

/-- A position with its two numbers named. -/
def describePosition (position : Position) : String :=
  "Position \x7b line: " ++ position.line.repr ++ ", column: " ++ position.column.repr ++ " \x7d"

/-- The fields by which lines are compared. -/
def describe (line : Line) : String :=
  "Line \x7b start: " ++ describePosition line.start ++ ", end: " ++ describePosition line.final ++
    ", span: " ++ line.span.repr ++ ", value: " ++ String.ofList (Text.quoted line.text) ++
    ", skip_parsing: " ++ (if line.skipped then "true" else "false") ++ " \x7d"

end Line

end BlockLexer
