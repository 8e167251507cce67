import BlockLexer.Error

/-! # Cursors

A cursor reads a source character by character. Beside the text still to be read it keeps the byte
offset and the position reached, and the last character read, which tells whether a line has just
ended. A cursor is a value: keeping an old one is enough to go back to it.
-/

namespace BlockLexer

/-- A place in a source. -/
structure Cursor where
  /-- The whole source. -/
  source : Text
  /-- The text still to be read. -/
  rest : Text
  /-- Number of bytes read. -/
  offset : Nat
  /-- Position of the next character. -/
  position : Position
  /-- The last character read. -/
  last? : Option Char

namespace Cursor

/-- The cursor at the beginning of a source. -/
def ofText (source : Text) : Cursor :=
  ⟨source, source, 0, Position.start, none⟩

/-- The cursor at the beginning of an encoded source. -/
def ofBytes (bytes : ByteArray) : Except EncodingError Cursor :=
  match Text.ofBytes? bytes with
  | some source => .ok (ofText source)
  | none => .error .invalidUtf8

/-- Nothing is left to read. -/
def atEnd (cursor : Cursor) : Bool :=
  cursor.rest.isEmpty

/-- The last character read is a line feed. -/
def atLineEnd (cursor : Cursor) : Bool :=
  cursor.last? = some '\n'

/-- The error for reading past the end. -/
def endOfInput (cursor : Cursor) : ReadError :=
  .endOfInput cursor.position

/-- The next character. -/
def peek (cursor : Cursor) : Except ReadError Char :=
  match cursor.rest with
  | [] => .error cursor.endOfInput
  | c :: _ => .ok c

/-- The cursor behind the character `c`, with `rest` still to be read. -/
def step (cursor : Cursor) (c : Char) (rest : Text) : Cursor :=
  { cursor with
    rest := rest
    offset := cursor.offset + c.utf8Size
    position := cursor.position.advance c
    last? := some c }

/-- The next character and the cursor behind it. -/
def next (cursor : Cursor) : Except ReadError (Char × Cursor) :=
  match cursor.rest with
  | [] => .error cursor.endOfInput
  | c :: rest => .ok (c, cursor.step c rest)

/-- The next character, if there is one, and the cursor behind it. -/
def next? (cursor : Cursor) : Option Char × Cursor :=
  match cursor.next with
  | .ok (c, cursor) => (some c, cursor)
  | .error _ => (none, cursor)

/-- Up to `count` characters and the cursor behind them. -/
def take : Nat → Cursor → Text × Cursor
  | 0, cursor => ([], cursor)
  | count + 1, cursor =>
      match cursor.next with
      | .ok (c, cursor) => (take count cursor).map (c :: ·) id
      | .error _ => ([], cursor)

/-- All characters that are left and the cursor at the end. -/
def takeRest (cursor : Cursor) : Text × Cursor :=
  cursor.take cursor.rest.length

/-- The cursor behind up to `count` more characters. -/
def skip (cursor : Cursor) (count : Nat) : Cursor :=
  (cursor.take count).2

/-- Reads `rest` up to a line feed or the end: the characters read, the position of the last of them
and the cursor behind it. -/
def readLineFrom (cursor : Cursor) : Text → Option (Text × Position × Cursor)
  | [] => none
  | c :: rest =>
      let behind := cursor.step c rest
      if behind.atLineEnd || behind.atEnd then some ([c], cursor.position, behind)
      else
        match readLineFrom behind rest with
        | some (text, final, last) => some (c :: text, final, last)
        | none => none

/-- Reads the rest of the line in which the cursor stands, if anything is left to be read. -/
def readLine? (cursor : Cursor) : Option (Text × Position × Cursor) :=
  cursor.readLineFrom cursor.rest

/-- The fewest and the most characters that the bytes still to be read can hold. -/
def sizeBounds (cursor : Cursor) : Nat × Nat :=
  ((Text.byteLength cursor.rest + 3) / 4, Text.byteLength cursor.rest)

/-- A cursor that reads a line has less left to be read. -/
theorem length_rest_of_readLineFrom {cursor behind : Cursor} {rest text : Text} {final : Position}
    (hread : cursor.readLineFrom rest = some (text, final, behind)) :
    behind.rest.length < rest.length := by
  induction rest generalizing cursor text with
  | nil => contradiction
  | cons c rest ih =>
      rw [List.length_cons]
      simp only [readLineFrom] at hread
      split at hread
      · simp only [Option.some.injEq, Prod.mk.injEq] at hread
        obtain ⟨-, -, rfl⟩ := hread
        exact Nat.lt_succ_self _
      · split at hread
        · next read position last hlater =>
          simp only [Option.some.injEq, Prod.mk.injEq] at hread
          obtain ⟨-, rfl, rfl⟩ := hread
          exact Nat.lt_succ_of_lt (ih hlater)
        · contradiction

end Cursor

end BlockLexer
