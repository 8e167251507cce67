import BlockLexer.Cursor
import BlockLexer.Line.Basic

/-! # Reading lines

A line reader hands out the lines of a source. It can look ahead any number of lines and merge
lines that belong together. Lines that were looked at stay buffered until they are handed out; a
merge that finds no end gives all of them back.
-/

namespace BlockLexer

/-- The lines of a source that are still to be handed out. -/
structure LineReader where
  settings : Settings
  /-- Lines already cut off the source, in order. -/
  buffer : List Line
  /-- The source behind the buffered lines. -/
  cursor : Cursor
  /-- The block open at the cursor. -/
  openBlock : Option OpenBlock

/-- What a condition on lines answers for one of them. -/
structure Verdict (σ : Type) where
  /-- The line satisfies the condition. -/
  holds : Bool
  /-- The tokens of the line were asked for. -/
  tokenizes : Bool
  /-- What the condition remembers for the next line. -/
  state : σ

namespace LineReader

/-- The lines behind a cursor. -/
def ofCursor (settings : Settings) (cursor : Cursor) : LineReader :=
  ⟨settings, [], cursor, none⟩

/-- The lines of a source. -/
def ofText (settings : Settings) (source : Text) : LineReader :=
  ofCursor settings (Cursor.ofText source)

/-- No line is left. -/
def atEnd (reader : LineReader) : Bool :=
  reader.buffer.isEmpty && reader.cursor.atEnd

/-- Position of the first character of the next line. -/
def position (reader : LineReader) : Position :=
  match reader.buffer with
  | line :: _ => line.start
  | [] => reader.cursor.position

/-- An upper bound for the number of lines that are left. -/
def size (reader : LineReader) : Nat :=
  reader.buffer.length + reader.cursor.rest.length

/-- Cuts the next physical line off the source, if there is one, past what is buffered. -/
def cutLine? (reader : LineReader) : Option (Line × LineReader) :=
  match reader.cursor.readLine? with
  | none => none
  | some (text, final, behind) =>
      let openBlock := OpenBlock.afterLine reader.openBlock text
      let line := Line.single reader.settings text reader.cursor.position final
        reader.cursor.offset behind.offset
      some (line.withBlocks reader.openBlock.isSome openBlock.isSome,
        { reader with cursor := behind, openBlock := openBlock })

/-- Cuts up to `count` more lines off the source and buffers them. -/
def loadMore : Nat → LineReader → LineReader
  | 0, reader => reader
  | count + 1, reader =>
      match reader.cutLine? with
      | none => reader
      | some (line, behind) => loadMore count { behind with buffer := behind.buffer ++ [line] }

/-- Buffers lines until there are `count` of them or the source ends. -/
def load (reader : LineReader) (count : Nat) : LineReader :=
  reader.loadMore (count - reader.buffer.length)

/-- The next line and the reader behind it. -/
def next (reader : LineReader) : Except ReadError (Line × LineReader) :=
  match reader.buffer with
  | line :: buffer => .ok (line, { reader with buffer := buffer })
  | [] =>
      match reader.cutLine? with
      | some (line, behind) => .ok (line, behind)
      | none => .error reader.cursor.endOfInput

/-- The next line, if there is one, and the reader behind it. -/
def next? (reader : LineReader) : Option Line × LineReader :=
  match reader.next with
  | .ok (line, behind) => (some line, behind)
  | .error _ => (none, reader)

/-- The line that comes after `shift` others, which stays to be handed out. -/
def peek (reader : LineReader) (shift : Nat) : Except ReadError Line × LineReader :=
  let loaded := reader.load (shift + 1)
  match loaded.buffer[shift]? with
  | some line => (.ok line, loaded)
  | none => (.error loaded.cursor.endOfInput, loaded)

/-- The tokens of the line that comes after `shift` others. The line stays to be handed out, and
keeps them. -/
def peekTokens (reader : LineReader) (shift : Nat) : Except ReadError (List Token) × LineReader :=
  match reader.peek shift with
  | (.error error, loaded) => (.error error, loaded)
  | (.ok line, loaded) =>
      (line.tokens.mapError ReadError.lexical,
        { loaded with buffer := loaded.buffer.set shift line.tokenized })

/-- Cutting a line leaves less of the source and the same lines buffered. -/
theorem length_of_cutLine? {reader behind : LineReader} {line : Line}
    (hcut : reader.cutLine? = some (line, behind)) :
    behind.cursor.rest.length < reader.cursor.rest.length ∧ behind.buffer = reader.buffer := by
  unfold cutLine? at hcut
  split at hcut
  · contradiction
  · next text final after hread =>
    simp only [Option.some.injEq, Prod.mk.injEq] at hcut
    rw [← hcut.2]
    exact ⟨Cursor.length_rest_of_readLineFrom hread, rfl⟩

/-- Buffering lines does not make more of them. -/
theorem size_loadMore_le (count : Nat) (reader : LineReader) :
    (loadMore count reader).size ≤ reader.size := by
  induction count generalizing reader with
  | zero => exact Nat.le_refl _
  | succ count ih =>
      simp only [loadMore]
      split
      · exact Nat.le_refl _
      · next line behind hcut =>
        obtain ⟨hshorter, hbuffer⟩ := length_of_cutLine? hcut
        refine Nat.le_trans (ih _) ?_
        simp only [size, hbuffer, List.length_append, List.length_cons, List.length_nil]
        omega

/-- Looking ahead does not make more lines. -/
theorem size_peek_le (reader : LineReader) (shift : Nat) :
    (reader.peek shift).2.size ≤ reader.size := by
  simp only [peek, load]
  split <;> exact size_loadMore_le _ _

/-- Handing out a line leaves fewer. -/
theorem size_of_next {reader behind : LineReader} {line : Line}
    (hnext : reader.next = .ok (line, behind)) : behind.size < reader.size := by
  unfold next at hnext
  split at hnext
  · next first buffer hbuffer =>
    simp only [Except.ok.injEq, Prod.mk.injEq] at hnext
    rw [← hnext.2]
    simp only [size, hbuffer, List.length_cons]
    omega
  · split at hnext
    · next hbuffer cut after hcut =>
      simp only [Except.ok.injEq, Prod.mk.injEq] at hnext
      obtain ⟨hshorter, hsame⟩ := length_of_cutLine? hcut
      rw [← hnext.2]
      simp only [size, hsame]
      omega
    · contradiction

/-- All lines that are left and the reader at the end. -/
def takeRest (reader : LineReader) : List Line × LineReader :=
  match _hnext : reader.next with
  | .error _ => ([], reader)
  | .ok (line, behind) => (takeRest behind).map (line :: ·) id
termination_by reader.size
decreasing_by exact size_of_next _hnext

/-- The reader behind up to `count` more lines. -/
def skip (reader : LineReader) : Nat → LineReader
  | 0 => reader
  | count + 1 => (reader.next?).2.skip count

end LineReader

end BlockLexer
