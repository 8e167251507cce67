import BlockLexer.Text

/-! # Shared texts

A pool keeps one cell for each text that is entered, and hands out the same cell when the text is
entered again. A text can also be given a cell of its own, which nothing else shares. Handles are
compared by their texts alone.
-/

namespace BlockLexer

/-- A text in a cell. -/
structure Handle where
  text : Text
  /-- Number of the cell. -/
  cell : Nat

namespace Handle

/-- The two handles hold equal texts. -/
def sameText (handle other : Handle) : Bool :=
  handle.text = other.text

/-- Order of the texts. -/
def compare (handle other : Handle) : Ordering :=
  Text.compare handle.text other.text

/-- The two handles use the same cell. -/
def sharesCell (handle other : Handle) : Bool :=
  handle.cell = other.cell

end Handle

/-- The texts entered so far, each with its cell. -/
structure Pool where
  entries : List Handle := []
  /-- Number of cells given out. -/
  cells : Nat := 0

namespace Pool

/-- Enters a text: its cell in the pool, or a new one if the text is not there yet. -/
def enter (pool : Pool) (text : Text) : Handle × Pool :=
  match pool.entries.find? (fun entry => entry.text = text) with
  | some entry => (entry, pool)
  | none =>
      let handle : Handle := ⟨text, pool.cells⟩
      (handle, ⟨pool.entries ++ [handle], pool.cells + 1⟩)

/-- Enters the text that a character makes up. -/
def enterChar (pool : Pool) (c : Char) : Handle × Pool :=
  pool.enter [c]

/-- Gives a text a cell of its own, which the pool does not keep. -/
def enterUnshared (pool : Pool) (text : Text) : Handle × Pool :=
  (⟨text, pool.cells⟩, { pool with cells := pool.cells + 1 })

end Pool

end BlockLexer
