import BlockLexer.Text

/-! # Positions

A position is a place in a text: a line, counted from one, and a column, counted in characters
from zero. Positions are ordered by line and then by column.
-/

namespace BlockLexer

/-- A place between the characters of a text. Line and column are unbounded here, while a program
keeps each of them in a machine word. No address in a text comes near the bound: from the start of a
text, the line moves down at most once for each character (`Position.line_after_le`), the column
counts at most all characters (`Position.column_after_le`), and a text in memory has fewer of them
than a word can count. -/
structure Position where
  line : Nat
  column : Nat
deriving DecidableEq

namespace Position

/-- The place before the first character. -/
def start : Position := ⟨1, 0⟩

/-- The place after `c`: a line feed begins a new line, any other character takes one column. -/
def advance (position : Position) (c : Char) : Position :=
  if c = '\n' then ⟨position.line + 1, 0⟩ else ⟨position.line, position.column + 1⟩

/-- The place after all of `text`. -/
def after (position : Position) (text : Text) : Position :=
  text.foldl advance position

/-- `line:column` in decimal. -/
def render (position : Position) : String :=
  position.line.repr ++ ":" ++ position.column.repr

instance : Inhabited Position := ⟨start⟩

instance : LT Position :=
  ⟨fun p q => p.line < q.line ∨ (p.line = q.line ∧ p.column < q.column)⟩

instance : LE Position :=
  ⟨fun p q => p.line < q.line ∨ (p.line = q.line ∧ p.column ≤ q.column)⟩

instance (p q : Position) : Decidable (p < q) :=
  inferInstanceAs (Decidable (p.line < q.line ∨ (p.line = q.line ∧ p.column < q.column)))

instance (p q : Position) : Decidable (p ≤ q) :=
  inferInstanceAs (Decidable (p.line < q.line ∨ (p.line = q.line ∧ p.column ≤ q.column)))

instance : Ord Position := ⟨fun p q => compareOfLessAndEq p q⟩

/-- The positions from first to last. -/
def sorted (positions : List Position) : List Position :=
  positions.mergeSort (fun p q => p ≤ q)

@[simp]
theorem after_nil (position : Position) : position.after [] = position := rfl

@[simp]
theorem after_cons (position : Position) (c : Char) (rest : Text) :
    position.after (c :: rest) = (position.advance c).after rest := rfl

end Position

end BlockLexer
