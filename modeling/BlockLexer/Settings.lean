/-! # Settings

What a tokenizer keeps and whether lines inside open blocks are tokenized on their own.
-/

namespace BlockLexer

/-- Choices that hold for a whole source. -/
structure Settings where
  /-- Spacing and line ends become tokens. -/
  keepSpacing : Bool := false
  /-- Comments become tokens. -/
  keepComments : Bool := true
  /-- A line next to an open block has no tokens of its own. -/
  trackBlocks : Bool := true
  /-- Number of lines and tokens that a reader is expected to hold; no answer depends on it. -/
  lookahead : Nat := 16
deriving DecidableEq

namespace Settings

instance : Inhabited Settings := ⟨{}⟩

/-- Spacing is kept. -/
def withSpacing (settings : Settings) : Settings :=
  { settings with keepSpacing := true }

/-- Comments are dropped. -/
def withoutComments (settings : Settings) : Settings :=
  { settings with keepComments := false }

/-- Every line has tokens of its own. -/
def withoutBlockTracking (settings : Settings) : Settings :=
  { settings with trackBlocks := false }

end Settings

end BlockLexer
