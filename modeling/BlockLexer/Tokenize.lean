import BlockLexer.Lexeme.Cut

/-! # Tokenizing a text

Cutting lexemes off a text one after the other, following the position and the indentation of the
current line, gives its tokens or the first error. The opening line of a content block that spans
lines is tokenized in turn; an error there comes before whatever follows the block. The settings
only decide which tokens are returned, never where the text is cut.
-/

namespace BlockLexer

/-- The token of a lexeme that starts at `position` on a line with indentation `level`. -/
def Lexeme.toToken (lexeme : Lexeme) (level : Nat) (position : Position) (children : List Token) :
    Token :=
  ⟨lexeme.kind, lexeme.value, position, position.after lexeme.spell, level, children⟩

/-- The token in front of the others, if the settings keep its kind. -/
def Settings.consKept (settings : Settings) (token : Token) (tokens : List Token) : List Token :=
  if settings.keeps token.kind then token :: tokens else tokens

/-- The tokens of `text`, whose first character is at `position` on a line with indentation
`level`. -/
def tokenizeFrom (settings : Settings) (level : Nat) (position : Position) (text : Text) :
    Except LexicalError (List Token) :=
  match text with
  | [] => .ok []
  | c :: tail =>
      match _hcut : Lexeme.cut level c tail with
      | .error flaw => .error (flaw.locate position)
      | .ok (lexeme, rest) => do
          let children ←
            match _hopening : lexeme.opening? with
            | none => .ok []
            | some opening => tokenizeFrom settings level (position.advance backtick) opening
          let tokens ←
            tokenizeFrom settings (lexeme.levelAfter level rest) (position.after lexeme.spell) rest
          .ok (settings.consKept (lexeme.toToken level position children) tokens)
termination_by text.length
decreasing_by
  · exact Lexeme.length_of_cut _hcut
  · exact Lexeme.length_of_cut_opening _hcut _hopening

/-- The tokens of `text`, whose first character is at `base` and begins a line. -/
def tokenizeAt (settings : Settings) (base : Position) (text : Text) :
    Except LexicalError (List Token) :=
  tokenizeFrom settings (Text.indentation text) base text

/-- The tokens of the opening line of a lexeme that starts at `position`; only a content block
that spans lines has any. -/
def openingTokens (settings : Settings) (level : Nat) (position : Position) (lexeme : Lexeme) :
    Except LexicalError (List Token) :=
  match lexeme.opening? with
  | none => .ok []
  | some opening => tokenizeFrom settings level (position.advance backtick) opening

@[simp]
theorem tokenizeFrom_nil (settings : Settings) (level : Nat) (position : Position) :
    tokenizeFrom settings level position [] = .ok [] := by
  rw [tokenizeFrom]

/-- A flaw at the beginning of a text is the error of the text. -/
theorem tokenizeFrom_of_cut_error {settings : Settings} {level : Nat} {position : Position}
    {c : Char} {text : Text} {flaw : Flaw} (hcut : Lexeme.cut level c text = .error flaw) :
    tokenizeFrom settings level position (c :: text) = .error (flaw.locate position) := by
  rw [tokenizeFrom]
  split
  · simp_all
  · simp_all

/-- After a lexeme come the tokens of its opening line and those of the text behind it. -/
theorem tokenizeFrom_of_cut_ok {settings : Settings} {level : Nat} {position : Position} {c : Char}
    {text rest : Text} {lexeme : Lexeme} (hcut : Lexeme.cut level c text = .ok (lexeme, rest)) :
    tokenizeFrom settings level position (c :: text) =
      (do
        let children ← openingTokens settings level position lexeme
        let tokens ←
          tokenizeFrom settings (lexeme.levelAfter level rest) (position.after lexeme.spell) rest
        .ok (settings.consKept (lexeme.toToken level position children) tokens)) := by
  rw [tokenizeFrom]
  split
  · simp_all
  · next found after hfound =>
    obtain ⟨rfl, rfl⟩ : found = lexeme ∧ after = rest := by simp_all
    simp only [openingTokens]
    split <;> simp_all

end BlockLexer
