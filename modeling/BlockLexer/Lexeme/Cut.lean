import BlockLexer.Lexeme.Content
import BlockLexer.Lexeme.Delimited
import BlockLexer.Lexeme.Number

/-! # Cutting off a lexeme

`Lexeme.cut` cuts the first lexeme off a text, as long as the rules allow, and returns the text
after it. `cut_spell` says that the lexeme spells exactly what was cut off, so each cut leaves
less to read.
-/

namespace BlockLexer.Lexeme

/-- `c` is a space, a tab or a carriage return. -/
def isSpacing (c : Char) : Bool :=
  c = ' ' || c = '\t' || c = '\r'

/-- `c` may continue a word. -/
def isWordPart (c : Char) : Bool :=
  Unicode.isLetter c || Unicode.isNumeral c || c = '_'

/-- The string after its opening quote. -/
def cutString (quote : Quote) (text : Text) : Except Flaw (Lexeme × Text) :=
  match closeQuote quote.char text with
  | .ok (body, rest) => .ok (.quoted quote body, rest)
  | .error body => .error ⟨.unterminatedString, [], quote.char :: body⟩

/-- The block comment after its opening delimiter. -/
def cutComment (text : Text) : Except Flaw (Lexeme × Text) :=
  match closeComment? text with
  | some (body, rest) => .ok (.blockComment body, rest)
  | none => .error ⟨.unterminatedComment, [], ['/', '*'] ++ text⟩

/-- The content block after its opening backtick, on a line with indentation `level`. -/
def cutContent (level : Nat) (text : Text) : Except Flaw (Lexeme × Text) :=
  match closeContent level level text with
  | .closed body rest => .ok (.content body, rest)
  | .shallow lead line => .error ⟨.unexpectedIndentation, backtick :: lead, line⟩
  | .never => .error ⟨.unterminatedContentBlock, [], backtick :: text⟩

/-- The lexeme that begins with the punctuation mark `c`: a comment, a comparison of two
characters or a single symbol. -/
def cutPunctuation (c : Char) (text : Text) : Except Flaw (Lexeme × Text) :=
  match c, text with
  | '/', '/' :: rest => .ok (.lineComment (Text.firstLine rest), rest.dropWhile (· ≠ '\n'))
  | '/', '*' :: rest => cutComment rest
  | '>', '=' :: rest => .ok (.greaterOrEquals, rest)
  | '<', '=' :: rest => .ok (.lessOrEquals, rest)
  | _, _ =>
      match Symbol.ofChar? c with
      | some sign => .ok (.symbol sign, text)
      | none => .error ⟨.unexpectedCharacter c, [], [c]⟩

/-- The first lexeme of the text `c :: text`, which stands on a line with indentation `level`, and
the text after it. -/
def cut (level : Nat) (c : Char) (text : Text) : Except Flaw (Lexeme × Text) :=
  if isSpacing c then
    .ok (.spacing (c :: text.takeWhile isSpacing), text.dropWhile isSpacing)
  else if c = '\n' then .ok (.newline, text)
  else if Unicode.isLetter c then
    .ok (.word (c :: text.takeWhile isWordPart), text.dropWhile isWordPart)
  else if c.isDigit then cutNumber (c :: text)
  else if c = backtick then cutContent level text
  else
    match Quote.ofChar? c with
    | some quote => cutString quote text
    | none => cutPunctuation c text

/-- A string spells what it was cut off from. -/
theorem cutString_spell {quote : Quote} {text rest : Text} {lexeme : Lexeme}
    (hcut : cutString quote text = .ok (lexeme, rest)) :
    lexeme.spell ++ rest = quote.char :: text := by
  unfold cutString at hcut
  split at hcut
  · next body after hclosed =>
    simp only [Except.ok.injEq, Prod.mk.injEq] at hcut
    rw [← hcut.1, ← hcut.2, eq_of_closeQuote hclosed]
    simp [spell]
  · contradiction

/-- A block comment spells what it was cut off from. -/
theorem cutComment_spell {text rest : Text} {lexeme : Lexeme}
    (hcut : cutComment text = .ok (lexeme, rest)) :
    lexeme.spell ++ rest = '/' :: '*' :: text := by
  unfold cutComment at hcut
  split at hcut
  · next body after hclosed =>
    simp only [Except.ok.injEq, Prod.mk.injEq] at hcut
    rw [← hcut.1, ← hcut.2, eq_of_closeComment? hclosed]
    simp [spell]
  · contradiction

/-- A content block spells what it was cut off from. -/
theorem cutContent_spell {level : Nat} {text rest : Text} {lexeme : Lexeme}
    (hcut : cutContent level text = .ok (lexeme, rest)) :
    lexeme.spell ++ rest = backtick :: text := by
  unfold cutContent at hcut
  split at hcut
  · next body after hclosed =>
    simp only [Except.ok.injEq, Prod.mk.injEq] at hcut
    rw [← hcut.1, ← hcut.2, eq_of_closeContent hclosed]
    simp [spell]
  · contradiction
  · contradiction

/-- A comment, comparison or symbol spells what it was cut off from. -/
theorem cutPunctuation_spell {c : Char} {text rest : Text} {lexeme : Lexeme}
    (hcut : cutPunctuation c text = .ok (lexeme, rest)) : lexeme.spell ++ rest = c :: text := by
  unfold cutPunctuation at hcut
  split at hcut
  · next tail =>
    simp only [Except.ok.injEq, Prod.mk.injEq] at hcut
    rw [← hcut.1, ← hcut.2]
    simp [spell, Text.firstLine]
  · exact cutComment_spell hcut
  · simp only [Except.ok.injEq, Prod.mk.injEq] at hcut
    rw [← hcut.1, ← hcut.2]
    rfl
  · simp only [Except.ok.injEq, Prod.mk.injEq] at hcut
    rw [← hcut.1, ← hcut.2]
    rfl
  · split at hcut
    · next sign hsign =>
      simp only [Except.ok.injEq, Prod.mk.injEq] at hcut
      rw [← hcut.1, ← hcut.2, spell, Symbol.char_of_ofChar? hsign]
      rfl
    · contradiction

/-- The first lexeme spells what it was cut off from. -/
theorem cut_spell {level : Nat} {c : Char} {text rest : Text} {lexeme : Lexeme}
    (hcut : cut level c text = .ok (lexeme, rest)) : lexeme.spell ++ rest = c :: text := by
  unfold cut at hcut
  split at hcut
  · simp only [Except.ok.injEq, Prod.mk.injEq] at hcut
    rw [← hcut.1, ← hcut.2]
    simp [spell]
  split at hcut
  · next hnewline =>
    simp only [Except.ok.injEq, Prod.mk.injEq] at hcut
    rw [← hcut.1, ← hcut.2, hnewline]
    rfl
  split at hcut
  · simp only [Except.ok.injEq, Prod.mk.injEq] at hcut
    rw [← hcut.1, ← hcut.2]
    simp [spell]
  split at hcut
  · exact cutNumber_spell hcut
  split at hcut
  · next hbacktick => rw [hbacktick]; exact cutContent_spell hcut
  split at hcut
  · next quote hquote => rw [← Quote.char_of_ofChar? hquote]; exact cutString_spell hcut
  · exact cutPunctuation_spell hcut

/-- A comment, comparison or symbol is not empty. -/
theorem cutPunctuation_ne_nil {c : Char} {text rest : Text} {lexeme : Lexeme}
    (hcut : cutPunctuation c text = .ok (lexeme, rest)) : lexeme.spell ≠ [] := by
  unfold cutPunctuation at hcut
  split at hcut
  · cases hcut; simp [spell]
  · unfold cutComment at hcut
    split at hcut <;> cases hcut
    simp [spell]
  · cases hcut; simp [spell]
  · cases hcut; simp [spell]
  · split at hcut <;> cases hcut
    simp [spell]

/-- No lexeme is empty. -/
theorem cut_ne_nil {level : Nat} {c : Char} {text rest : Text} {lexeme : Lexeme}
    (hcut : cut level c text = .ok (lexeme, rest)) : lexeme.spell ≠ [] := by
  unfold cut at hcut
  split at hcut
  · cases hcut; simp [spell]
  split at hcut
  · cases hcut; simp [spell]
  split at hcut
  · cases hcut; simp [spell]
  split at hcut
  · next hdigit => exact cutNumber_ne_nil hdigit hcut
  split at hcut
  · unfold cutContent at hcut
    split at hcut <;> cases hcut
    simp [spell]
  split at hcut
  · unfold cutString at hcut
    split at hcut <;> cases hcut
    simp [spell]
  · exact cutPunctuation_ne_nil hcut

/-- A cut leaves less to read. -/
theorem length_of_cut {level : Nat} {c : Char} {text rest : Text} {lexeme : Lexeme}
    (hcut : cut level c text = .ok (lexeme, rest)) : rest.length < (c :: text).length := by
  have hpositive := List.length_pos_iff.mpr (cut_ne_nil hcut)
  rw [← cut_spell hcut, List.length_append]
  omega

/-- The opening line of a content block is shorter than the text that the block was cut off from.
-/
theorem length_of_cut_opening {level : Nat} {c : Char} {text rest opening : Text} {lexeme : Lexeme}
    (hcut : cut level c text = .ok (lexeme, rest)) (hopening : lexeme.opening? = some opening) :
    opening.length < (c :: text).length := by
  have hshorter := length_of_opening? hopening
  rw [← cut_spell hcut, List.length_append]
  omega

end BlockLexer.Lexeme
