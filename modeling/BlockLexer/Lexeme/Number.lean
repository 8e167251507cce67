import BlockLexer.Lexeme.Basic
import BlockLexer.Unicode.Alphanumeric

/-! # Numbers

A number literal is a run of ASCII digits in which single points and commas may stand between
digits. It must not run into a letter, a further numeral or an underscore, and its separators must
be in order.
-/

namespace BlockLexer.Lexeme

/-- Cuts a text that begins with a digit after its longest number literal. A separator belongs to
the literal only if a digit follows it. -/
def spanLiteral : Text → Text × Text
  | [] => ([], [])
  | c :: rest =>
      if c.isDigit || (NumberFormat.isSeparator c && rest.head?.any Char.isDigit) then
        (spanLiteral rest).map (c :: ·) id
      else ([], c :: rest)

/-- `c` may not follow a number directly. -/
def isGlue (c : Char) : Bool :=
  Unicode.isAlphanumeric c || c = '_'

/-- The number at the beginning of a text that begins with a digit. What is glued to a malformed
number is part of the flaw. -/
def cutNumber (text : Text) : Except Flaw (Lexeme × Text) :=
  match spanLiteral text with
  | (literal, rest) =>
      match NumberFormat.ofLiteral? literal, rest.takeWhile isGlue with
      | some format, [] => .ok (.number format literal, rest)
      | _, glued => .error ⟨.invalidNumber, [], literal ++ glued⟩

/-- Nothing is lost at the end of a literal. -/
theorem spanLiteral_append (text : Text) : (spanLiteral text).1 ++ (spanLiteral text).2 = text := by
  induction text with
  | nil => rfl
  | cons c rest ih =>
      simp only [spanLiteral]
      split
      · rw [Prod.map_fst, Prod.map_snd, List.cons_append, id_eq, ih]
      · rfl

/-- A number spells what it was cut off from. -/
theorem cutNumber_spell {text rest : Text} {lexeme : Lexeme}
    (hcut : cutNumber text = .ok (lexeme, rest)) : lexeme.spell ++ rest = text := by
  simp only [cutNumber] at hcut
  split at hcut
  · simp only [Except.ok.injEq, Prod.mk.injEq] at hcut
    rw [← hcut.1, ← hcut.2, spell, spanLiteral_append]
  · contradiction

/-- A number is not empty. -/
theorem cutNumber_ne_nil {c : Char} {text rest : Text} {lexeme : Lexeme} (hdigit : c.isDigit)
    (hcut : cutNumber (c :: text) = .ok (lexeme, rest)) : lexeme.spell ≠ [] := by
  simp only [cutNumber] at hcut
  split at hcut
  · simp only [Except.ok.injEq, Prod.mk.injEq] at hcut
    rw [← hcut.1, spell]
    simp [spanLiteral, hdigit]
  · contradiction

end BlockLexer.Lexeme
