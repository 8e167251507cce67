import BlockLexer.Position
import BlockLexer.Proofs.Text.Lines

/-! # Positions and lines

How a position moves through a text: piece by piece, and one line down for each line feed. The line
of the last character of a text is the one on which the text ends, unless it ends in a line feed.
-/

namespace BlockLexer.Position

/-- The line on which the last character of `text` stands. -/
def lastLine (position : Position) (text : Text) : Nat :=
  (position.after text.dropLast).line

theorem after_append (position : Position) (front text : Text) :
    position.after (front ++ text) = (position.after front).after text :=
  List.foldl_append

/-- Each line feed leads one line down. -/
theorem line_after (position : Position) (text : Text) :
    (position.after text).line = position.line + text.count '\n' := by
  induction text generalizing position with
  | nil => rfl
  | cons c rest ih =>
      rw [after_cons, ih]
      by_cases hc : c = '\n'
      · simp only [advance, hc, if_true, List.count_cons_self]
        omega
      · simp only [advance, hc, if_false, List.count_cons_of_ne hc]

/-- No text leads further down than it has characters. -/
theorem line_after_le (position : Position) (text : Text) :
    (position.after text).line ≤ position.line + text.length := by
  rw [line_after]
  exact Nat.add_le_add_left List.count_le_length _

/-- No text leads further to the right than it has characters. -/
theorem column_after_le (position : Position) (text : Text) :
    (position.after text).column ≤ position.column + text.length := by
  induction text generalizing position with
  | nil => exact Nat.le_refl _
  | cons c rest ih =>
      have hrest := ih (position.advance c)
      have hstep : (position.advance c).column ≤ position.column + 1 := by
        unfold advance
        split
        · exact Nat.zero_le _
        · exact Nat.le_refl _
      rw [after_cons, List.length_cons]
      omega

/-- Behind a line feed a line begins. -/
theorem column_after_concat (position : Position) (text : Text) :
    (position.after (text ++ ['\n'])).column = 0 := by
  rw [after_append]
  rfl

theorem line_le_line_after (position : Position) (text : Text) :
    position.line ≤ (position.after text).line := by
  rw [line_after]
  omega

theorem line_after_of_notMem {text : Text} (hline : '\n' ∉ text) (position : Position) :
    (position.after text).line = position.line := by
  rw [line_after, List.count_eq_zero_of_not_mem hline, Nat.add_zero]

/-- Within a line only the column moves. -/
theorem after_of_notMem {text : Text} (hline : '\n' ∉ text) (position : Position) :
    position.after text = ⟨position.line, position.column + text.length⟩ := by
  induction text generalizing position with
  | nil => rfl
  | cons c rest ih =>
      have hc := List.ne_of_not_mem_cons hline
      have hrest := List.not_mem_of_not_mem_cons hline
      rw [after_cons, ih hrest, advance, if_neg (Ne.symm hc), List.length_cons]
      simp only [Nat.add_assoc, Nat.add_comm 1]

/-- Behind a line feed the column counts the characters of the last line alone. -/
theorem column_after_of_mem {text : Text} (hline : '\n' ∈ text) (position : Position) :
    (position.after text).column = (Text.lastLine text).length := by
  obtain ⟨front, hfront⟩ := Text.exists_eq_append_lastLine hline
  have hafter : position.after text =
      ((position.after front).advance '\n').after (Text.lastLine text) := by
    rw [← after_cons, ← after_append, ← hfront]
  rw [hafter, after_of_notMem (Text.newline_notMem_lastLine text)]
  exact Nat.zero_add _

theorem lastLine_append {text : Text} (htext : text ≠ []) (position : Position) (front : Text) :
    position.lastLine (front ++ text) = (position.after front).lastLine text := by
  rw [lastLine, List.dropLast_append_of_ne_nil htext, after_append]
  rfl

theorem line_le_lastLine (position : Position) (text : Text) :
    position.line ≤ position.lastLine text :=
  line_le_line_after position _

theorem line_after_concat (position : Position) (front : Text) (c : Char) :
    (position.after (front ++ [c])).line =
      position.lastLine (front ++ [c]) + if c = '\n' then 1 else 0 := by
  rw [lastLine, List.dropLast_concat, line_after, line_after, List.count_append,
    List.count_singleton]
  simp only [beq_iff_eq, Nat.add_assoc]

/-- Behind whole lines a new line begins. -/
theorem line_after_of_isWholeLines {text : Text} (hwhole : Text.IsWholeLines text)
    (htext : text ≠ []) (position : Position) :
    (position.after text).line = position.lastLine text + 1 := by
  obtain ⟨front, rfl⟩ := hwhole.exists_concat htext
  rw [line_after_concat, if_pos rfl]

/-- What follows whole lines ends behind their last line. -/
theorem lastLine_lt_line_after {front : Text} (hwhole : Text.IsWholeLines front)
    (hfront : front ≠ []) (position : Position) (text : Text) :
    position.lastLine front < (position.after (front ++ text)).line := by
  have hend := position.line_after_of_isWholeLines hwhole hfront
  have hstop := (position.after front).line_le_line_after text
  rw [after_append]
  omega

theorem line_after_of_not_isWholeLines {text : Text} (hwhole : ¬ Text.IsWholeLines text)
    (position : Position) : (position.after text).line = position.lastLine text := by
  rcases List.eq_nil_or_concat text with rfl | ⟨front, c, rfl⟩
  · exact absurd Text.isWholeLines_nil hwhole
  · rw [List.concat_eq_append] at hwhole ⊢
    have hc : c ≠ '\n' := by
      intro heq
      apply hwhole
      rw [heq]
      exact Text.isWholeLines_concat front
    rw [line_after_concat, if_neg hc, Nat.add_zero]

end BlockLexer.Position
