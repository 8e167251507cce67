import BlockLexer.Cursor
import BlockLexer.Proofs.Position

/-! # Skipping characters and reading lines

What a cursor says about its place after any number of characters, in terms of the text skipped. The
loop that reads a line character by character reads the first physical line of what is left, and
keeps the position of its last character.
-/

namespace BlockLexer.Cursor

theorem skip_succ_cons {cursor : Cursor} {c : Char} {rest : Text} (hrest : cursor.rest = c :: rest)
    (count : Nat) : cursor.skip (count + 1) = (cursor.step c rest).skip count := by
  simp [skip, take, next, hrest]

theorem skip_of_nil {cursor : Cursor} (hrest : cursor.rest = []) (count : Nat) :
    cursor.skip count = cursor := by
  cases count with
  | zero => rfl
  | succ count => simp [skip, take, next, hrest]

/-- Skipping drops characters from the text still to be read. -/
@[simp]
theorem rest_skip (cursor : Cursor) (count : Nat) :
    (cursor.skip count).rest = cursor.rest.drop count := by
  induction count generalizing cursor with
  | zero => rfl
  | succ count ih =>
      cases hrest : cursor.rest with
      | nil => rw [skip_of_nil hrest, hrest, List.drop_nil]
      | cons c rest => rw [skip_succ_cons hrest, ih]; rfl

theorem position_skip (cursor : Cursor) (count : Nat) :
    (cursor.skip count).position = cursor.position.after (cursor.rest.take count) := by
  induction count generalizing cursor with
  | zero => rfl
  | succ count ih =>
      cases hrest : cursor.rest with
      | nil =>
          rw [skip_of_nil hrest]
          rfl
      | cons c rest =>
          rw [skip_succ_cons hrest, ih]
          rfl

theorem offset_skip (cursor : Cursor) (count : Nat) :
    (cursor.skip count).offset = cursor.offset + Text.byteLength (cursor.rest.take count) := by
  induction count generalizing cursor with
  | zero => rfl
  | succ count ih =>
      cases hrest : cursor.rest with
      | nil =>
          rw [skip_of_nil hrest]
          rfl
      | cons c rest =>
          rw [skip_succ_cons hrest, ih]
          exact Nat.add_assoc _ _ _

/-- One step of reading a line: a line feed or the last character ends it. -/
theorem readLineFrom_cons_of_ends (cursor : Cursor) {c : Char} {rest : Text}
    (hends : c = '\n' ∨ rest = []) :
    cursor.readLineFrom (c :: rest) = some ([c], cursor.position, cursor.step c rest) := by
  have hstops : (cursor.step c rest).atLineEnd || (cursor.step c rest).atEnd := by
    simpa [atLineEnd, atEnd, step] using hends
  rw [readLineFrom, if_pos hstops]

/-- One step of reading a line: behind any other character the line goes on. -/
theorem readLineFrom_cons_of_goes (cursor : Cursor) {c : Char} {rest : Text}
    (hc : c ≠ '\n') (hrest : rest ≠ []) :
    cursor.readLineFrom (c :: rest) =
      ((cursor.step c rest).readLineFrom rest).map fun read => (c :: read.1, read.2) := by
  have hgoes : ¬ ((cursor.step c rest).atLineEnd || (cursor.step c rest).atEnd) := by
    simp [atLineEnd, atEnd, step, hc, hrest]
  rw [readLineFrom, if_neg hgoes]
  cases (cursor.step c rest).readLineFrom rest <;> rfl

/-- A cursor reads the first physical line of what is left, and the last character read stands
behind all others of the line. -/
theorem readLine?_of_ne_nil {cursor : Cursor} (hrest : cursor.rest ≠ []) :
    cursor.readLine? =
      some (Text.physicalLine cursor.rest,
        cursor.position.after (Text.physicalLine cursor.rest).dropLast,
        cursor.skip (Text.physicalLine cursor.rest).length) := by
  unfold readLine?
  generalize htext : cursor.rest = text at hrest ⊢
  induction text generalizing cursor with
  | nil => contradiction
  | cons c rest ih =>
      have hskip := skip_succ_cons htext
      by_cases hends : c = '\n' ∨ rest = []
      · have hline : Text.physicalLine (c :: rest) = [c] := by
          rcases hends with rfl | rfl
          · rfl
          · exact ite_self _
        rw [readLineFrom_cons_of_ends cursor hends, hline, List.length_cons, hskip]
        rfl
      · obtain ⟨hc, hmore⟩ := not_or.mp hends
        have hline : Text.physicalLine (c :: rest) = c :: Text.physicalLine rest := if_neg hc
        have hread := @ih (cursor.step c rest) rfl hmore
        rw [readLineFrom_cons_of_goes cursor hc hmore, hread, hline, List.length_cons, hskip,
          List.dropLast_cons_of_ne_nil (mt Text.physicalLine_eq_nil_iff.mp hmore)]
        rfl

/-- The end of the source stays where it is. -/
theorem stop_skip (cursor : Cursor) (count : Nat) :
    (cursor.skip count).position.after (cursor.skip count).rest =
      cursor.position.after cursor.rest := by
  rw [position_skip, rest_skip, ← Position.after_append, List.take_append_drop]

end BlockLexer.Cursor
