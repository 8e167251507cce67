import BlockLexer.Lexeme.Basic

/-! # Content blocks

A content block opens with a backtick on a line with some indentation. It closes at the first
backtick on that line, or on a later line that is indented no deeper. A later line that is not
blank and is indented less ends the search: the block may not be left that way.
-/

namespace BlockLexer.Lexeme

/-- How the text after an opening backtick goes on. -/
inductive ContentEnd where
  /-- A backtick closes the block after `body`. -/
  | closed (body rest : Text)
  /-- After `lead` comes a line that is indented less than the line of the opening backtick. -/
  | shallow (lead line : Text)
  /-- The text ends inside the block. -/
  | never
deriving DecidableEq

/-- The same end, seen one character earlier. -/
def ContentEnd.push (c : Char) : ContentEnd → ContentEnd
  | .closed body rest => .closed (c :: body) rest
  | .shallow lead line => .shallow (c :: lead) line
  | .never => .never

/-- Looks for the end of a block that was opened on a line with indentation `opener`, from a place
on a line with indentation `current`. -/
def closeContent (opener current : Nat) : Text → ContentEnd
  | [] => .never
  | c :: rest =>
      if c = '\n' then
        if Text.indentation rest < opener ∧ ¬ Text.isBlank (Text.firstLine rest) then
          .shallow [c] (Text.firstLine rest)
        else (closeContent opener (Text.indentation rest) rest).push c
      else if c = backtick ∧ current ≤ opener then .closed [] rest
      else (closeContent opener current rest).push c

/-- Nothing is lost at the end of a block. -/
theorem eq_of_closeContent {opener current : Nat} {text body rest : Text}
    (hclosed : closeContent opener current text = .closed body rest) :
    text = body ++ backtick :: rest := by
  induction text generalizing current body with
  | nil => contradiction
  | cons c tail ih =>
      have push_closed : ∀ {found : ContentEnd}, found.push c = .closed body rest →
          ∃ inner, found = .closed inner rest ∧ body = c :: inner := by
        rintro (⟨inner, after⟩ | _ | _) hpush <;> simp only [ContentEnd.push, reduceCtorEq] at hpush
        obtain ⟨rfl, rfl⟩ := ContentEnd.closed.inj hpush
        exact ⟨inner, rfl, rfl⟩
      simp only [closeContent] at hclosed
      split at hclosed
      · split at hclosed
        · contradiction
        · obtain ⟨inner, hinner, rfl⟩ := push_closed hclosed
          rw [ih hinner, List.cons_append]
      · split at hclosed
        · next hclosing =>
          obtain ⟨rfl, rfl⟩ := ContentEnd.closed.inj hclosed
          rw [hclosing.1, List.nil_append]
        · obtain ⟨inner, hinner, rfl⟩ := push_closed hclosed
          rw [ih hinner, List.cons_append]

end BlockLexer.Lexeme
