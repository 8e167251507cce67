import BlockLexer.Text

/-! # Delimited text

The ends of block comments and of strings. A block comment ends at the first closing delimiter. A
string ends at the first quote of its kind that no backslash escapes, and never crosses a line
end.
-/

namespace BlockLexer.Lexeme

/-- The body of a block comment and the text after it, if the comment is closed. -/
def closeComment? : Text → Option (Text × Text)
  | [] => none
  | '*' :: '/' :: rest => some ([], rest)
  | c :: rest => (closeComment? rest).map fun (body, after) => (c :: body, after)

/-- The outcome of reading a string, seen from before `front`. -/
def pushFront (front : Text) : Except Text (Text × Text) → Except Text (Text × Text)
  | .ok (body, after) => .ok (front ++ body, after)
  | .error body => .error (front ++ body)

/-- The body of a string closed by `mark` and the text after it; for a string that is not closed
on its line, the part of that line that was read. -/
def closeQuote (mark : Char) : Text → Except Text (Text × Text)
  | [] => .error []
  | c :: rest =>
      if c = '\n' then .error []
      else if c = '\\' then
        match rest with
        | [] => .error [c]
        | escaped :: rest =>
            if escaped = '\n' then .error [c]
            else pushFront [c, escaped] (closeQuote mark rest)
      else if c = mark then .ok ([], rest)
      else pushFront [c] (closeQuote mark rest)

/-- Nothing is lost at the end of a comment. -/
theorem eq_of_closeComment? {text body rest : Text}
    (hclosed : closeComment? text = some (body, rest)) :
    text = body ++ '*' :: '/' :: rest := by
  fun_induction closeComment? text generalizing body with
  | case1 => contradiction
  | case2 after => simp_all
  | case3 c tail _ ih =>
      obtain ⟨⟨inner, after⟩, hinner, heq⟩ := Option.map_eq_some_iff.mp hclosed
      obtain ⟨rfl, rfl⟩ := Prod.mk.inj heq
      rw [ih hinner, List.cons_append]

/-- A string that is closed after `front` is closed. -/
theorem ok_of_pushFront {front body rest : Text} {found : Except Text (Text × Text)}
    (hclosed : pushFront front found = .ok (body, rest)) :
    ∃ inner, found = .ok (inner, rest) ∧ body = front ++ inner := by
  rcases found with _ | ⟨inner, after⟩
  · simp only [pushFront, reduceCtorEq] at hclosed
  · simp only [pushFront, Except.ok.injEq, Prod.mk.injEq] at hclosed
    exact ⟨inner, by rw [hclosed.2], hclosed.1.symm⟩

/-- Nothing is lost at the end of a string. -/
theorem eq_of_closeQuote {mark : Char} {text body rest : Text}
    (hclosed : closeQuote mark text = .ok (body, rest)) : text = body ++ mark :: rest := by
  fun_induction closeQuote mark text generalizing body with
  | case1 => contradiction
  | case2 => contradiction
  | case3 => contradiction
  | case4 => contradiction
  | case5 _ escaped tail _ ih =>
      obtain ⟨inner, hinner, rfl⟩ := ok_of_pushFront hclosed
      simp [ih hinner]
  | case6 => simp_all
  | case7 c tail _ _ _ ih =>
      obtain ⟨inner, hinner, rfl⟩ := ok_of_pushFront hclosed
      simp [ih hinner]

end BlockLexer.Lexeme
