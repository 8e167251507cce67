import Mathlib.Data.List.Infix
import BlockLexer.Lexeme.Basic
import BlockLexer.Lexeme.Delimited

/-! # What may stand between delimiters

A block comment ends at the first closing delimiter. The body of a string is a sequence of plain
and escaped characters, none of them a line feed, so the quote that closes it is determined.
-/

namespace BlockLexer.Lexeme

/-- The delimiter that closes a block comment. -/
def commentClose : Text := ['*', '/']

/-- What may stand between two quotes written as `mark`. -/
inductive IsQuotedBody (mark : Char) : Text → Prop
  | nil : IsQuotedBody mark []
  | escaped {c : Char} {body : Text} :
      c ≠ '\n' → IsQuotedBody mark body → IsQuotedBody mark ('\\' :: c :: body)
  | plain {c : Char} {body : Text} :
      c ≠ '\n' → c ≠ '\\' → c ≠ mark → IsQuotedBody mark body → IsQuotedBody mark (c :: body)

section Comment

theorem commentClose_infix_cons {c : Char} {text : Text} :
    commentClose <:+: c :: text ↔ (c = '*' ∧ text.head? = some '/') ∨ commentClose <:+: text := by
  rw [List.infix_cons_iff]
  apply or_congr_left
  cases text with
  | nil => simp [commentClose]
  | cons d rest => simp [commentClose, eq_comm]

/-- The condition under which `closeComment?` passes over a character. -/
theorem not_closing_of_ne {c : Char} {text : Text}
    (hopen : ∀ after, c = '*' → text = '/' :: after → False) :
    ¬ (c = '*' ∧ text.head? = some '/') := by
  intro hcloses
  obtain ⟨after, hafter⟩ := List.head?_eq_some_iff.mp hcloses.2
  exact hopen after hcloses.1 hafter

theorem closeComment?_eq_some_iff {text body rest : Text} :
    closeComment? text = some (body, rest) ↔
      text = body ++ '*' :: '/' :: rest ∧ ¬ commentClose <:+: body := by
  fun_induction closeComment? text generalizing body with
  | case1 => simp
  | case2 after =>
      constructor
      · intro hclosed
        obtain ⟨rfl, rfl⟩ := Prod.mk.inj (Option.some.inj hclosed)
        exact ⟨rfl, by decide⟩
      · intro hsplit
        obtain ⟨htext, hbody⟩ := hsplit
        -- A longer body would hold the delimiter that stands here.
        rcases body with _ | ⟨first, _ | ⟨second, inner⟩⟩
        · rw [(List.cons.inj (List.cons.inj htext).2).2]
        · exact absurd (List.cons.inj (List.cons.inj htext).2).1 (by decide)
        · have hfirst := (List.cons.inj htext).1
          have hsecond := (List.cons.inj (List.cons.inj htext).2).1
          rw [← hfirst, ← hsecond] at hbody
          exact absurd (List.prefix_append commentClose inner).isInfix hbody
  | case3 c tail hopen ih =>
      have hnot := not_closing_of_ne hopen
      rw [Option.map_eq_some_iff]
      constructor
      · intro hexists
        obtain ⟨⟨inner, after⟩, hinner, heq⟩ := hexists
        obtain ⟨rfl, rfl⟩ := Prod.mk.inj heq
        obtain ⟨rfl, hbody⟩ := ih.mp hinner
        refine ⟨rfl, ?_⟩
        rw [commentClose_infix_cons, not_or]
        refine ⟨?_, hbody⟩
        intro hcloses
        apply hnot
        refine ⟨hcloses.1, ?_⟩
        rw [List.head?_append, hcloses.2]
        rfl
      · intro hsplit
        obtain ⟨htext, hbody⟩ := hsplit
        rcases List.cons_eq_append_iff.mp htext with ⟨rfl, heq⟩ | ⟨inner, rfl, htail⟩
        · obtain ⟨rfl, rfl⟩ := List.cons.inj heq
          exact absurd ⟨rfl, rfl⟩ hnot
        · rw [commentClose_infix_cons, not_or] at hbody
          exact ⟨(inner, rest), ih.mpr ⟨htail, hbody.2⟩, rfl⟩

theorem closeComment?_eq_none_iff {text : Text} :
    closeComment? text = none ↔ ¬ commentClose <:+: text := by
  fun_induction closeComment? text with
  | case1 => simp [commentClose]
  | case2 after => simp [commentClose_infix_cons]
  | case3 c tail hopen ih =>
      rw [Option.map_eq_none_iff, ih, commentClose_infix_cons, not_or]
      exact (and_iff_right (not_closing_of_ne hopen)).symm

/-- A comment that is closed stays so, whatever is appended. -/
theorem closeComment?_append {text body rest : Text}
    (hclosed : closeComment? text = some (body, rest)) (more : Text) :
    closeComment? (text ++ more) = some (body, rest ++ more) := by
  rw [closeComment?_eq_some_iff] at hclosed ⊢
  exact ⟨by rw [hclosed.1, List.append_assoc]; rfl, hclosed.2⟩

end Comment

section Quoted

theorem IsQuotedBody.newline_notMem {mark : Char} {body : Text} (hbody : IsQuotedBody mark body) :
    '\n' ∉ body := by
  induction hbody with
  | nil => simp
  | escaped hc _ ih => simp [hc.symm, ih]
  | plain hc _ _ _ ih => simp [hc.symm, ih]

theorem closeQuote_newline (mark : Char) (rest : Text) :
    closeQuote mark ('\n' :: rest) = .error [] := by
  rw [closeQuote.eq_def]
  rfl

theorem closeQuote_escaped {c : Char} (hc : c ≠ '\n') (mark : Char) (rest : Text) :
    closeQuote mark ('\\' :: c :: rest) = pushFront ['\\', c] (closeQuote mark rest) := by
  rw [closeQuote, if_neg (by decide), if_pos rfl, if_neg hc]

theorem closeQuote_escaped_newline (mark : Char) (rest : Text) :
    closeQuote mark ('\\' :: '\n' :: rest) = .error ['\\'] := by
  rw [closeQuote, if_neg (by decide), if_pos rfl, if_pos rfl]

theorem closeQuote_mark {mark : Char} (hline : mark ≠ '\n') (hescape : mark ≠ '\\') (rest : Text) :
    closeQuote mark (mark :: rest) = .ok ([], rest) := by
  rw [closeQuote.eq_def]
  simp only [hline, hescape, if_false, if_true]

theorem closeQuote_plain {mark c : Char} (hline : c ≠ '\n') (hescape : c ≠ '\\') (hmark : c ≠ mark)
    (rest : Text) : closeQuote mark (c :: rest) = pushFront [c] (closeQuote mark rest) := by
  rw [closeQuote.eq_def]
  simp only [hline, hescape, hmark, if_false]

theorem closeQuote_sound {mark : Char} {text body rest : Text}
    (hclosed : closeQuote mark text = .ok (body, rest)) :
    text = body ++ mark :: rest ∧ IsQuotedBody mark body := by
  refine ⟨eq_of_closeQuote hclosed, ?_⟩
  fun_induction closeQuote mark text generalizing body with
  | case1 => contradiction
  | case2 => contradiction
  | case3 => contradiction
  | case4 => contradiction
  | case5 escaped tail hescaped _ ih =>
      obtain ⟨inner, hinner, rfl⟩ := ok_of_pushFront hclosed
      exact .escaped hescaped (ih hinner)
  | case6 =>
      cases hclosed
      exact .nil
  | case7 c tail hline hescape hmark ih =>
      obtain ⟨inner, hinner, rfl⟩ := ok_of_pushFront hclosed
      exact .plain hline hescape hmark (ih hinner)

theorem closeQuote_complete (quote : Quote) {body : Text} (hbody : IsQuotedBody quote.char body)
    (rest : Text) : closeQuote quote.char (body ++ quote.char :: rest) = .ok (body, rest) := by
  induction hbody with
  | nil => exact closeQuote_mark (by cases quote <;> decide) (by cases quote <;> decide) rest
  | escaped hc _ ih =>
      rw [List.cons_append, List.cons_append, closeQuote_escaped hc, ih]
      rfl
  | plain hline hescape hmark _ ih =>
      rw [List.cons_append, closeQuote_plain hline hescape hmark, ih]
      rfl

theorem closeQuote_eq_ok_iff {quote : Quote} {text body rest : Text} :
    closeQuote quote.char text = .ok (body, rest) ↔
      text = body ++ quote.char :: rest ∧ IsQuotedBody quote.char body := by
  constructor
  · exact closeQuote_sound
  · intro hsplit
    rw [hsplit.1]
    exact closeQuote_complete quote hsplit.2 rest

/-- A string is decided on its line: what is appended behind the line feed changes nothing. -/
theorem closeQuote_append {mark : Char} {text : Text} (hline : '\n' ∈ text) (more : Text) :
    closeQuote mark (text ++ more) = (closeQuote mark text).map (Prod.map id (· ++ more)) := by
  have hpush : ∀ (front : Text) (found : Except Text (Text × Text)),
      pushFront front (found.map (Prod.map id (· ++ more))) =
        (pushFront front found).map (Prod.map id (· ++ more)) := by
    intro front found
    cases found <;> rfl
  fun_induction closeQuote mark text with
  | case1 => simp at hline
  | case2 => rw [List.cons_append, closeQuote_newline]; rfl
  | case3 => simp at hline
  | case4 => rw [List.cons_append, List.cons_append, closeQuote_escaped_newline]; rfl
  | case5 escaped tail hescaped _ ih =>
      have htail : '\n' ∈ tail := by simpa [Ne.symm hescaped] using hline
      rw [List.cons_append, List.cons_append, closeQuote_escaped hescaped, ih htail, hpush]
  | case6 tail hc hescape => rw [List.cons_append, closeQuote_mark hc hescape]; rfl
  | case7 c tail hc hescape hmark ih =>
      have htail : '\n' ∈ tail := (List.mem_cons.mp hline).resolve_left (Ne.symm hc)
      rw [List.cons_append, closeQuote_plain hc hescape hmark, ih htail, hpush]

end Quoted

end BlockLexer.Lexeme
