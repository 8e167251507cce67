import BlockLexer.Proofs.Lexeme.Fits

/-! # Malformed text

When no lexeme can be cut off, the flaw says what stands there instead. Each way to fail is
described by the flaw it gives and by the text behind it: where the malformed text ends, and what it
lacks to be a lexeme.
-/

namespace BlockLexer

/-- A line ends where `text` begins. -/
def Text.IsLineEnd (text : Text) : Prop :=
  text = [] ∨ text.head? = some '\n'

namespace Lexeme

section Line

theorem isLineEnd_dropWhile (text : Text) : Text.IsLineEnd (text.dropWhile (· ≠ '\n')) := by
  have hstop := List.head?_dropWhile_not (fun c : Char => decide (c ≠ '\n')) text
  cases hrest : text.dropWhile (· ≠ '\n') with
  | nil => exact .inl rfl
  | cons c rest =>
      rw [hrest] at hstop
      exact .inr (by simpa using hstop)

theorem error_of_pushFront {front body : Text} {found : Except Text (Text × Text)}
    (hopen : pushFront front found = .error body) :
    ∃ inner, found = .error inner ∧ body = front ++ inner := by
  cases found with
  | ok closed => contradiction
  | error inner => exact ⟨inner, rfl, (Except.error.inj hopen).symm⟩

theorem closeQuote_eq_error {mark : Char} {text body : Text}
    (hopen : closeQuote mark text = .error body) :
    ∃ after, text = body ++ after ∧ '\n' ∉ body ∧ Text.IsLineEnd after := by
  fun_induction closeQuote mark text generalizing body with
  | case1 =>
      obtain rfl := Except.error.inj hopen
      exact ⟨[], rfl, List.not_mem_nil, .inl rfl⟩
  | case2 rest =>
      obtain rfl := Except.error.inj hopen
      exact ⟨'\n' :: rest, rfl, List.not_mem_nil, .inr rfl⟩
  | case3 =>
      obtain rfl := Except.error.inj hopen
      exact ⟨[], rfl, by decide, .inl rfl⟩
  | case4 rest =>
      obtain rfl := Except.error.inj hopen
      exact ⟨'\n' :: rest, rfl, by decide, .inr rfl⟩
  | case5 escaped tail hescaped _ ih =>
      obtain ⟨inner, hinner, rfl⟩ := error_of_pushFront hopen
      obtain ⟨after, rfl, hline, hend⟩ := ih hinner
      exact ⟨after, rfl, by simp [hline, Ne.symm hescaped], hend⟩
  | case6 => contradiction
  | case7 c tail hc _ _ ih =>
      obtain ⟨inner, hinner, rfl⟩ := error_of_pushFront hopen
      obtain ⟨after, rfl, hline, hend⟩ := ih hinner
      exact ⟨after, rfl, by simp [hline, Ne.symm hc], hend⟩

end Line

section Cut

variable {level : Nat} {c : Char} {text : Text} {flaw : Flaw}

/-- A string that is not closed ends with its line, and no quote on the line closes it. -/
theorem cutString_eq_error {quote : Quote} (hcut : cutString quote text = .error flaw) :
    ∃ body after, flaw = ⟨.unterminatedString, [], quote.char :: body⟩ ∧ text = body ++ after ∧
      (∀ inner rest, body = inner ++ quote.char :: rest → ¬ IsQuotedBody quote.char inner) ∧
      '\n' ∉ body ∧ Text.IsLineEnd after := by
  rw [cutString] at hcut
  split at hcut
  · contradiction
  · next body hopen =>
    obtain ⟨after, hsplit, hline, hend⟩ := closeQuote_eq_error hopen
    refine ⟨body, after, (Except.error.inj hcut).symm, hsplit, ?_, hline, hend⟩
    rintro inner rest rfl hinner
    rw [hsplit, List.append_assoc, List.cons_append, closeQuote_complete quote hinner] at hopen
    contradiction

theorem cutComment_eq_error (hcut : cutComment text = .error flaw) :
    flaw = ⟨.unterminatedComment, [], '/' :: '*' :: text⟩ ∧ ¬ commentClose <:+: text := by
  rw [cutComment] at hcut
  split at hcut
  · contradiction
  · next hopen => exact ⟨(Except.error.inj hcut).symm, closeComment?_eq_none_iff.mp hopen⟩

/-- What is glued to a number goes as far as it can. -/
theorem cutNumber_eq_error (hc : c.isDigit) (hcut : cutNumber (c :: text) = .error flaw) :
    ∃ literal glued after, flaw = ⟨.invalidNumber, [], literal ++ glued⟩ ∧
      c :: text = literal ++ (glued ++ after) ∧ IsLongestLiteral literal (glued ++ after) ∧
      (∀ d ∈ glued, isGlue d) ∧ StopsAt isGlue after ∧
      (NumberFormat.ofLiteral? literal = none ∨ glued ≠ []) := by
  obtain ⟨literal, rest, hspan⟩ : ∃ literal rest, spanLiteral (c :: text) = (literal, rest) :=
    ⟨_, _, rfl⟩
  have hrest := @List.takeWhile_append_dropWhile _ isGlue rest
  obtain ⟨htext, hlongest⟩ := (spanLiteral_eq_iff hc).mp hspan
  rw [← hrest] at htext hlongest
  simp only [cutNumber, hspan] at hcut
  split at hcut
  · contradiction
  · next hwrong =>
    refine ⟨literal, rest.takeWhile isGlue, rest.dropWhile isGlue, (Except.error.inj hcut).symm,
      htext.symm, hlongest, fun d hd => List.mem_takeWhile_imp hd, stopsAt_dropWhile rest, ?_⟩
    cases hformat : NumberFormat.ofLiteral? literal with
    | none => exact .inl rfl
    | some format => exact .inr fun hglued => hwrong format hformat hglued

/-- A content block is left by a line that is indented less than the line of its opening backtick,
or the text ends in it. -/
theorem cutContent_eq_error (hcut : cutContent level text = .error flaw) :
    (∃ front line after,
        flaw = ⟨.unexpectedIndentation, backtick :: (front ++ ['\n']), line⟩ ∧
        text = front ++ '\n' :: (line ++ after) ∧
        PassesOver level level front ('\n' :: (line ++ after)) ∧
        Text.indentation line < level ∧ ¬ Text.isBlank line ∧ '\n' ∉ line ∧
        Text.IsLineEnd after) ∨
      flaw = ⟨.unterminatedContentBlock, [], backtick :: text⟩ ∧
        PassesOver level level text [] := by
  rw [cutContent] at hcut
  split at hcut
  · contradiction
  · next lead line hfound =>
    obtain ⟨front, rest, rfl, hpasses, ⟨hindented, hvisible⟩, rfl, rfl⟩ :=
      closeContent_eq_iff.mp hfound
    have hrest : Text.firstLine rest ++ rest.dropWhile (· ≠ '\n') = rest :=
      List.takeWhile_append_dropWhile
    refine .inl ⟨front, Text.firstLine rest, rest.dropWhile (· ≠ '\n'),
      (Except.error.inj hcut).symm, ?_, ?_, ?_, hvisible, Text.newline_notMem_firstLine rest,
      isLineEnd_dropWhile rest⟩
    · rw [hrest]
    · rwa [hrest]
    · have hsame := Text.indentation_append_firstLine [] rest
      rw [List.nil_append, List.nil_append] at hsame
      rwa [hsame]
  · next hnever => exact .inr ⟨(Except.error.inj hcut).symm, closeContent_eq_iff.mp hnever⟩

theorem cutPunctuation_of_not_symbol (hsymbol : Symbol.ofChar? c = none) (text : Text) :
    cutPunctuation c text = .error ⟨.unexpectedCharacter c, [], [c]⟩ := by
  unfold cutPunctuation
  split
  · exact absurd hsymbol (by decide)
  · exact absurd hsymbol (by decide)
  · exact absurd hsymbol (by decide)
  · exact absurd hsymbol (by decide)
  · rw [hsymbol]

theorem cutPunctuation_eq_error (hcut : cutPunctuation c text = .error flaw) :
    (∃ body, c = '/' ∧ text = '*' :: body ∧ cutComment body = .error flaw) ∨
      Symbol.ofChar? c = none := by
  unfold cutPunctuation at hcut
  split at hcut
  · contradiction
  · next body => exact .inl ⟨body, rfl, rfl, hcut⟩
  · contradiction
  · contradiction
  · split at hcut
    · contradiction
    · next hsymbol => exact .inr hsymbol

/-- No lexeme begins with `c`, whatever follows it. -/
def IsUnexpected (c : Char) : Prop :=
  ∀ level rest lexeme, Fits level rest lexeme → lexeme.spell.head? ≠ some c

theorem isUnexpected_of_cut (hcut : ∀ level text, ∃ flaw, cut level c text = .error flaw) :
    IsUnexpected c := by
  intro level rest lexeme hfits hhead
  obtain ⟨tail, hspell⟩ := List.head?_eq_some_iff.mp hhead
  obtain ⟨flaw, hflaw⟩ := hcut level (tail ++ rest)
  rw [cut_of_fits (by rw [hspell, List.cons_append]) hfits] at hflaw
  contradiction

/-- The ways to fail, told apart by the character at which no lexeme begins. -/
theorem cut_error_cases (hcut : cut level c text = .error flaw) :
    (c.isDigit ∧ cutNumber (c :: text) = .error flaw) ∨
      (c = backtick ∧ cutContent level text = .error flaw) ∨
      (∃ quote : Quote, c = quote.char ∧ cutString quote text = .error flaw) ∨
      (∃ body, c = '/' ∧ text = '*' :: body ∧ cutComment body = .error flaw) ∨
      flaw = ⟨.unexpectedCharacter c, [], [c]⟩ ∧ Symbol.ofChar? c = none ∧ IsUnexpected c := by
  by_cases hspacing : isSpacing c
  · simp [cut, hspacing] at hcut
  by_cases hline : c = '\n'
  · rw [hline] at hcut
    contradiction
  by_cases hletter : Unicode.isLetter c
  · simp [cut, hspacing, hline, hletter] at hcut
  by_cases hdigit : c.isDigit
  · rw [cut_digit hdigit] at hcut
    exact .inl ⟨hdigit, hcut⟩
  by_cases hbacktick : c = backtick
  · rw [hbacktick, cut_backtick] at hcut
    exact .inr (.inl ⟨hbacktick, hcut⟩)
  cases hquote : Quote.ofChar? c with
  | some quote =>
      have hchar := Quote.char_of_ofChar? hquote
      rw [← hchar, cut_quote] at hcut
      exact .inr (.inr (.inl ⟨quote, hchar.symm, hcut⟩))
  | none =>
      -- What is left is decided by the character alone, on any line.
      have hleft : ∀ level text, cut level c text = cutPunctuation c text := by
        intro level text
        simp [cut, hspacing, hline, hletter, hdigit, hbacktick, hquote]
      rw [hleft] at hcut
      rcases cutPunctuation_eq_error hcut with hcomment | hsymbol
      · exact .inr (.inr (.inr (.inl hcomment)))
      · rw [cutPunctuation_of_not_symbol hsymbol] at hcut
        refine .inr (.inr (.inr (.inr ⟨(Except.error.inj hcut).symm, hsymbol, ?_⟩)))
        apply isUnexpected_of_cut
        intro level text
        rw [hleft]
        exact ⟨_, cutPunctuation_of_not_symbol hsymbol text⟩

end Cut

end Lexeme

end BlockLexer
