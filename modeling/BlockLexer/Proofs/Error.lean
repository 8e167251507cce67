import BlockLexer.Proofs.Grammar
import BlockLexer.Proofs.Lexeme.Flaw
import BlockLexer.Proofs.Position

/-! # Errors point at their text

A lexical error carries a piece of the text and the place where this piece stands. Main statement:
the snippet of every error is found in the text at just that place, and is malformed in the way that
the cause says. This holds as well for an error on the opening line of a content block, which is
tokenized as a text of its own.
-/

namespace BlockLexer

/-- With `after` behind it the text `before` is made of lexemes, each valid where it stands, and the
next lexeme is expected between the two. -/
inductive Boundary : Text → Text → Prop
  | start {text : Text} : Boundary [] text
  | behind {before rest : Text} {lexeme : Lexeme} :
      Boundary before (lexeme.spell ++ rest) → lexeme.IsValidAt before rest →
        Boundary (before ++ lexeme.spell) rest

namespace Cause

/-- `snippet` is the end of the opening line of a content block that is closed on a later line. -/
def EndsOpeningLine (before snippet after : Text) : Prop :=
  ∃ front inner body rest, before = front ++ backtick :: inner ∧
    (Lexeme.content body).opening? = some (inner ++ snippet) ∧
    backtick :: (inner ++ snippet ++ after) = (Lexeme.content body).spell ++ rest ∧
    Boundary front ((Lexeme.content body).spell ++ rest) ∧
    (Lexeme.content body).IsValidAt front rest

/-- `line` is a line inside of a content block and indented less than the line of the backtick that
opens the block. -/
def IsTooShallow (before line after : Text) : Prop :=
  ∃ front inner opener, before = front ++ backtick :: (inner ++ ['\n']) ∧
    Boundary front (backtick :: (inner ++ '\n' :: (line ++ after))) ∧
    opener = Text.indentation
      (Text.lineAround front (backtick :: (inner ++ '\n' :: (line ++ after)))) ∧
    Lexeme.PassesOver opener opener inner ('\n' :: (line ++ after)) ∧
    Text.indentation line < opener ∧ ¬ Text.isBlank line ∧ '\n' ∉ line ∧ Text.IsLineEnd after

/-- Between `before` and `after` the piece `snippet` is malformed in the way that the cause says. -/
def Explains (before snippet after : Text) : Cause → Prop
  | .unexpectedCharacter c =>
      snippet = [c] ∧ Symbol.ofChar? c = none ∧ Lexeme.IsUnexpected c
  | .unterminatedString =>
      ∃ quote : Quote, ∃ body, snippet = quote.char :: body ∧
        (∀ inner rest, body = inner ++ quote.char :: rest →
          ¬ Lexeme.IsQuotedBody quote.char inner) ∧
        '\n' ∉ snippet ∧ Text.IsLineEnd after
  | .unterminatedComment =>
      ∃ body, snippet = '/' :: '*' :: body ∧ ¬ Lexeme.commentClose <:+: body ∧
        (after = [] ∨ after.head? = some '\n' ∧ EndsOpeningLine before snippet after)
  | .unterminatedContentBlock =>
      ∃ body opener, snippet = backtick :: body ∧
        opener = Text.indentation (Text.lineAround before (backtick :: body)) ∧
        Lexeme.PassesOver opener opener body [] ∧ after = []
  | .unexpectedIndentation => IsTooShallow before snippet after
  | .invalidNumber =>
      ∃ literal glued, snippet = literal ++ glued ∧
        Lexeme.IsLongestLiteral literal (glued ++ after) ∧ (∀ c ∈ glued, Lexeme.isGlue c) ∧
        Lexeme.StopsAt Lexeme.isGlue after ∧
        (NumberFormat.ofLiteral? literal = none ∨ glued ≠ [])

end Cause

/-- The snippet of the error stands in the text between `before` and `after`, and is malformed
there. -/
structure LexicalError.PointsAt (base : Position) (text : Text) (error : LexicalError)
    (before after : Text) : Prop where
  text_eq : text = before ++ error.snippet ++ after
  snippet_ne_nil : error.snippet ≠ []
  position_eq : error.position = base.after before
  column_eq : error.cause = .unexpectedIndentation → error.position.column = 0
  explains : error.cause.Explains before error.snippet after

section Flaw

variable {level : Nat} {before text : Text} {c : Char} {flaw : Flaw}

/-- A flaw is malformed in the way that its cause says. -/
theorem explains_of_cut (hlevel : IsLevelAt level before (c :: text))
    (hplace : Boundary before (c :: text)) (hcut : Lexeme.cut level c text = .error flaw) :
    ∃ after, c :: text = flaw.lead ++ flaw.snippet ++ after ∧ flaw.snippet ≠ [] ∧
      flaw.cause.Explains (before ++ flaw.lead) flaw.snippet after := by
  rcases Lexeme.cut_error_cases hcut with ⟨hdigit, hnumber⟩ | ⟨rfl, hcontent⟩ |
    ⟨quote, rfl, hstring⟩ | ⟨body, rfl, rfl, hcomment⟩ | ⟨rfl, hsymbol, hunexpected⟩
  · obtain ⟨literal, glued, after, rfl, htext, hlongest, hglued, hstops, hwrong⟩ :=
      Lexeme.cutNumber_eq_error hdigit hnumber
    refine ⟨after, by rw [htext, List.nil_append, List.append_assoc], ?_,
      literal, glued, rfl, hlongest, hglued, hstops, hwrong⟩
    obtain ⟨d, tail, rfl, -⟩ := hlongest.is_literal.exists_cons
    exact List.cons_ne_nil d _
  · -- The text holds a backtick, so the level is that of the line.
    obtain rfl := hlevel.resolve_right (by simp)
    rcases Lexeme.cutContent_eq_error hcontent with
      ⟨inner, line, after, rfl, rfl, hpasses, hindented, hvisible, hline, hend⟩ | ⟨rfl, hpasses⟩
    · refine ⟨after, by simp, ?_, before, inner, _, rfl, hplace, rfl, hpasses, hindented,
        hvisible, hline, hend⟩
      rintro rfl
      exact hvisible rfl
    · refine ⟨[], by simp, List.cons_ne_nil _ _, text, _, rfl, ?_, hpasses, rfl⟩
      rw [List.append_nil]
  · obtain ⟨body, after, rfl, rfl, hopen, hline, hend⟩ := Lexeme.cutString_eq_error hstring
    refine ⟨after, rfl, List.cons_ne_nil _ _, quote, body, rfl, hopen, ?_, hend⟩
    cases quote <;> simpa [Quote.char] using hline
  · obtain ⟨rfl, hopen⟩ := Lexeme.cutComment_eq_error hcomment
    exact ⟨[], by simp, List.cons_ne_nil _ _, body, rfl, hopen, .inl rfl⟩
  · exact ⟨text, rfl, List.cons_ne_nil _ _, rfl, hsymbol, hunexpected⟩

end Flaw

section Opening

variable {front inner snippet after body rest : Text}

/-- What is malformed on the opening line of a block is so in the text around the block. Whatever
reaches to the end of the opening line there ends at a line feed. -/
theorem Cause.Explains.of_opening {cause : Cause} (hexplains : cause.Explains inner snippet after)
    (hplace : Boundary front ((Lexeme.content body).spell ++ rest))
    (hvalid : (Lexeme.content body).IsValidAt front rest)
    (hopening : (Lexeme.content body).opening? = some (inner ++ snippet ++ after)) :
    ∃ later, (Lexeme.content body).spell ++ rest = backtick :: inner ++ snippet ++ later ∧
      cause.Explains (front ++ backtick :: inner) snippet later := by
  have hbacktick := Lexeme.Fits.backtick_notMem_opening hvalid hopening
  obtain ⟨value, hcontent, hnewline⟩ := Lexeme.opening?_eq_some_iff.mp hopening
  have hbody := Lexeme.content.inj hcontent
  have hspell : (Lexeme.content body).spell ++ rest =
      backtick :: inner ++ snippet ++ (after ++ '\n' :: (value ++ backtick :: rest)) := by
    rw [Lexeme.spell, hbody]
    simp
  refine ⟨after ++ '\n' :: (value ++ backtick :: rest), hspell, ?_⟩
  have hhead : after.head? ≠ some '\n' := by
    intro hhead
    apply hnewline
    exact List.mem_append_right _ (List.mem_of_mem_head? hhead)
  cases cause with
  | unexpectedCharacter c => exact hexplains
  | unterminatedString =>
      obtain ⟨quote, inside, hsnippet, hopen, hstring, hend⟩ := hexplains
      obtain rfl := hend.resolve_right hhead
      exact ⟨quote, inside, hsnippet, hopen, hstring, .inr rfl⟩
  | unterminatedComment =>
      obtain ⟨inside, hsnippet, hopen, hend⟩ := hexplains
      obtain rfl := hend.resolve_right fun hline => hhead hline.1
      rw [List.append_nil] at hopening
      refine ⟨inside, hsnippet, hopen, .inr ⟨rfl, front, inner, body, rest, rfl, hopening, ?_,
        hplace, hvalid⟩⟩
      rw [hspell]
      rfl
  | unterminatedContentBlock =>
      obtain ⟨_, _, rfl, -⟩ := hexplains
      simp at hbacktick
  | unexpectedIndentation =>
      obtain ⟨_, _, _, rfl, -⟩ := hexplains
      simp at hnewline
  | invalidNumber =>
      obtain ⟨literal, glued, hsnippet, hlongest, hglued, hstops, hwrong⟩ := hexplains
      refine ⟨literal, glued, hsnippet, ?_, hglued, ?_, hwrong⟩
      · rw [← List.append_assoc]
        exact hlongest.append_newline _
      · exact hstops.append_cons rfl _

end Opening

/-- Wherever a text is tokenized, its error points into it. The place of what stands before the text
counts as well, since a content block may be left on a later line. -/
theorem exists_explains_of_tokenizeFrom {settings : Settings} {level : Nat} {position : Position}
    {before text : Text} {error : LexicalError} (hlevel : IsLevelAt level before text)
    (hplace : Boundary before text)
    (herror : tokenizeFrom settings level position text = .error error) :
    ∃ front after, text = front ++ error.snippet ++ after ∧ error.snippet ≠ [] ∧
      error.position = position.after front ∧
      error.cause.Explains (before ++ front) error.snippet after := by
  induction level, position, text using tokenize_induction generalizing before with
  | nil level position =>
      rw [tokenizeFrom_nil] at herror
      contradiction
  | flaw level position c text flaw hcut =>
      rw [tokenizeFrom_of_cut_error hcut] at herror
      obtain ⟨after, htext, hsnippet, hexplains⟩ := explains_of_cut hlevel hplace hcut
      rw [← Except.error.inj herror]
      exact ⟨flaw.lead, after, htext, hsnippet, rfl, hexplains⟩
  | lexeme level position c text lexeme rest hcut ihopening ih =>
      obtain ⟨hspell, hfits⟩ := Lexeme.cut_eq_ok_iff.mp hcut
      rw [← hspell] at hlevel hplace
      have hvalid := hlevel.isValidAt_iff.mpr hfits
      rcases (tokenizeFrom_eq_error_iff hcut).mp herror with hopening | ⟨children, -, hrest⟩
      · -- The opening line is a text of its own, in which no backtick is left.
        obtain ⟨opening, hfound, hinner⟩ := openingTokens_eq_error_iff.mp hopening
        obtain ⟨inner, after, rfl, hsnippet, hposition, hexplains⟩ := ihopening opening hfound
          (.inr (hfits.backtick_notMem_opening hfound) : IsLevelAt level [] opening) .start hinner
        obtain ⟨value, rfl, -⟩ := Lexeme.opening?_eq_some_iff.mp hfound
        obtain ⟨later, htext, hlater⟩ := hexplains.of_opening hplace hvalid hfound
        exact ⟨backtick :: inner, later, hspell.symm.trans htext, hsnippet, hposition, hlater⟩
      · obtain ⟨front, after, htext, hsnippet, hposition, hexplains⟩ :=
          ih hlevel.levelAfter (hplace.behind hvalid) hrest
        refine ⟨lexeme.spell ++ front, after, ?_, hsnippet, ?_, ?_⟩
        · rw [← hspell, htext, List.append_assoc, List.append_assoc, List.append_assoc]
        · rw [hposition, Position.after_append]
        · rwa [← List.append_assoc]

/-- Every error points exactly at its text: the snippet stands at the position of the error, on the
opening line of a content block as well as elsewhere, and is malformed in the way that the cause
says. -/
theorem exists_pointsAt_of_tokenizeAt {settings : Settings} {base : Position} {text : Text}
    {error : LexicalError} (herror : tokenizeAt settings base text = .error error) :
    ∃ before after, error.PointsAt base text before after := by
  obtain ⟨before, after, htext, hsnippet, hposition, hexplains⟩ :=
    exists_explains_of_tokenizeFrom (isLevelAt_nil text) .start herror
  rw [List.nil_append] at hexplains
  refine ⟨before, after, htext, hsnippet, hposition, ?_, hexplains⟩
  intro hcause
  rw [hcause] at hexplains
  obtain ⟨front, inner, opener, rfl, -⟩ := hexplains
  rw [hposition, ← List.cons_append, ← List.append_assoc, Position.column_after_concat]

/-- A comment that is not closed on the opening line of a block. -/
theorem exists_pointsAt_opening_line :
    ∃ error before after,
      tokenizeAt {} ⟨3, 5⟩ ['a', '\n', '\x60', '/', '*', '\n', '\x60'] = .error error ∧
        error.cause = .unterminatedComment ∧ error.position = ⟨4, 1⟩ ∧
        error.PointsAt ⟨3, 5⟩ ['a', '\n', '\x60', '/', '*', '\n', '\x60'] before after := by
  have herror : tokenizeAt {} ⟨3, 5⟩ ['a', '\n', '\x60', '/', '*', '\n', '\x60'] =
      .error ⟨.unterminatedComment, ⟨4, 1⟩, ['/', '*']⟩ := by
    cbv
  obtain ⟨before, after, hpoints⟩ := exists_pointsAt_of_tokenizeAt herror
  exact ⟨_, before, after, herror, rfl, rfl, hpoints⟩

end BlockLexer
