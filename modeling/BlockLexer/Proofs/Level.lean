import BlockLexer.Proofs.Children
import BlockLexer.Proofs.Token.Failure

/-! # The level of a token

The tokenizer carries the indentation of the current line along, from lexeme to lexeme. A scan for
the end of a content block can as well look back for the line of its backtick. Main statement: both
ways lead to the same tokens, and the level of every token is the number of tabs in front of the
physical line on which the token starts.
-/

namespace BlockLexer

/-- The tokens of `text`, which follows `before`, when each lexeme is cut off with the indentation
that is found by looking back. The levels of the tokens are carried along. -/
def tokenizeLookingBack (settings : Settings) (level : Nat) (position : Position)
    (before text : Text) : Except LexicalError (List Token) :=
  match text with
  | [] => .ok []
  | c :: tail =>
      match _hcut : Lexeme.cut (Text.levelAt before (c :: tail)) c tail with
      | .error flaw => .error (flaw.locate position)
      | .ok (lexeme, rest) => do
          let children ←
            match _hopening : lexeme.opening? with
            | none => .ok []
            | some opening =>
                tokenizeLookingBack settings level (position.advance backtick) [] opening
          let tokens ←
            tokenizeLookingBack settings (lexeme.levelAfter level rest)
              (position.after lexeme.spell) (before ++ lexeme.spell) rest
          .ok (settings.consKept (lexeme.toToken level position children) tokens)
termination_by text.length
decreasing_by
  · exact Lexeme.length_of_cut _hcut
  · exact Lexeme.length_of_cut_opening _hcut _hopening

/-- On one of the lines of a text, which stands behind the lines `front`, the token starts. The
level of the token is the indentation of this line, and that of its children is the same. -/
structure Token.StartsOn (base : Position) (front : List Text) (line : Text) (token : Token) :
    Prop where
  exists_place : ∃ inner more, line = inner ++ more ∧ more ≠ [] ∧
    token.start = base.after (front.flatten ++ inner)
  level_eq : token.level = Text.indentation line
  children_level_eq : ∀ child ∈ token.children, child.level = token.level

/-- The level of the token is that of its line in the text. -/
def Token.HasLineLevel (base : Position) (text : Text) (token : Token) : Prop :=
  ∃ front line behind, Text.lines text = front ++ line :: behind ∧ token.StartsOn base front line

/-- The token is a block as the scan finds it which starts at the level of the line looked back for,
and this is the level of the token. -/
def Token.ClosesLookingBack (base : Position) (text : Text) (token : Token) : Prop :=
  ∃ before behind body rest, text = before ++ backtick :: behind ∧
    token.start = base.after before ∧
    token.stop = base.after (before ++ (Lexeme.content body).spell) ∧
    Lexeme.cutContent (Text.levelAt before (backtick :: behind)) behind =
      .ok (.content body, rest) ∧
    Text.levelAt before (backtick :: behind) = token.level

section LookingBack

variable {settings : Settings} {level : Nat} {position : Position} {before : Text} {c : Char}
  {text : Text}

theorem tokenizeLookingBack_of_cut_error {flaw : Flaw}
    (hcut : Lexeme.cut (Text.levelAt before (c :: text)) c text = .error flaw) :
    tokenizeLookingBack settings level position before (c :: text) =
      .error (flaw.locate position) := by
  rw [tokenizeLookingBack]
  split <;> simp_all

theorem tokenizeLookingBack_of_cut_ok {lexeme : Lexeme} {rest : Text}
    (hcut : Lexeme.cut (Text.levelAt before (c :: text)) c text = .ok (lexeme, rest)) :
    tokenizeLookingBack settings level position before (c :: text) =
      (do
        let children ← lexeme.opening?.elim (.ok [])
          (tokenizeLookingBack settings level (position.advance backtick) [])
        let tokens ←
          tokenizeLookingBack settings (lexeme.levelAfter level rest)
            (position.after lexeme.spell) (before ++ lexeme.spell) rest
        .ok (settings.consKept (lexeme.toToken level position children) tokens)) := by
  rw [tokenizeLookingBack]
  split
  · simp_all
  · next found after hfound =>
    obtain ⟨rfl, rfl⟩ : found = lexeme ∧ after = rest := by simp_all
    split <;> simp_all

theorem IsLevelAt.cut_eq (hlevel : IsLevelAt level before (c :: text)) :
    Lexeme.cut (Text.levelAt before (c :: text)) c text = Lexeme.cut level c text := by
  rcases hlevel with rfl | hbacktick
  · rfl
  · exact Lexeme.cut_of_ne_backtick (Ne.symm (List.ne_of_not_mem_cons hbacktick)) _ level text

/-- It makes no difference whether the indentation is carried along or looked back for. -/
theorem tokenizeLookingBack_eq (hlevel : IsLevelAt level before text) :
    tokenizeLookingBack settings level position before text =
      tokenizeFrom settings level position text := by
  induction level, position, text using tokenize_induction generalizing before with
  | nil level position => rw [tokenizeLookingBack, tokenizeFrom_nil]
  | flaw level position c text flaw hcut =>
      rw [tokenizeFrom_of_cut_error hcut,
        tokenizeLookingBack_of_cut_error (hlevel.cut_eq.trans hcut)]
  | lexeme level position c text lexeme rest hcut ihopening ih =>
      obtain ⟨hspell, hfits⟩ := Lexeme.cut_eq_ok_iff.mp hcut
      have hchildren : lexeme.opening?.elim (.ok [])
          (tokenizeLookingBack settings level (position.advance backtick) []) =
            openingTokens settings level position lexeme := by
        cases hopening : lexeme.opening? with
        | none => exact (openingTokens_of_none hopening).symm
        | some opening =>
            -- The opening line is searched by itself, but no backtick is left on it.
            rw [openingTokens_of_some hopening]
            exact ihopening opening hopening (.inr (hfits.backtick_notMem_opening hopening))
      rw [tokenizeFrom_of_cut_ok hcut, tokenizeLookingBack_of_cut_ok (hlevel.cut_eq.trans hcut),
        hchildren]
      rw [← hspell] at hlevel
      rw [ih hlevel.levelAfter]

end LookingBack

/-- Every place in a text lies on one of its lines, which is the line found by looking back. -/
theorem Text.exists_lines_eq {after : Text} (hafter : after ≠ []) (before : Text) :
    ∃ front line behind inner more, lines (before ++ after) = front ++ line :: behind ∧
      line = inner ++ more ∧ more ≠ [] ∧ before = front.flatten ++ inner ∧
      levelAt before after = indentation line := by
  obtain ⟨whole, hwhole, hbefore⟩ := exists_isWholeLines_append_lastLine before
  have hlast := newline_notMem_lastLine before
  have hne : lastLine before ++ after ≠ [] := List.append_ne_nil_of_right_ne_nil _ hafter
  refine ⟨lines whole, physicalLine (lastLine before ++ after),
    lines (behindLine (lastLine before ++ after)), lastLine before, physicalLine after, ?_,
    physicalLine_append hlast after, mt physicalLine_eq_nil_iff.mp hafter, ?_, ?_⟩
  · rw [← lines_eq_cons hne, ← lines_append hwhole, ← List.append_assoc, ← hbefore]
  · rw [flatten_lines, ← hbefore]
  · rw [indentation_physicalLine, levelAt, indentation_lineAround]

section Tokens

variable {settings : Settings} {base : Position} {text : Text} {tokens : List Token}

theorem Lexeme.YieldsAt.children_level_eq {before after : Text} {lexeme : Lexeme} {token : Token}
    (hyields : lexeme.YieldsAt settings base before after token) :
    ∀ child ∈ token.children, child.level = token.level := by
  intro child hchild
  cases hopening : lexeme.opening? with
  | none =>
      rw [hyields.children_eq_nil hopening] at hchild
      contradiction
  | some opening =>
      obtain ⟨tokens, -, hsame⟩ := hyields.exists_tokens hopening
      rw [hsame] at hchild
      obtain ⟨found, -, rfl⟩ := List.mem_map.mp hchild
      rfl

theorem hasLineLevel_of_tokenizeAt (htokens : tokenizeAt settings base text = .ok tokens) :
    ∀ token ∈ tokens, token.HasLineLevel base text := by
  intro token htoken
  obtain ⟨before, lexeme, after, rfl, hyields⟩ := exists_yieldsAt_of_tokenizeAt htokens token htoken
  have hne : lexeme.spell ++ after ≠ [] :=
    List.append_ne_nil_of_left_ne_nil hyields.isValidAt.spell_ne_nil after
  obtain ⟨front, line, behind, inner, more, hlines, hline, hmore, hbefore, hlevel⟩ :=
    Text.exists_lines_eq hne before
  rw [← List.append_assoc] at hlines
  refine ⟨front, line, behind, hlines, ⟨inner, more, hline, hmore, ?_⟩, ?_,
    hyields.children_level_eq⟩
  · rw [hyields.start_eq, ← hbefore]
  · rw [hyields.level_eq, hlevel]

theorem closesLookingBack_of_tokenizeAt (htokens : tokenizeAt settings base text = .ok tokens) :
    ∀ token ∈ tokens, token.kind = .contentBlock → token.ClosesLookingBack base text := by
  intro token htoken hkind
  obtain ⟨before, lexeme, after, rfl, hyields⟩ := exists_yieldsAt_of_tokenizeAt htokens token htoken
  rw [hyields.kind_eq] at hkind
  obtain ⟨body, rfl⟩ := Lexeme.kind_eq_contentBlock_iff.mp hkind
  have hspell : (Lexeme.content body).spell ++ after = backtick :: (body ++ backtick :: after) := by
    simp [Lexeme.spell]
  have hlevel := hyields.level_eq
  have hvalid := hyields.isValidAt
  rw [Lexeme.IsValidAt, hspell] at hvalid
  rw [hspell] at hlevel
  refine ⟨before, body ++ backtick :: after, body, after, ?_, hyields.start_eq, hyields.stop_eq, ?_,
    hlevel.symm⟩
  · rw [List.append_assoc, hspell]
  · rw [← Lexeme.cut_backtick]
    exact Lexeme.cut_of_fits hspell hvalid

/-- What begins with whole lines has the tokens of these lines on the same lines. -/
theorem Token.HasLineLevel.append {front : Text} (hwhole : Text.IsWholeLines front) {token : Token}
    (hlevel : token.HasLineLevel base front) (rest : Text) :
    token.HasLineLevel base (front ++ rest) := by
  obtain ⟨before, line, behind, hlines, hstarts⟩ := hlevel
  refine ⟨before, line, behind ++ Text.lines rest, ?_, hstarts⟩
  rw [Text.lines_append hwhole, hlines, List.append_assoc, List.cons_append]

/-- A script without an error holds all the tokens. -/
theorem Line.eq_of_scriptResult_eq_ok {script : List Token × Option LexicalError}
    (hscript : scriptResult script = .ok tokens) :
    script = (tokens, none) := by
  obtain ⟨found, error?⟩ := script
  cases error? with
  | none => exact Prod.ext (Except.ok.inj hscript) rfl
  | some error => contradiction

/-- The tokens of a source up to an error are those of its first lines. -/
theorem hasLineLevel_of_script {source : Text} {error? : Option LexicalError}
    (hscript : Line.script (Line.physicals settings none Position.start 0 (Text.lines source)) =
      (tokens, error?)) :
    ∀ token ∈ tokens, token.HasLineLevel Position.start source := by
  intro token htoken
  cases error? with
  | none =>
      have htokens := Line.script_physicals settings Position.start 0 source
      rw [hscript] at htokens
      exact hasLineLevel_of_tokenizeAt htokens.symm token htoken
  | some error =>
      obtain ⟨before, taken, rest, -, hbefore⟩ := Line.exists_failsBehind hscript
      have hlevel := hasLineLevel_of_tokenizeAt hbefore.tokens_eq token htoken
      rw [hbefore.source_eq, List.append_assoc]
      exact hlevel.append hbefore.isWholeLines _

end Tokens

/-- The level of every token is the indentation of the line on which it starts, whatever comes
before it, and its children have the same level. The scan of a content block, if it looks back for
the line of its backtick, finds just this level. What a token reader shows of a source is on the
level of its line in the source. -/
theorem level_is_indentation_of_line :
    (∀ settings base text,
      tokenizeLookingBack settings (Text.indentation text) base [] text =
        tokenizeAt settings base text) ∧
      (∀ settings base text tokens, tokenizeAt settings base text = .ok tokens →
        ∀ token ∈ tokens, token.HasLineLevel base text ∧
          (token.kind = .contentBlock → token.ClosesLookingBack base text)) ∧
      ∀ (settings : Settings) (source : Text) (operations : List TokenReader.Operation)
        (token : Token),
        .ok token ∈ ((TokenReader.ofText settings source).run operations).1 ∨
            (∃ shift, (((TokenReader.ofText settings source).run operations).2.peek shift).1 =
              .ok token) →
          token.HasLineLevel Position.start source := by
  refine ⟨?_, ?_, ?_⟩
  · intro settings base text
    exact tokenizeLookingBack_eq (isLevelAt_nil text)
  · intro settings base text tokens htokens token htoken
    exact ⟨hasLineLevel_of_tokenizeAt htokens token htoken,
      closesLookingBack_of_tokenizeAt htokens token htoken⟩
  · intro settings source operations token hshown
    have hbegin := TokenReader.isBehind_ofLines (LineReader.ofText settings source)
    have hmem := (hbegin.run operations).mem_of_shown hshown
    exact hasLineLevel_of_script rfl token hmem

/-- A comment that ends on an indented line, and behind it a block. -/
theorem level_behind_comment :
    let source : Text :=
      ['/', '*', '\n', '\t', '*', '/', '\x60', 'b', '\n', '\t', '\x60', 'd']
    let block : Token := ⟨.contentBlock, ['\t'], ⟨2, 3⟩, ⟨3, 2⟩, 1,
      [⟨.identifier, ['b'], ⟨2, 4⟩, ⟨2, 5⟩, 1, []⟩]⟩
    let word : Token := ⟨.identifier, ['d'], ⟨3, 2⟩, ⟨3, 3⟩, 1, []⟩
    ∃ tokens, tokenizeAt {} Position.start source = .ok tokens ∧ block ∈ tokens ∧
      block.HasLineLevel Position.start source ∧ block.ClosesLookingBack Position.start source ∧
      ((TokenReader.ofText {} source).peek 2).1 = .ok word ∧
      word.HasLineLevel Position.start source := by
  intro source block word
  have htokens : tokenizeAt {} Position.start source =
      .ok [⟨.comment, ['\n', '\t'], ⟨1, 0⟩, ⟨2, 3⟩, 0, []⟩, block, word] := by
    cbv
  have hblock : block ∈ [⟨.comment, ['\n', '\t'], ⟨1, 0⟩, ⟨2, 3⟩, 0, []⟩, block, word] :=
    List.mem_cons_of_mem _ List.mem_cons_self
  have hscript := (Line.script_physicals {} Position.start 0 source).trans htokens
  have hbegin := TokenReader.isBehind_ofLines (LineReader.ofText {} source)
  have hpeek := hbegin.peek_eq 2 (by decide)
  have hlines : (LineReader.ofText {} source).remaining =
      Line.physicals {} none Position.start 0 (Text.lines source) := rfl
  rw [hlines, Line.eq_of_scriptResult_eq_ok hscript] at hpeek
  obtain ⟨-, hlevel, hshown⟩ := level_is_indentation_of_line
  obtain ⟨hstarts, hcloses⟩ := hlevel {} Position.start source _ htokens block hblock
  exact ⟨_, htokens, hblock, hstarts, hcloses rfl, hpeek,
    hshown {} source [] word (.inr ⟨2, hpeek⟩)⟩

end BlockLexer
