import BlockLexer.Proofs.Position
import BlockLexer.Proofs.Lexeme.Fits
import BlockLexer.Proofs.Tokenize

/-! # Tokens tile the text

With spacing and comments kept, the tokens of a text are the text cut into pieces: each token
begins where the one before it ends, and its piece is the value of the token between the
delimiters of its kind. Nothing is lost, repeated or misplaced.
-/

namespace BlockLexer

/-- The piece of text that a token stands for, told from its kind and value. -/
def Token.Covers (token : Token) (piece : Text) : Prop :=
  match token.kind with
  | .symbol sign => token.value = [sign.char] ∧ piece = token.value
  | .greaterOrEquals | .lessOrEquals | .identifier | .number _ | .whitespace | .newline =>
      piece = token.value
  | .stringLiteral =>
      ∃ quote : Quote, piece = [quote.char] ++ token.value ++ [quote.char] ∧ '\n' ∉ token.value
  | .comment =>
      (piece = ['/', '/'] ++ token.value ∧ '\n' ∉ token.value) ∨
        (piece = ['/', '*'] ++ token.value ++ ['*', '/'] ∧ ¬ ['*', '/'] <:+: token.value)
  | .contentBlock =>
      (piece = [backtick] ++ token.value ++ [backtick] ∧ '\n' ∉ token.value ∧ token.children = []) ∨
        ∃ opening, piece = [backtick] ++ opening ++ ['\n'] ++ token.value ++ [backtick] ∧
          '\n' ∉ opening

/-- The tokens stand for these pieces of text, one behind the other from `position` on. -/
inductive Tiles : Position → List Token → List Text → Prop
  | nil {position : Position} : Tiles position [] []
  | cons {position : Position} {token : Token} {tokens : List Token} {piece : Text}
      {pieces : List Text} :
      piece ≠ [] → token.start = position → token.stop = position.after piece →
        token.Covers piece → Tiles (position.after piece) tokens pieces →
        Tiles position (token :: tokens) (piece :: pieces)

/-- The tokens from `base` on are the text cut into `pieces`. -/
structure IsTiling (base : Position) (text : Text) (tokens : List Token) (pieces : List Text) :
    Prop where
  flatten_eq : pieces.flatten = text
  length_eq : pieces.length = tokens.length
  piece_ne_nil : ∀ piece ∈ pieces, piece ≠ []
  start_eq : ∀ i token, tokens[i]? = some token → token.start = base.after (pieces.take i).flatten
  stop_eq : ∀ i token, tokens[i]? = some token →
    token.stop = base.after (pieces.take (i + 1)).flatten
  covers : ∀ (i : Nat) (token : Token) (piece : Text), tokens[i]? = some token →
    pieces[i]? = some piece → token.Covers piece
  stop_eq_start : ∀ i token next, tokens[i]? = some token → tokens[i + 1]? = some next →
    token.stop = next.start
  last_stop_eq : ∀ last, tokens.getLast? = some last → last.stop = base.after text

theorem covers_content {level : Nat} {position : Position} {body : Text} {children : List Token}
    (hchildren : (Lexeme.content body).opening? = none → children = []) :
    ((Lexeme.content body).toToken level position children).Covers (Lexeme.content body).spell := by
  cases hafter : Text.afterFirstLine? body with
  | none =>
      refine .inl ⟨?_, ?_, hchildren ?_⟩
      · simp [Lexeme.toToken, Lexeme.value, Lexeme.spell, hafter]
      · have hline := Text.afterFirstLine?_eq_none_iff.mp hafter
        simpa [Lexeme.toToken, Lexeme.value, hafter] using hline
      · simp [Lexeme.opening?, hafter]
  | some after =>
      refine .inr ⟨Text.firstLine body, ?_, Text.newline_notMem_firstLine body⟩
      have hbody := Text.eq_of_afterFirstLine? hafter
      simp only [Lexeme.toToken, Lexeme.value, Lexeme.spell, hafter, Option.getD_some]
      calc [backtick] ++ body ++ [backtick]
          = [backtick] ++ (Text.firstLine body ++ '\n' :: after) ++ [backtick] := by rw [← hbody]
        _ = [backtick] ++ Text.firstLine body ++ ['\n'] ++ after ++ [backtick] := by
            simp

/-- The token of a lexeme stands for what the lexeme spells. -/
theorem covers_toToken {level : Nat} {position : Position} {rest : Text} {lexeme : Lexeme}
    {children : List Token} (hfits : lexeme.Fits level rest)
    (hchildren : lexeme.opening? = none → children = []) :
    (lexeme.toToken level position children).Covers lexeme.spell := by
  cases lexeme with
  | spacing run => rfl
  | newline => rfl
  | lineComment body => exact .inl ⟨rfl, hfits.1⟩
  | blockComment body => exact .inr ⟨rfl, hfits⟩
  | greaterOrEquals => rfl
  | lessOrEquals => rfl
  | word name => rfl
  | number format literal => rfl
  | quoted quote body => exact ⟨quote, rfl, hfits.newline_notMem⟩
  | content body => exact covers_content hchildren
  | symbol sign => exact ⟨rfl, rfl⟩

theorem tokenizeFrom_tiles {settings : Settings} (hkeeps : ∀ kind, settings.keeps kind)
    {level : Nat} {position : Position} {text : Text} {tokens : List Token}
    (htokens : tokenizeFrom settings level position text = .ok tokens) :
    ∃ pieces, pieces.flatten = text ∧ Tiles position tokens pieces := by
  induction level, position, text using tokenize_induction generalizing tokens with
  | nil level position =>
      rw [tokenizeFrom_nil] at htokens
      obtain rfl := Except.ok.inj htokens
      exact ⟨[], rfl, .nil⟩
  | flaw level position c text flaw hcut =>
      rw [tokenizeFrom_of_cut_error hcut] at htokens
      contradiction
  | lexeme level position c text lexeme rest hcut _ ih =>
      obtain ⟨children, others, hchildren, hothers, rfl⟩ := (tokenizeFrom_eq_ok_iff hcut).mp htokens
      obtain ⟨pieces, rfl, htiles⟩ := ih hothers
      obtain ⟨hspell, hfits⟩ := Lexeme.cut_eq_ok_iff.mp hcut
      rw [consKept_of_keeps (hkeeps _)]
      refine ⟨lexeme.spell :: pieces, hspell, .cons (Lexeme.cut_ne_nil hcut) rfl rfl ?_ htiles⟩
      apply covers_toToken hfits
      intro hopening
      rw [openingTokens_of_none hopening] at hchildren
      exact (Except.ok.inj hchildren).symm

namespace Tiles

variable {position : Position} {tokens : List Token} {pieces : List Text}

theorem length_eq (htiles : Tiles position tokens pieces) : pieces.length = tokens.length := by
  induction htiles with
  | nil => rfl
  | cons _ _ _ _ _ ih => rw [List.length_cons, List.length_cons, ih]

/-- A token ends where the text before it and its own piece end. -/
theorem stop_eq (htiles : Tiles position tokens pieces) {i : Nat} {token : Token}
    (htoken : tokens[i]? = some token) :
    token.stop = position.after (pieces.take (i + 1)).flatten := by
  induction htiles generalizing i with
  | nil => simp at htoken
  | @cons position first tokens piece pieces _ _ hstop _ _ ih =>
      cases i with
      | zero =>
          obtain rfl : first = token := by simpa using htoken
          simpa using hstop
      | succ i =>
          rw [ih htoken, List.take_succ_cons, List.flatten_cons, Position.after_append]

theorem start_eq (htiles : Tiles position tokens pieces) {i : Nat} {token : Token}
    (htoken : tokens[i]? = some token) :
    token.start = position.after (pieces.take i).flatten := by
  induction htiles generalizing i with
  | nil => simp at htoken
  | @cons position first tokens piece pieces _ hstart _ _ _ ih =>
      cases i with
      | zero =>
          obtain rfl : first = token := by simpa using htoken
          exact hstart
      | succ i =>
          rw [ih htoken, List.take_succ_cons, List.flatten_cons, Position.after_append]

theorem piece_ne_nil (htiles : Tiles position tokens pieces) : ∀ piece ∈ pieces, piece ≠ [] := by
  induction htiles with
  | nil => simp
  | cons hpositive _ _ _ _ ih => exact List.forall_mem_cons.mpr ⟨hpositive, ih⟩

theorem covers (htiles : Tiles position tokens pieces) {i : Nat} {token : Token} {piece : Text}
    (htoken : tokens[i]? = some token) (hpiece : pieces[i]? = some piece) :
    token.Covers piece := by
  induction htiles generalizing i with
  | nil => simp at htoken
  | cons _ _ _ hcovers _ ih =>
      cases i with
      | zero =>
          obtain rfl := Option.some.inj htoken
          obtain rfl := Option.some.inj hpiece
          exact hcovers
      | succ i => exact ih htoken hpiece

theorem stop_of_getLast? (htiles : Tiles position tokens pieces) {last : Token}
    (hlast : tokens.getLast? = some last) : last.stop = position.after pieces.flatten := by
  rw [List.getLast?_eq_getElem?] at hlast
  have hpositive : 0 < tokens.length := by
    obtain ⟨hlength, -⟩ := List.getElem?_eq_some_iff.mp hlast
    omega
  rw [htiles.stop_eq hlast, Nat.sub_add_cancel hpositive, ← htiles.length_eq, List.take_length]

theorem isTiling (htiles : Tiles position tokens pieces) :
    IsTiling position pieces.flatten tokens pieces where
  flatten_eq := rfl
  length_eq := htiles.length_eq
  piece_ne_nil := htiles.piece_ne_nil
  start_eq _ _ htoken := htiles.start_eq htoken
  stop_eq _ _ htoken := htiles.stop_eq htoken
  covers _ _ _ htoken hpiece := htiles.covers htoken hpiece
  stop_eq_start _ _ _ htoken hnext := by rw [htiles.stop_eq htoken, htiles.start_eq hnext]
  last_stop_eq _ hlast := htiles.stop_of_getLast? hlast

end Tiles

/-- The tokens of a text with spacing and comments are consecutive pieces of it. Each piece runs
from the start to the stop of its token and is spelled by the value of the token between the
delimiters of its kind. -/
theorem exists_isTiling_of_tokenizeAt {settings : Settings} (hspacing : settings.keepSpacing)
    (hcomments : settings.keepComments) {base : Position} {text : Text} {tokens : List Token}
    (htokens : tokenizeAt settings base text = .ok tokens) :
    ∃ pieces, IsTiling base text tokens pieces := by
  obtain ⟨pieces, rfl, htiles⟩ := tokenizeFrom_tiles (keeps_of_all hspacing hcomments) htokens
  exact ⟨pieces, htiles.isTiling⟩

/-- A name, a space and a content block whose opening line has a token of its own. -/
theorem exists_isTiling_block :
    ∃ tokens pieces,
      tokenizeAt (Settings.withSpacing {}) ⟨3, 5⟩ ['a', ' ', '\x60', 'b', '\n', 'x', '\x60'] =
          .ok tokens ∧ tokens.length = 3 ∧
        IsTiling ⟨3, 5⟩ ['a', ' ', '\x60', 'b', '\n', 'x', '\x60'] tokens pieces := by
  have htokens : tokenizeAt (Settings.withSpacing {}) ⟨3, 5⟩
      ['a', ' ', '\x60', 'b', '\n', 'x', '\x60'] =
        .ok [⟨.identifier, ['a'], ⟨3, 5⟩, ⟨3, 6⟩, 0, []⟩,
          ⟨.whitespace, [' '], ⟨3, 6⟩, ⟨3, 7⟩, 0, []⟩,
          ⟨.contentBlock, ['x'], ⟨3, 7⟩, ⟨4, 2⟩, 0,
            [⟨.identifier, ['b'], ⟨3, 8⟩, ⟨3, 9⟩, 0, []⟩]⟩] := by
    cbv
  obtain ⟨pieces, htiling⟩ := exists_isTiling_of_tokenizeAt rfl rfl htokens
  exact ⟨_, pieces, htokens, rfl, htiling⟩

end BlockLexer
