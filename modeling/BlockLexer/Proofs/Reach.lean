import BlockLexer.Proofs.Grammar
import BlockLexer.Proofs.Position

/-! # The places a tokenizer comes to

A tokenizer goes from one place in a text to the next, a lexeme at a time. `Reaches` says which
places it comes to and which tokens it has got by then; what it does next is fixed by the place
alone. Main statements: a text tokenizes if and only if its end is reached, and every token is that
of a lexeme at a place which is reached.
-/

namespace BlockLexer

/-- Indentation of the line on which the place between `before` and `after` lies. It is found by
looking back from the place for the beginning of the line. -/
def Text.levelAt (before after : Text) : Nat :=
  indentation (lineAround before after)

/-- Between `before` and `after` the lexeme is valid and `token` is its token. The children are the
tokens of the opening line. -/
structure Lexeme.YieldsAt (settings : Settings) (base : Position) (before after : Text)
    (lexeme : Lexeme) (token : Token) : Prop where
  isValidAt : lexeme.IsValidAt before after
  token_eq : token = lexeme.toToken (Text.levelAt before (lexeme.spell ++ after))
    (base.after before) token.children
  openingTokens_eq :
    openingTokens settings token.level token.start lexeme = .ok token.children

/-- Tokenizing comes to the place between `before` and `after`, with these tokens for `before`. -/
inductive Reaches (settings : Settings) (base : Position) : Text → List Token → Text → Prop
  | start {text : Text} : Reaches settings base [] [] text
  | step {before rest : Text} {tokens : List Token} {lexeme : Lexeme} {token : Token} :
      Reaches settings base before tokens (lexeme.spell ++ rest) →
        lexeme.YieldsAt settings base before rest token →
        Reaches settings base (before ++ lexeme.spell) (tokens ++ settings.consKept token []) rest

theorem Text.levelAt_nil (text : Text) : levelAt [] text = indentation text :=
  indentation_lineAround [] text

/-- The level behind a lexeme is that of the place behind it. -/
theorem Lexeme.levelAfter_levelAt (lexeme : Lexeme) (before rest : Text) :
    lexeme.levelAfter (Text.levelAt before (lexeme.spell ++ rest)) rest =
      Text.levelAt (before ++ lexeme.spell) rest :=
  Text.levelAfter_lineAround before lexeme.spell rest

variable {settings : Settings} {base : Position} {before after : Text} {tokens : List Token}

namespace Lexeme

variable {lexeme : Lexeme} {token : Token}

/-- A valid lexeme is what the tokenizer cuts off. -/
theorem IsValidAt.exists_cut (hvalid : lexeme.IsValidAt before after) :
    ∃ c tail, lexeme.spell ++ after = c :: tail ∧
      cut (Text.levelAt before (lexeme.spell ++ after)) c tail = .ok (lexeme, after) := by
  obtain ⟨c, tail, htext⟩ := List.exists_cons_of_ne_nil
    (List.append_ne_nil_of_left_ne_nil hvalid.spell_ne_nil after)
  exact ⟨c, tail, htext, cut_of_fits htext hvalid⟩

namespace YieldsAt

theorem of_openingTokens {children : List Token} (hvalid : lexeme.IsValidAt before after)
    (hchildren : openingTokens settings (Text.levelAt before (lexeme.spell ++ after))
      (base.after before) lexeme = .ok children) :
    lexeme.YieldsAt settings base before after
      (lexeme.toToken (Text.levelAt before (lexeme.spell ++ after)) (base.after before) children) :=
  ⟨hvalid, rfl, hchildren⟩

variable (hyields : lexeme.YieldsAt settings base before after token)
include hyields

theorem level_eq : token.level = Text.levelAt before (lexeme.spell ++ after) :=
  congrArg Token.level hyields.token_eq

theorem start_eq : token.start = base.after before :=
  congrArg Token.start hyields.token_eq

theorem stop_eq : token.stop = base.after (before ++ lexeme.spell) := by
  rw [Position.after_append]
  exact congrArg Token.stop hyields.token_eq

theorem kind_eq : token.kind = lexeme.kind :=
  congrArg Token.kind hyields.token_eq

theorem value_eq : token.value = lexeme.value :=
  congrArg Token.value hyields.token_eq

/-- What is tokenized at the place begins with the token and goes on behind the lexeme. -/
theorem tokenizeFrom_eq :
    tokenizeFrom settings (Text.levelAt before (lexeme.spell ++ after)) (base.after before)
        (lexeme.spell ++ after) =
      (tokenizeFrom settings (Text.levelAt (before ++ lexeme.spell) after)
        (base.after (before ++ lexeme.spell)) after).map (settings.consKept token) := by
  obtain ⟨c, tail, htext, hcut⟩ := hyields.isValidAt.exists_cut
  have hchildren := hyields.openingTokens_eq
  rw [hyields.level_eq, hyields.start_eq] at hchildren
  have hstep := @tokenizeFrom_of_cut_ok settings _ (base.after before) _ _ _ _ hcut
  rw [hchildren, lexeme.levelAfter_levelAt, ← Position.after_append, ← htext] at hstep
  rw [hstep, hyields.token_eq]
  rfl

end YieldsAt

end Lexeme

namespace Reaches

/-- Tokenizing a text goes on at every place it comes to. -/
theorem tokenizeAt_eq (hreaches : Reaches settings base before tokens after) :
    tokenizeAt settings base (before ++ after) =
      (tokenizeFrom settings (Text.levelAt before after) (base.after before) after).map
        (tokens ++ ·) := by
  induction hreaches with
  | @start text =>
      rw [Text.levelAt_nil]
      exact (id_map _).symm
  | @step before rest tokens lexeme token _ hyields ih =>
      rw [List.append_assoc, ih, hyields.tokenizeFrom_eq]
      cases tokenizeFrom settings (Text.levelAt (before ++ lexeme.spell) rest)
          (base.after (before ++ lexeme.spell)) rest with
      | error error => rfl
      | ok others =>
          simp only [Except.map, List.append_assoc, Settings.consKept_append, List.nil_append]

theorem append_of_tokenizeFrom {others : List Token}
    (hreaches : Reaches settings base before tokens after)
    (hothers : tokenizeFrom settings (Text.levelAt before after) (base.after before) after =
      .ok others) :
    Reaches settings base (before ++ after) (tokens ++ others) [] := by
  generalize hlevel : Text.levelAt before after = level at hothers
  generalize hposition : base.after before = position at hothers
  induction level, position, after using tokenize_induction generalizing before tokens others with
  | nil level position =>
      rw [tokenizeFrom_nil] at hothers
      rwa [← Except.ok.inj hothers, List.append_nil, List.append_nil]
  | flaw level position c text flaw hcut =>
      rw [tokenizeFrom_of_cut_error hcut] at hothers
      contradiction
  | lexeme level position c text lexeme rest hcut _ ih =>
      obtain ⟨children, behind, hchildren, hbehind, rfl⟩ := (tokenizeFrom_eq_ok_iff hcut).mp hothers
      obtain ⟨hspell, hfits⟩ := Lexeme.cut_eq_ok_iff.mp hcut
      rw [← hspell] at hreaches hlevel ⊢
      subst hlevel hposition
      have hstep := hreaches.step (.of_openingTokens hfits hchildren)
      have hend := ih hstep (lexeme.levelAfter_levelAt before rest).symm
        (Position.after_append _ _ _) hbehind
      rwa [List.append_assoc, List.append_assoc, Settings.consKept_append] at hend

/-- Tokenizing succeeds if and only if it comes to the end of the text. -/
theorem end_iff {text : Text} :
    Reaches settings base text tokens [] ↔ tokenizeAt settings base text = .ok tokens := by
  constructor
  · intro hreaches
    have hend := hreaches.tokenizeAt_eq
    rw [List.append_nil, tokenizeFrom_nil] at hend
    rw [hend, Except.map, List.append_nil]
  · intro htokens
    rw [tokenizeAt, ← Text.levelAt_nil] at htokens
    exact append_of_tokenizeFrom .start htokens

/-- Every token found on the way is that of a lexeme at a place on the way. -/
theorem exists_yieldsAt (hreaches : Reaches settings base before tokens after) {token : Token}
    (htoken : token ∈ tokens) :
    ∃ (front : Text) (lexeme : Lexeme) (behind : Text), before = front ++ lexeme.spell ++ behind ∧
      lexeme.YieldsAt settings base front (behind ++ after) token := by
  induction hreaches with
  | start => contradiction
  | @step before rest tokens lexeme found _ hyields ih =>
      rcases List.mem_append.mp htoken with hearlier | hlast
      · obtain ⟨front, lexeme', behind, rfl, hyields'⟩ := ih hearlier
        refine ⟨front, lexeme', behind ++ lexeme.spell, ?_, ?_⟩
        · rw [List.append_assoc]
        · rwa [List.append_assoc]
      · obtain rfl : token = found := by
          unfold Settings.consKept at hlast
          split at hlast
          · exact List.mem_singleton.mp hlast
          · contradiction
        exact ⟨before, lexeme, [], (List.append_nil _).symm, hyields⟩

end Reaches

/-- Every token of a text is that of a lexeme which is valid where the token stands. -/
theorem exists_yieldsAt_of_tokenizeAt {text : Text}
    (htokens : tokenizeAt settings base text = .ok tokens) :
    ∀ token ∈ tokens, ∃ (front : Text) (lexeme : Lexeme) (behind : Text),
      text = front ++ lexeme.spell ++ behind ∧
        lexeme.YieldsAt settings base front behind token := by
  intro token htoken
  obtain ⟨front, lexeme, behind, htext, hyields⟩ :=
    (Reaches.end_iff.mpr htokens).exists_yieldsAt htoken
  rw [List.append_nil] at hyields
  exact ⟨front, lexeme, behind, htext, hyields⟩

end BlockLexer
