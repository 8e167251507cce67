import BlockLexer.Proofs.Lexeme.Fits
import BlockLexer.Proofs.Position
import BlockLexer.Proofs.Tokenize

/-! # Tokens at any depth

A token may be a child of another. What is stated of all tokens of a text, those inside others as
well, is stated of those that are `Token.IsWithin` its tokens. Main statement: at whatever depth a
token lies, it is that of a lexeme of the text and stands where this lexeme does.
-/

namespace BlockLexer

/-- The token is one of `tokens` or lies inside one of them. -/
inductive Token.IsWithin (token : Token) : List Token → Prop
  | of_mem {tokens : List Token} : token ∈ tokens → IsWithin token tokens
  | of_children {parent : Token} {tokens : List Token} :
      parent ∈ tokens → IsWithin token parent.children → IsWithin token tokens

namespace Token

variable {token first : Token} {others : List Token}

theorem not_isWithin_nil : ¬ token.IsWithin [] := by
  intro hwithin
  cases hwithin with
  | of_mem htoken => contradiction
  | of_children hparent _ => contradiction

theorem IsWithin.cases_cons (hwithin : token.IsWithin (first :: others)) :
    token = first ∨ token.IsWithin first.children ∨ token.IsWithin others := by
  cases hwithin with
  | of_mem htoken =>
      rcases List.mem_cons.mp htoken with rfl | hothers
      · exact .inl rfl
      · exact .inr (.inr (.of_mem hothers))
  | of_children hparent hchild =>
      rcases List.mem_cons.mp hparent with rfl | hothers
      · exact .inr (.inl hchild)
      · exact .inr (.inr (.of_children hothers hchild))

/-- The settings may drop a token, and those inside it are dropped with it. -/
theorem IsWithin.cases_consKept {settings : Settings}
    (hwithin : token.IsWithin (settings.consKept first others)) :
    token = first ∨ token.IsWithin first.children ∨ token.IsWithin others := by
  unfold Settings.consKept at hwithin
  split at hwithin
  · exact hwithin.cases_cons
  · exact .inr (.inr hwithin)

end Token

/-- In a text that begins at `position`, the lexeme between `front` and `behind` has become the
token. Its surroundings are those of the opening line if that is where it stands. -/
structure Lexeme.IsOriginOf (position : Position) (token : Token) (front : Text) (lexeme : Lexeme) :
    Prop where
  exists_fits : ∃ level rest, lexeme.Fits level rest
  kind_eq : token.kind = lexeme.kind
  value_eq : token.value = lexeme.value
  start_eq : token.start = position.after front
  stop_eq : token.stop = position.after (front ++ lexeme.spell)

/-- A lexeme behind further text stands there in the whole. -/
theorem Lexeme.IsOriginOf.behind {position : Position} {token : Token} {lead front : Text}
    {lexeme : Lexeme} (horigin : lexeme.IsOriginOf (position.after lead) token front) :
    lexeme.IsOriginOf position token (lead ++ front) where
  exists_fits := horigin.exists_fits
  kind_eq := horigin.kind_eq
  value_eq := horigin.value_eq
  start_eq := by rw [horigin.start_eq, Position.after_append]
  stop_eq := by rw [horigin.stop_eq, List.append_assoc, Position.after_append _ lead]

/-- Every token at any depth is that of a lexeme which stands in the text. -/
theorem exists_isOriginOf_of_isWithin {settings : Settings} {level : Nat} {position : Position}
    {text : Text} {tokens : List Token}
    (htokens : tokenizeFrom settings level position text = .ok tokens) {token : Token}
    (hwithin : token.IsWithin tokens) :
    ∃ (front : Text) (lexeme : Lexeme) (behind : Text), text = front ++ lexeme.spell ++ behind ∧
      lexeme.IsOriginOf position token front := by
  induction level, position, text using tokenize_induction generalizing tokens with
  | nil level position =>
      rw [tokenizeFrom_nil] at htokens
      rw [← Except.ok.inj htokens] at hwithin
      exact absurd hwithin Token.not_isWithin_nil
  | flaw level position c text flaw hcut =>
      rw [tokenizeFrom_of_cut_error hcut] at htokens
      contradiction
  | lexeme level position c text lexeme rest hcut ihopening ih =>
      obtain ⟨children, others, hchildren, hothers, rfl⟩ := (tokenizeFrom_eq_ok_iff hcut).mp htokens
      obtain ⟨hspell, hfits⟩ := Lexeme.cut_eq_ok_iff.mp hcut
      rcases hwithin.cases_consKept with rfl | hinside | hbehind
      · refine ⟨[], lexeme, rest, hspell.symm, ⟨level, rest, hfits⟩, rfl, rfl, rfl, rfl⟩
      · -- Inside a block the lexeme stands behind the backtick, on the opening line.
        cases hopening : lexeme.opening? with
        | none =>
            rw [openingTokens_of_none hopening] at hchildren
            obtain rfl := Except.ok.inj hchildren
            exact absurd hinside Token.not_isWithin_nil
        | some opening =>
            rw [openingTokens_of_some hopening] at hchildren
            obtain ⟨front, inner, behind, rfl, horigin⟩ :=
              ihopening opening hopening hchildren hinside
            obtain ⟨value, rfl, -⟩ := Lexeme.opening?_eq_some_iff.mp hopening
            refine ⟨[backtick] ++ front, inner,
              behind ++ '\n' :: value ++ [backtick] ++ rest, ?_, .behind horigin⟩
            rw [← hspell, Lexeme.spell]
            simp only [List.append_assoc, List.cons_append, List.nil_append]
      · obtain ⟨front, inner, behind, rfl, horigin⟩ := ih hothers hbehind
        refine ⟨lexeme.spell ++ front, inner, behind, ?_, .behind horigin⟩
        rw [← hspell, List.append_assoc, List.append_assoc, List.append_assoc]

end BlockLexer
