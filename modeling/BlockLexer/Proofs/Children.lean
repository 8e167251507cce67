import BlockLexer.Proofs.Reach

/-! # The children of a content block

Only a content block that spans lines has children, the tokens of its opening line. A backtick on
this line would have closed the block, so there is no block among the children and they have no
children themselves. Main statement: the children of every token are the tokens of an opening line,
tokenized as a text of its own and put on the level of the block.
-/

namespace BlockLexer

namespace Token

/-- The token as one of a line with another indentation. -/
def withLevel (level : Nat) (token : Token) : Token :=
  { token with level }

/-- On the opening line of `token`, behind the backtick, stands `child`. It is neither a block nor a
line end and has no children. -/
structure IsParentOf (token : Token) (opening : Text) (child : Token) : Prop where
  kind_ne_contentBlock : child.kind ≠ .contentBlock
  kind_ne_newline : child.kind ≠ .newline
  children_eq_nil : child.children = []
  start_line_eq : child.start.line = token.start.line
  stop_line_eq : child.stop.line = token.start.line
  start_column_lt : token.start.column < child.start.column
  stop_column_le : child.stop.column ≤ (token.start.after (backtick :: opening)).column

theorem IsParentOf.withLevel {token : Token} {opening : Text} {child : Token}
    (hparent : token.IsParentOf opening child) (level : Nat) :
    token.IsParentOf opening (child.withLevel level) :=
  ⟨hparent.1, hparent.2, hparent.3, hparent.4, hparent.5, hparent.6, hparent.7⟩

/-- The token is a block with this opening line. The lines behind it are the value of the token, and
the tokens of the opening line are its children. -/
structure IsOpenedBy (settings : Settings) (token : Token) (piece opening : Text) : Prop where
  piece_eq : piece = backtick :: opening ++ '\n' :: token.value ++ [backtick]
  newline_notMem : '\n' ∉ opening
  backtick_notMem : backtick ∉ opening
  exists_tokens : ∃ tokens,
    tokenizeAt settings (token.start.after [backtick]) opening = .ok tokens ∧
      token.children = tokens.map (withLevel token.level)
  isParentOf : ∀ child ∈ token.children, token.IsParentOf opening child

end Token

namespace Lexeme

variable {lexeme : Lexeme}

theorem kind_eq_contentBlock_iff :
    lexeme.kind = .contentBlock ↔ ∃ body, lexeme = .content body := by
  cases lexeme <;> simp [kind]

theorem kind_eq_newline_iff : lexeme.kind = .newline ↔ lexeme = .newline := by
  cases lexeme <;> simp [kind]

theorem opening?_eq_none_of_notMem (hbacktick : backtick ∉ lexeme.spell) :
    lexeme.opening? = none := by
  cases hopening : lexeme.opening? with
  | none => rfl
  | some opening =>
      obtain ⟨value, rfl, -⟩ := opening?_eq_some_iff.mp hopening
      exact absurd List.mem_cons_self hbacktick

/-- The lexemes with an opening line are the content blocks that span lines. -/
theorem exists_opening?_iff :
    (∃ opening, lexeme.opening? = some opening) ↔
      lexeme.kind = .contentBlock ∧ '\n' ∈ lexeme.spell := by
  constructor
  · intro hopening
    obtain ⟨opening, hopening⟩ := hopening
    obtain ⟨value, rfl, -⟩ := opening?_eq_some_iff.mp hopening
    exact ⟨rfl, by simp [spell]⟩
  · intro hspans
    obtain ⟨hkind, hline⟩ := hspans
    obtain ⟨body, rfl⟩ := kind_eq_contentBlock_iff.mp hkind
    cases hafter : Text.afterFirstLine? body with
    | none =>
        have hbody := Text.afterFirstLine?_eq_none_iff.mp hafter
        simp [spell, hbody, backtick] at hline
    | some value => exact ⟨Text.firstLine body, by rw [opening?, hafter, Option.map_some]⟩

end Lexeme

variable {settings : Settings} {base : Position} {level : Nat} {position : Position}

/-- The level of a line without backticks is written on its tokens and does nothing else. -/
theorem tokenizeFrom_eq_map_withLevel {text : Text} (hline : '\n' ∉ text)
    (hbacktick : backtick ∉ text) (level' : Nat) :
    tokenizeFrom settings level' position text =
      (tokenizeFrom settings level position text).map (List.map (Token.withLevel level')) := by
  induction level, position, text using tokenize_induction with
  | nil level position =>
      rw [tokenizeFrom_nil, tokenizeFrom_nil]
      rfl
  | flaw level position c text flaw hcut =>
      have hcut' : Lexeme.cut level' c text = .error flaw := by
        rwa [Lexeme.cut_of_ne_backtick (Ne.symm (List.ne_of_not_mem_cons hbacktick)) level' level]
      rw [tokenizeFrom_of_cut_error hcut, tokenizeFrom_of_cut_error hcut']
      rfl
  | lexeme level position c text lexeme rest hcut _ ih =>
      have hcut' : Lexeme.cut level' c text = .ok (lexeme, rest) := by
        rwa [Lexeme.cut_of_ne_backtick (Ne.symm (List.ne_of_not_mem_cons hbacktick)) level' level]
      rw [← Lexeme.cut_spell hcut, List.mem_append, not_or] at hline hbacktick
      have hopening := Lexeme.opening?_eq_none_of_notMem hbacktick.1
      have hrest := ih hline.2 hbacktick.2
      rw [tokenizeFrom_of_cut_ok hcut, tokenizeFrom_of_cut_ok hcut',
        openingTokens_of_none hopening, openingTokens_of_none hopening]
      simp only [Lexeme.levelAfter, if_neg hline.1] at hrest ⊢
      rw [hrest]
      cases tokenizeFrom settings level (position.after lexeme.spell) rest with
      | error error => rfl
      | ok others =>
          have hkind : ∀ token : Token, (token.withLevel level').kind = token.kind := fun _ => rfl
          have hkept := settings.map_consKept hkind (lexeme.toToken level position []) others
          exact congrArg Except.ok hkept.symm

section Opening

variable {lexeme : Lexeme} {token : Token} {before after : Text}

theorem Lexeme.YieldsAt.children_eq_nil
    (hyields : lexeme.YieldsAt settings base before after token)
    (hopening : lexeme.opening? = none) : token.children = [] := by
  have hchildren := hyields.openingTokens_eq
  rw [openingTokens_of_none hopening] at hchildren
  exact (Except.ok.inj hchildren).symm

/-- What is found on an opening line is a child as it should be. -/
theorem isParentOf_of_tokenizeAt {opening : Text} {tokens : List Token} (hline : '\n' ∉ opening)
    (hbacktick : backtick ∉ opening)
    (htokens : tokenizeAt settings (token.start.after [backtick]) opening = .ok tokens) :
    ∀ child ∈ tokens, token.IsParentOf opening child := by
  intro child hchild
  obtain ⟨front, lexeme, behind, rfl, hyields⟩ := exists_yieldsAt_of_tokenizeAt htokens child hchild
  have hplace : ∀ text, '\n' ∉ text → (token.start.after [backtick]).after text =
      ⟨token.start.line, token.start.column + 1 + text.length⟩ := by
    intro text htext
    rw [Position.after_of_notMem htext, Position.after_of_notMem (by decide)]
    rfl
  have hpiece : '\n' ∉ front ++ lexeme.spell := mt (List.mem_append_left behind) hline
  have hspell : backtick ∉ lexeme.spell := by
    intro hmem
    exact hbacktick (List.mem_append_left behind (List.mem_append_right front hmem))
  have hstart := hyields.start_eq.trans (hplace front (mt (List.mem_append_left _) hpiece))
  have hstop := hyields.stop_eq.trans (hplace _ hpiece)
  have hend : (token.start.after (backtick :: (front ++ lexeme.spell ++ behind))).column =
      token.start.column + 1 + (front ++ lexeme.spell ++ behind).length :=
    congrArg Position.column (hplace _ hline)
  refine ⟨?_, ?_, hyields.children_eq_nil (Lexeme.opening?_eq_none_of_notMem hspell), ?_, ?_, ?_,
    ?_⟩
  · rw [hyields.kind_eq]
    intro hkind
    obtain ⟨body, rfl⟩ := Lexeme.kind_eq_contentBlock_iff.mp hkind
    exact hspell List.mem_cons_self
  · rw [hyields.kind_eq]
    intro hkind
    obtain rfl := Lexeme.kind_eq_newline_iff.mp hkind
    exact hpiece (List.mem_append_right front List.mem_cons_self)
  · rw [hstart]
  · rw [hstop]
  · rw [hstart]
    exact Nat.lt_add_right front.length (Nat.lt_succ_self token.start.column)
  · rw [hstop, hend]
    exact Nat.add_le_add_left (List.sublist_append_left _ behind).length_le _

/-- The children are the tokens of the opening line as a text of its own, but for the level. -/
theorem Lexeme.YieldsAt.exists_tokens {opening : Text}
    (hyields : lexeme.YieldsAt settings base before after token)
    (hopening : lexeme.opening? = some opening) :
    ∃ tokens, tokenizeAt settings (token.start.after [backtick]) opening = .ok tokens ∧
      token.children = tokens.map (Token.withLevel token.level) := by
  have hbacktick := Lexeme.Fits.backtick_notMem_opening hyields.isValidAt hopening
  obtain ⟨value, rfl, hline⟩ := Lexeme.opening?_eq_some_iff.mp hopening
  have hchildren := hyields.openingTokens_eq
  rw [openingTokens_of_some hopening] at hchildren
  have hlevel : tokenizeFrom settings token.level (token.start.after [backtick]) opening =
      (tokenizeAt settings (token.start.after [backtick]) opening).map
        (List.map (Token.withLevel token.level)) :=
    tokenizeFrom_eq_map_withLevel hline hbacktick token.level
  have hmap := hlevel.symm.trans hchildren
  cases htokens : tokenizeAt settings (token.start.after [backtick]) opening with
  | error error =>
      rw [htokens] at hmap
      contradiction
  | ok tokens =>
      rw [htokens] at hmap
      exact ⟨tokens, rfl, (Except.ok.inj hmap).symm⟩

/-- The token of a lexeme with an opening line is the block over this line. -/
theorem Lexeme.YieldsAt.isOpenedBy {opening : Text}
    (hyields : lexeme.YieldsAt settings base before after token)
    (hopening : lexeme.opening? = some opening) :
    token.IsOpenedBy settings lexeme.spell opening := by
  have hbacktick := Lexeme.Fits.backtick_notMem_opening hyields.isValidAt hopening
  obtain ⟨tokens, htokens, hsame⟩ := hyields.exists_tokens hopening
  obtain ⟨value, rfl, hline⟩ := Lexeme.opening?_eq_some_iff.mp hopening
  have hvalue := hyields.value_eq
  rw [Lexeme.value, Text.afterFirstLine?_append_newline hline, Option.getD_some] at hvalue
  refine ⟨?_, hline, hbacktick, ⟨tokens, htokens, hsame⟩, ?_⟩
  · rw [hvalue, Lexeme.spell]
    simp
  · rw [hsame]
    intro child hchild
    obtain ⟨found, hfound, rfl⟩ := List.mem_map.mp hchild
    exact (isParentOf_of_tokenizeAt hline hbacktick htokens found hfound).withLevel token.level

end Opening

/-- Only content blocks that span lines have children. The opening line of such a block holds no
backtick, and the children are its tokens, tokenized as a text behind the backtick and put on the
level of the block: neither blocks nor line ends, without children, and all on this line. What
follows the line up to the closing backtick is the value. -/
theorem children_are_opening_line {text : Text} {tokens : List Token}
    (htokens : tokenizeAt settings base text = .ok tokens) :
    ∀ token ∈ tokens, ∃ front piece behind, text = front ++ piece ++ behind ∧
      token.start = base.after front ∧ token.stop = base.after (front ++ piece) ∧
      (token.children ≠ [] → token.kind = .contentBlock ∧ '\n' ∈ piece) ∧
      (token.kind = .contentBlock → '\n' ∈ piece →
        ∃ opening, token.IsOpenedBy settings piece opening) := by
  intro token htoken
  obtain ⟨front, lexeme, behind, htext, hyields⟩ :=
    exists_yieldsAt_of_tokenizeAt htokens token htoken
  refine ⟨front, lexeme.spell, behind, htext, hyields.start_eq, hyields.stop_eq, ?_, ?_⟩
  · intro hchildren
    rw [hyields.kind_eq]
    apply Lexeme.exists_opening?_iff.mp
    cases hopening : lexeme.opening? with
    | none => exact absurd (hyields.children_eq_nil hopening) hchildren
    | some opening => exact ⟨opening, rfl⟩
  · intro hkind hline
    rw [hyields.kind_eq] at hkind
    obtain ⟨opening, hopening⟩ := Lexeme.exists_opening?_iff.mpr ⟨hkind, hline⟩
    exact ⟨opening, hyields.isOpenedBy hopening⟩

/-- An indented block with a token on its opening line and a backtick on a deeper line. -/
theorem children_of_indented_block :
    let child : Token := ⟨.identifier, ['a'], ⟨3, 9⟩, ⟨3, 10⟩, 1, []⟩
    let token : Token :=
      ⟨.contentBlock, ['\t', '\t', '\x60', '\n', '\t'], ⟨3, 8⟩, ⟨5, 2⟩, 1, [child]⟩
    let text : Text :=
      ['\t', 'k', ' ', '\x60', 'a', '\n', '\t', '\t', '\x60', '\n', '\t', '\x60']
    ∃ tokens, tokenizeAt {} ⟨3, 5⟩ text = .ok tokens ∧ token ∈ tokens ∧
      ∃ piece opening, token.IsOpenedBy {} piece opening := by
  intro child token text
  have htokens : tokenizeAt {} ⟨3, 5⟩ text =
      .ok [⟨.identifier, ['k'], ⟨3, 6⟩, ⟨3, 7⟩, 1, []⟩, token] := by
    cbv
  have htoken : token ∈ [⟨.identifier, ['k'], ⟨3, 6⟩, ⟨3, 7⟩, 1, []⟩, token] :=
    List.mem_cons_of_mem _ List.mem_cons_self
  obtain ⟨-, piece, -, -, -, -, hspans, hopened⟩ := children_are_opening_line htokens token htoken
  obtain ⟨hkind, hline⟩ := hspans (List.cons_ne_nil _ _)
  obtain ⟨opening, hopening⟩ := hopened hkind hline
  exact ⟨_, htokens, htoken, piece, opening, hopening⟩

end BlockLexer
