import BlockLexer.Proofs.Position
import BlockLexer.Proofs.Block.Follow
import BlockLexer.Proofs.Tokenize

/-! # Tokenizing piece by piece

A text may be cut at any line end where no block is open, as the tracker sees it, and the pieces
tokenized one after the other: the tokens, or the first error, are those of the whole text.
-/

namespace BlockLexer

theorem Lexeme.levelAfter_append {rest : Text} (hrest : '\n' ∈ rest) (lexeme : Lexeme) (level : Nat)
    (more : Text) : lexeme.levelAfter level (rest ++ more) = lexeme.levelAfter level rest := by
  unfold Lexeme.levelAfter
  split
  · rw [← List.append_assoc, Text.indentation_append_of_mem (List.mem_append_right _ hrest)]
  · rfl

/-- Where the tracker sees no block open at the line end, a cut does not depend on what follows. -/
theorem Lexeme.cut_append_of_follow {level : Nat} {c : Char} {text : Text}
    (hwhole : Text.IsWholeLines (c :: text))
    (hclosed : OpenBlock.follow level .code (c :: text) = none) (more : Text) :
    cut level c (text ++ more) = (cut level c text).map (Prod.map id (· ++ more)) := by
  apply cut_append hwhole
  intro hunclosed
  have hopen := OpenBlock.follow_of_isUnclosed hunclosed
  rw [hclosed] at hopen
  contradiction

/-- Whole lines that leave no block open are tokenized by themselves, and so is what follows. -/
theorem tokenizeFrom_append {settings : Settings} {level : Nat} {position : Position} {text : Text}
    (hwhole : Text.IsWholeLines text) (hclosed : OpenBlock.follow level .code text = none)
    (more : Text) :
    tokenizeFrom settings level position (text ++ more) =
      (do
        let tokens ← tokenizeFrom settings level position text
        let others ←
          tokenizeFrom settings (Text.levelAfter level text more) (position.after text) more
        .ok (tokens ++ others)) := by
  -- The tracker is in step with the cuts, so that no cut leaves a block open at the line end.
  induction level, position, text using tokenize_induction with
  | nil level position =>
      rw [tokenizeFrom_nil]
      exact (bind_pure _).symm
  | flaw level position c text flaw hcut =>
      have hcut' : Lexeme.cut level c (text ++ more) = .error flaw := by
        rw [Lexeme.cut_append_of_follow hwhole hclosed, hcut]
        rfl
      rw [tokenizeFrom_of_cut_error hcut, List.cons_append, tokenizeFrom_of_cut_error hcut']
      rfl
  | lexeme level position c text lexeme rest hcut _ ih =>
      have hcut' : Lexeme.cut level c (text ++ more) = .ok (lexeme, rest ++ more) := by
        rw [Lexeme.cut_append_of_follow hwhole hclosed, hcut]
        rfl
      rw [tokenizeFrom_of_cut_ok hcut, List.cons_append, tokenizeFrom_of_cut_ok hcut']
      obtain ⟨hspell, hfits⟩ := Lexeme.cut_eq_ok_iff.mp hcut
      rw [← hspell] at hwhole hclosed ⊢
      rw [OpenBlock.follow_spell hfits] at hclosed
      cases openingTokens settings level position lexeme with
      | error error => rfl
      | ok children =>
          have hconsKept := settings.consKept_append (lexeme.toToken level position children)
          by_cases hrest : rest = []
          · -- Only here can `more` still decide the level behind the lexeme.
            subst hrest
            rw [tokenizeFrom_nil, List.append_nil, List.nil_append]
            simp only [bind, Except.bind, hconsKept, List.nil_append]
            rfl
          · have hline : '\n' ∈ rest := hwhole.of_append.newline_mem hrest
            have hafter : Text.levelAfter level (lexeme.spell ++ rest) more =
                Text.levelAfter (lexeme.levelAfter level rest) rest more := by
              rw [Text.levelAfter_append, ← lexeme.levelAfter_append hline level more]
              rfl
            rw [lexeme.levelAfter_append hline, ih hwhole.of_append hclosed, hafter,
              Position.after_append]
            cases tokenizeFrom settings (lexeme.levelAfter level rest)
                (position.after lexeme.spell) rest with
            | error error => rfl
            | ok tokens =>
                simp only [bind, Except.bind, hconsKept]
                cases tokenizeFrom settings
                    (Text.levelAfter (lexeme.levelAfter level rest) rest more)
                    ((position.after lexeme.spell).after rest) more <;> rfl

/-- The same for texts that begin at the beginning of a line. -/
theorem tokenizeAt_append {settings : Settings} {base : Position} {text : Text}
    (hwhole : Text.IsWholeLines text) (hclosed : OpenBlock.afterLines none text = none)
    (more : Text) :
    tokenizeAt settings base (text ++ more) =
      (do
        let tokens ← tokenizeAt settings base text
        let others ← tokenizeAt settings (base.after text) more
        .ok (tokens ++ others)) := by
  rw [OpenBlock.afterLines_none] at hclosed
  by_cases htext : text = []
  · rw [htext, tokenizeAt, tokenizeAt, tokenizeFrom_nil]
    exact (bind_pure _).symm
  · rw [tokenizeAt, Text.indentation_append_of_mem (hwhole.newline_mem htext),
      tokenizeFrom_append hwhole hclosed, Text.levelAfter_of_isWholeLines hwhole htext]
    rfl

/-- The lines of a text may be divided behind any line that leaves no block open. -/
theorem tokenizeAt_of_lines_eq_append {settings : Settings} {base : Position} {text : Text}
    {front behind : List Text} (hlines : Text.lines text = front ++ behind)
    (hclosed : behind ≠ [] → front.foldl OpenBlock.afterLine none = none) :
    tokenizeAt settings base text =
      (do
        let tokens ← tokenizeAt settings base front.flatten
        let others ← tokenizeAt settings (base.after front.flatten) behind.flatten
        .ok (tokens ++ others)) := by
  obtain ⟨hfront, -, hwhole⟩ := Text.lines_flatten_of_append hlines
  rw [← Text.flatten_lines text, hlines, List.flatten_append]
  by_cases hempty : behind = []
  · rw [hempty, List.flatten_nil, List.append_nil]
    cases tokenizeAt settings base front.flatten with
    | error error => rfl
    | ok tokens =>
        rw [tokenizeAt, tokenizeFrom_nil]
        exact congrArg Except.ok (List.append_nil tokens).symm
  · apply tokenizeAt_append (hwhole hempty)
    rw [OpenBlock.afterLines, hfront]
    exact hclosed hempty

theorem exists_of_tokenizeAt_lines {settings : Settings} {base : Position} {text : Text}
    {front behind : List Text} {tokens : List Token} (hlines : Text.lines text = front ++ behind)
    (hclosed : behind ≠ [] → front.foldl OpenBlock.afterLine none = none)
    (htokens : tokenizeAt settings base text = .ok tokens) :
    ∃ first others, tokenizeAt settings base front.flatten = .ok first ∧
      tokenizeAt settings (base.after front.flatten) behind.flatten = .ok others ∧
      tokens = first ++ others := by
  rw [tokenizeAt_of_lines_eq_append hlines hclosed] at htokens
  cases hfirst : tokenizeAt settings base front.flatten with
  | error error =>
      rw [hfirst] at htokens
      contradiction
  | ok first =>
      cases hothers : tokenizeAt settings (base.after front.flatten) behind.flatten with
      | error error =>
          rw [hfirst, hothers] at htokens
          contradiction
      | ok others =>
          rw [hfirst, hothers] at htokens
          exact ⟨first, others, rfl, rfl, (Except.ok.inj htokens).symm⟩

section WholeLines

variable {settings : Settings} {level : Nat} {position : Position} {text : Text}

/-- A text that tokenizes leaves no block open. -/
theorem follow_of_tokenizeFrom {tokens : List Token}
    (htokens : tokenizeFrom settings level position text = .ok tokens) :
    OpenBlock.follow level .code text = none := by
  induction level, position, text using tokenize_induction generalizing tokens with
  | nil level position => exact OpenBlock.follow_nil level .code
  | flaw level position c text flaw hcut =>
      rw [tokenizeFrom_of_cut_error hcut] at htokens
      contradiction
  | lexeme level position c text lexeme rest hcut _ ih =>
      obtain ⟨children, others, -, hothers, -⟩ := (tokenizeFrom_eq_ok_iff hcut).mp htokens
      obtain ⟨hspell, hfits⟩ := Lexeme.cut_eq_ok_iff.mp hcut
      rw [← hspell, OpenBlock.follow_spell hfits]
      exact ih hothers

/-- More text can close a block that is left open, but mends no other error. -/
theorem tokenizeFrom_append_of_error {error : LexicalError} (hwhole : Text.IsWholeLines text)
    (herror : tokenizeFrom settings level position text = .error error)
    (hcomment : error.cause ≠ .unterminatedComment)
    (hcontent : error.cause ≠ .unterminatedContentBlock) (more : Text) :
    tokenizeFrom settings level position (text ++ more) = .error error := by
  induction level, position, text using tokenize_induction with
  | nil level position =>
      rw [tokenizeFrom_nil] at herror
      contradiction
  | flaw level position c text flaw hcut =>
      rw [tokenizeFrom_of_cut_error hcut] at herror
      have hclosed : ¬ Lexeme.IsUnclosed level c text := by
        intro hunclosed
        obtain ⟨found, hfound, hcause⟩ := Lexeme.exists_flaw_of_isUnclosed hunclosed
        obtain rfl := Except.error.inj (hcut.symm.trans hfound)
        rw [← Except.error.inj herror] at hcomment hcontent
        exact hcause.elim hcomment hcontent
      have hcut' : Lexeme.cut level c (text ++ more) = .error flaw := by
        rw [Lexeme.cut_append hwhole hclosed, hcut]
        rfl
      rw [List.cons_append, tokenizeFrom_of_cut_error hcut']
      exact herror
  | lexeme level position c text lexeme rest hcut _ ih =>
      have hclosed : ¬ Lexeme.IsUnclosed level c text := by
        intro hunclosed
        obtain ⟨found, hfound, -⟩ := Lexeme.exists_flaw_of_isUnclosed hunclosed
        rw [hcut] at hfound
        contradiction
      have hcut' : Lexeme.cut level c (text ++ more) = .ok (lexeme, rest ++ more) := by
        rw [Lexeme.cut_append hwhole hclosed, hcut]
        rfl
      rw [List.cons_append, tokenizeFrom_eq_error_iff hcut']
      rcases (tokenizeFrom_eq_error_iff hcut).mp herror with hopening | ⟨children, hchildren, hrest⟩
      · exact .inl hopening
      · rw [← Lexeme.cut_spell hcut] at hwhole
        have hne : rest ≠ [] := by
          intro hnil
          rw [hnil, tokenizeFrom_nil] at hrest
          contradiction
        -- The error behind the lexeme leaves a line end there, and with it the level is settled.
        rw [lexeme.levelAfter_append (hwhole.of_append.newline_mem hne)]
        exact .inr ⟨children, hchildren, ih hwhole.of_append hrest⟩

end WholeLines

/-- Tokenizing composes at line ends. If whole lines tokenize, the tokens of what follows them are
added, or its error is the error. If they fail, and not because a block is left open, they fail in
the same way whatever follows. -/
theorem tokenizeAt_append_of_isWholeLines (settings : Settings) (base : Position) {front : Text}
    (hwhole : Text.IsWholeLines front) (text : Text) :
    (∀ tokens, tokenizeAt settings base front = .ok tokens →
        (∀ others, tokenizeAt settings (base.after front) text = .ok others →
          tokenizeAt settings base (front ++ text) = .ok (tokens ++ others)) ∧
        ∀ error, tokenizeAt settings (base.after front) text = .error error →
          tokenizeAt settings base (front ++ text) = .error error) ∧
      ∀ error, tokenizeAt settings base front = .error error →
        error.cause ≠ .unterminatedComment → error.cause ≠ .unterminatedContentBlock →
          tokenizeAt settings base (front ++ text) = .error error := by
  refine ⟨?_, ?_⟩
  · intro tokens htokens
    have hclosed : OpenBlock.afterLines none front = none := by
      rw [OpenBlock.afterLines_none]
      exact follow_of_tokenizeFrom htokens
    rw [tokenizeAt_append hwhole hclosed, htokens]
    refine ⟨?_, ?_⟩
    · intro others hothers
      rw [hothers]
      rfl
    · intro error herror
      rw [herror]
      rfl
  · intro error herror hcomment hcontent
    have hfront : front ≠ [] := by
      rintro rfl
      rw [tokenizeAt, tokenizeFrom_nil] at herror
      contradiction
    rw [tokenizeAt, Text.indentation_append_of_mem (hwhole.newline_mem hfront)]
    exact tokenizeFrom_append_of_error hwhole herror hcomment hcontent text

/-- Behind a block on two lines comes a word, or a malformed number. Behind a block that is left by
a line indented less comes a backtick, too late to close it. -/
theorem exists_texts_behind_lines :
    ∃ block flawed word number : Text, Text.IsWholeLines block ∧ Text.IsWholeLines flawed ∧
      ∃ tokens others error later,
        tokenizeAt {} Position.start block = .ok tokens ∧
        tokenizeAt {} (Position.start.after block) word = .ok others ∧
        tokenizeAt {} Position.start (block ++ word) = .ok (tokens ++ others) ∧
        tokenizeAt {} (Position.start.after block) number = .error later ∧
        tokenizeAt {} Position.start (block ++ number) = .error later ∧
        tokenizeAt {} Position.start flawed = .error error ∧
        error.cause ≠ .unterminatedComment ∧ error.cause ≠ .unterminatedContentBlock ∧
        tokenizeAt {} Position.start (flawed ++ [backtick]) = .error error := by
  have hblock := Text.isWholeLines_concat ['\x60', '\n', '\x60']
  have hflawed := Text.isWholeLines_concat ['\t', '\x60', '\n', 'c']
  have herror : tokenizeAt {} Position.start ['\t', '\x60', '\n', 'c', '\n'] =
      .error ⟨.unexpectedIndentation, ⟨2, 0⟩, ['c']⟩ := by
    cbv
  have htokens : tokenizeAt {} Position.start ['\x60', '\n', '\x60', '\n'] =
      .ok [⟨.contentBlock, [], ⟨1, 0⟩, ⟨2, 1⟩, 0, []⟩] := by
    cbv
  have hothers : tokenizeAt {} ⟨3, 0⟩ ['c'] =
      .ok [⟨.identifier, ['c'], ⟨3, 0⟩, ⟨3, 1⟩, 0, []⟩] := by
    cbv
  have hlater : tokenizeAt {} ⟨3, 0⟩ ['1', 'x'] =
      .error ⟨.invalidNumber, ⟨3, 0⟩, ['1', 'x']⟩ := by
    cbv
  obtain ⟨hword, -⟩ :=
    (tokenizeAt_append_of_isWholeLines {} Position.start hblock ['c']).1 _ htokens
  obtain ⟨-, hnumber⟩ :=
    (tokenizeAt_append_of_isWholeLines {} Position.start hblock ['1', 'x']).1 _ htokens
  have hsame := (tokenizeAt_append_of_isWholeLines {} Position.start hflawed [backtick]).2 _ herror
    (by decide) (by decide)
  exact ⟨_, _, _, _, hblock, hflawed, _, _, _, _, htokens, hothers, hword _ hothers, hlater,
    hnumber _ hlater, herror, by decide, by decide, hsame⟩

end BlockLexer
