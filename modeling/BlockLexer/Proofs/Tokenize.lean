import BlockLexer.Tokenize

/-! # Following a tokenizer

Tokenizing a text is one cut after the other. What holds of all texts is proved along the cuts, by
`tokenize_induction`; the inversion lemmas say once what a step contributes to the result, so that
no later proof unfolds the recursion.
-/

namespace BlockLexer

/-- Induction along the cuts: a text is empty, or begins with a flaw, or begins with a lexeme whose
opening line and the text behind it come first. -/
theorem tokenize_induction {motive : Nat → Position → Text → Prop}
    (nil : ∀ level position, motive level position [])
    (flaw : ∀ level position c text flaw, Lexeme.cut level c text = .error flaw →
      motive level position (c :: text))
    (lexeme : ∀ level position c text lexeme rest, Lexeme.cut level c text = .ok (lexeme, rest) →
      (∀ opening, lexeme.opening? = some opening →
        motive level (position.advance backtick) opening) →
      motive (lexeme.levelAfter level rest) (position.after lexeme.spell) rest →
      motive level position (c :: text))
    (level : Nat) (position : Position) (text : Text) : motive level position text :=
  match text with
  | [] => nil level position
  | c :: tail =>
      match hcut : Lexeme.cut level c tail with
      | .error found => flaw level position c tail found hcut
      | .ok (found, rest) =>
          lexeme level position c tail found rest hcut
            (fun opening _ =>
              tokenize_induction nil flaw lexeme level (position.advance backtick) opening)
            (tokenize_induction nil flaw lexeme (found.levelAfter level rest)
              (position.after found.spell) rest)
termination_by text.length
decreasing_by
  · exact Lexeme.length_of_cut_opening hcut ‹_›
  · exact Lexeme.length_of_cut hcut

variable {settings : Settings} {level : Nat} {position : Position} {c : Char} {text rest : Text}
  {lexeme : Lexeme}

theorem openingTokens_of_none (hopening : lexeme.opening? = none) :
    openingTokens settings level position lexeme = .ok [] := by
  simp [openingTokens, hopening]

theorem openingTokens_of_some {opening : Text} (hopening : lexeme.opening? = some opening) :
    openingTokens settings level position lexeme =
      tokenizeFrom settings level (position.advance backtick) opening := by
  simp [openingTokens, hopening]

theorem openingTokens_eq_error_iff {error : LexicalError} :
    openingTokens settings level position lexeme = .error error ↔
      ∃ opening, lexeme.opening? = some opening ∧
        tokenizeFrom settings level (position.advance backtick) opening = .error error := by
  cases hopening : lexeme.opening? with
  | none => simp [openingTokens_of_none hopening]
  | some opening => simp [openingTokens_of_some hopening]

/-- What holds between the tokens of every opening line holds between those of a lexeme. -/
theorem openingTokens_eq_of_opening {settings' : Settings} {level' : Nat} {position' : Position}
    (f : Except LexicalError (List Token) → Except LexicalError (List Token))
    (hnone : f (.ok []) = .ok [])
    (hsome : ∀ opening, lexeme.opening? = some opening →
      tokenizeFrom settings level (position.advance backtick) opening =
        f (tokenizeFrom settings' level' (position'.advance backtick) opening)) :
    openingTokens settings level position lexeme =
      f (openingTokens settings' level' position' lexeme) := by
  cases hopening : lexeme.opening? with
  | none => rw [openingTokens_of_none hopening, openingTokens_of_none hopening, hnone]
  | some opening =>
      rw [openingTokens_of_some hopening, openingTokens_of_some hopening]
      exact hsome opening hopening

/-- What a cut contributes to a text that tokenizes. -/
theorem tokenizeFrom_eq_ok_iff {tokens : List Token}
    (hcut : Lexeme.cut level c text = .ok (lexeme, rest)) :
    tokenizeFrom settings level position (c :: text) = .ok tokens ↔
      ∃ children others, openingTokens settings level position lexeme = .ok children ∧
        tokenizeFrom settings (lexeme.levelAfter level rest) (position.after lexeme.spell) rest =
          .ok others ∧
        tokens = settings.consKept (lexeme.toToken level position children) others := by
  rw [tokenizeFrom_of_cut_ok hcut]
  cases openingTokens settings level position lexeme with
  | error error => simp [bind, Except.bind]
  | ok children =>
      cases tokenizeFrom settings (lexeme.levelAfter level rest) (position.after lexeme.spell)
          rest with
      | error error => simp [bind, Except.bind]
      | ok others => simp [bind, Except.bind, eq_comm]

/-- Where the error of a text comes from when its first lexeme is sound. -/
theorem tokenizeFrom_eq_error_iff {error : LexicalError}
    (hcut : Lexeme.cut level c text = .ok (lexeme, rest)) :
    tokenizeFrom settings level position (c :: text) = .error error ↔
      openingTokens settings level position lexeme = .error error ∨
        ∃ children, openingTokens settings level position lexeme = .ok children ∧
          tokenizeFrom settings (lexeme.levelAfter level rest) (position.after lexeme.spell) rest =
            .error error := by
  rw [tokenizeFrom_of_cut_ok hcut]
  cases openingTokens settings level position lexeme with
  | error error => simp [bind, Except.bind]
  | ok children =>
      cases tokenizeFrom settings (lexeme.levelAfter level rest) (position.after lexeme.spell)
          rest with
      | error error => simp [bind, Except.bind]
      | ok others => simp [bind, Except.bind]

theorem consKept_of_keeps {token : Token} {tokens : List Token}
    (hkeeps : settings.keeps token.kind) : settings.consKept token tokens = token :: tokens :=
  if_pos hkeeps

theorem Settings.consKept_append (settings : Settings) (token : Token)
    (tokens others : List Token) :
    settings.consKept token tokens ++ others = settings.consKept token (tokens ++ others) := by
  unfold Settings.consKept
  split <;> rfl

/-- Whether a token is kept depends on its kind alone. -/
theorem Settings.map_consKept (settings : Settings) {f : Token → Token}
    (hkind : ∀ token, (f token).kind = token.kind) (token : Token) (tokens : List Token) :
    (settings.consKept token tokens).map f = settings.consKept (f token) (tokens.map f) := by
  unfold Settings.consKept
  rw [hkind]
  split <;> rfl

/-- With spacing and comments nothing is dropped. -/
theorem keeps_of_all (hspacing : settings.keepSpacing) (hcomments : settings.keepComments)
    (kind : Kind) : settings.keeps kind := by
  unfold Settings.keeps
  split
  · exact hspacing
  · exact hspacing
  · exact hcomments
  · rfl

end BlockLexer
