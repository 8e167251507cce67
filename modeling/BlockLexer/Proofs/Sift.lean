import BlockLexer.Proofs.Tokenize

/-! # Settings as a sieve

The settings may leave out spacing and comments. Main statement: this is the same as keeping
everything first and leaving out these tokens afterwards, among the children of the others as well.
Nothing else changes, and the errors stay what they are.
-/

namespace BlockLexer

namespace Settings

/-- The settings with spacing and comments. -/
def keepingAll (settings : Settings) : Settings :=
  { settings with keepSpacing := true, keepComments := true }

/-- The settings have no use for tokens of this kind: spacing and line ends, or comments. -/
def leavesOut (settings : Settings) (kind : Kind) : Bool :=
  (kind.isTrivia && !settings.keepSpacing) || (kind = .comment && !settings.keepComments)

theorem keeps_eq_not_leavesOut (settings : Settings) (kind : Kind) :
    settings.keeps kind = !settings.leavesOut kind := by
  cases kind <;> simp [keeps, leavesOut, Kind.isTrivia]

end Settings

mutual

/-- The token without those of its children that the settings leave out. -/
def Token.sift (settings : Settings) : Token → Token
  | ⟨kind, value, start, stop, level, children⟩ =>
      ⟨kind, value, start, stop, level, siftAll settings children⟩

/-- The tokens without those that the settings leave out. -/
def Token.siftAll (settings : Settings) : List Token → List Token
  | [] => []
  | token :: tokens =>
      if settings.leavesOut token.kind then siftAll settings tokens
      else sift settings token :: siftAll settings tokens

end

namespace Token

/-- A token that stays is changed in nothing but its children. -/
theorem sift_eq (settings : Settings) (token : Token) :
    token.sift settings = { token with children := siftAll settings token.children } := by
  cases token
  rfl

/-- The sieve works on the tokens of a list one by one. -/
theorem siftAll_eq_map_filter (settings : Settings) (tokens : List Token) :
    siftAll settings tokens =
      (tokens.filter fun token => !settings.leavesOut token.kind).map
        fun token => { token with children := siftAll settings token.children } := by
  induction tokens with
  | nil => rfl
  | cons token tokens ih =>
      rw [siftAll, ih]
      cases hkind : settings.leavesOut token.kind with
      | true => rw [if_pos rfl, List.filter_cons_of_neg (by simp [hkind])]
      | false =>
          rw [if_neg Bool.false_ne_true, List.filter_cons_of_pos (by simp [hkind]), List.map_cons,
            sift_eq]

/-- Taking in a token if it is kept is taking it in anyway and sifting afterwards. -/
theorem consKept_siftAll (settings : Settings) (token : Token) (tokens : List Token) :
    settings.consKept (token.sift settings) (siftAll settings tokens) =
      siftAll settings (settings.keepingAll.consKept token tokens) := by
  have hkind : (token.sift settings).kind = token.kind := by rw [sift_eq]
  rw [consKept_of_keeps (keeps_of_all rfl rfl token.kind), siftAll, Settings.consKept, hkind,
    Settings.keeps_eq_not_leavesOut]
  cases settings.leavesOut token.kind <;> rfl

end Token

/-- The sieve goes through the tokens cut by cut, and into the opening lines. -/
theorem tokenizeFrom_eq_map_siftAll (settings : Settings) (level : Nat) (position : Position)
    (text : Text) :
    tokenizeFrom settings level position text =
      (tokenizeFrom settings.keepingAll level position text).map (Token.siftAll settings) := by
  induction level, position, text using tokenize_induction with
  | nil level position =>
      rw [tokenizeFrom_nil, tokenizeFrom_nil]
      rfl
  | flaw level position c text flaw hcut =>
      rw [tokenizeFrom_of_cut_error hcut, tokenizeFrom_of_cut_error hcut]
      rfl
  | lexeme level position c text lexeme rest hcut ihopening ih =>
      have hchildren :=
        openingTokens_eq_of_opening (Except.map (Token.siftAll settings)) rfl ihopening
      rw [tokenizeFrom_of_cut_ok hcut, tokenizeFrom_of_cut_ok hcut, ih, hchildren]
      cases openingTokens settings.keepingAll level position lexeme with
      | error error => rfl
      | ok children =>
          cases tokenizeFrom settings.keepingAll (lexeme.levelAfter level rest)
              (position.after lexeme.spell) rest with
          | error error => rfl
          | ok others =>
              have hkept := Token.consKept_siftAll settings (lexeme.toToken level position children)
                others
              exact congrArg Except.ok hkept

/-- Leaving out spacing or comments only sifts the tokens: a text fails with the settings if and
only if it fails when everything is kept, with the same error, and if it does not fail, the tokens
are those of everything without the ones that are left out. A token that stays loses the same ones
among its children and is not changed otherwise. -/
theorem tokenizeAt_eq_map_siftAll (settings : Settings) (base : Position) (text : Text) :
    (∀ error, tokenizeAt settings base text = .error error ↔
        tokenizeAt settings.keepingAll base text = .error error) ∧
      tokenizeAt settings base text =
        (tokenizeAt settings.keepingAll base text).map (Token.siftAll settings) ∧
      ∀ tokens, Token.siftAll settings tokens =
        (tokens.filter fun token => !settings.leavesOut token.kind).map
          fun token => { token with children := Token.siftAll settings token.children } := by
  have hsifted : tokenizeAt settings base text =
      (tokenizeAt settings.keepingAll base text).map (Token.siftAll settings) :=
    tokenizeFrom_eq_map_siftAll settings (Text.indentation text) base text
  refine ⟨?_, hsifted, Token.siftAll_eq_map_filter settings⟩
  intro error
  rw [hsifted]
  cases tokenizeAt settings.keepingAll base text with
  | error found => exact Iff.rfl
  | ok tokens => exact iff_of_false (by simp [Except.map]) (by simp)

end BlockLexer
