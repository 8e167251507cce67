import BlockLexer.Proofs.Lexeme.Fits
import BlockLexer.Proofs.Tokenize

/-! # The lexical grammar

A text belongs to the grammar if it can be cut into consecutive lexemes, each valid at its place.
What a content block may hold depends on the line it is opened on, so a place is given with all the
text before it. Main statements: the tokenizer accepts exactly the texts of the grammar, a text has
at most one cutting, and the tokens are the lexemes of that cutting.
-/

namespace BlockLexer

/-- The lexeme obeys the rule for its kind between `before` and `after`. -/
def Lexeme.IsValidAt (before after : Text) (lexeme : Lexeme) : Prop :=
  lexeme.Fits (Text.indentation (Text.lineAround before (lexeme.spell ++ after))) after

/-- The text that follows `before` is cut into these lexemes. The opening line of a content block
that spans lines is a text of the grammar by itself. -/
inductive Cutting : Text → List Lexeme → Text → Prop
  | nil {before : Text} : Cutting before [] []
  | plain {before : Text} {lexeme : Lexeme} {lexemes : List Lexeme} {rest : Text} :
      lexeme.IsValidAt before rest → lexeme.opening? = none →
        Cutting (before ++ lexeme.spell) lexemes rest →
        Cutting before (lexeme :: lexemes) (lexeme.spell ++ rest)
  | block {before : Text} {lexeme : Lexeme} {inner lexemes : List Lexeme} {opening rest : Text} :
      lexeme.IsValidAt before rest → lexeme.opening? = some opening → Cutting [] inner opening →
        Cutting (before ++ lexeme.spell) lexemes rest →
        Cutting before (lexeme :: lexemes) (lexeme.spell ++ rest)

namespace Cutting

variable {before text : Text}

/-- How a cutting begins. -/
theorem cases_eq {lexemes : List Lexeme} (hcutting : Cutting before lexemes text) :
    (lexemes = [] ∧ text = []) ∨
      ∃ lexeme others rest, lexemes = lexeme :: others ∧ text = lexeme.spell ++ rest ∧
        lexeme.IsValidAt before rest ∧ Cutting (before ++ lexeme.spell) others rest := by
  cases hcutting with
  | nil => exact .inl ⟨rfl, rfl⟩
  | plain hvalid _ hrest => exact .inr ⟨_, _, _, rfl, rfl, hvalid, hrest⟩
  | block hvalid _ _ hrest => exact .inr ⟨_, _, _, rfl, rfl, hvalid, hrest⟩

/-- At one place at most one lexeme is valid. -/
theorem isValidAt_unique {lexeme lexeme' : Lexeme} {rest rest' : Text}
    (hvalid : lexeme.IsValidAt before rest) (hvalid' : lexeme'.IsValidAt before rest')
    (hspell : lexeme.spell ++ rest = lexeme'.spell ++ rest') :
    lexeme = lexeme' ∧ rest = rest' := by
  obtain ⟨c, tail, htext⟩ := List.exists_cons_of_ne_nil
    (List.append_ne_nil_of_left_ne_nil hvalid.spell_ne_nil rest)
  rw [Lexeme.IsValidAt, htext] at hvalid
  rw [Lexeme.IsValidAt, ← hspell, htext] at hvalid'
  have hcut := Lexeme.cut_of_fits htext hvalid
  rw [Lexeme.cut_of_fits (hspell ▸ htext) hvalid'] at hcut
  obtain ⟨hlexeme, hrest⟩ := Prod.mk.inj (Except.ok.inj hcut)
  exact ⟨hlexeme.symm, hrest.symm⟩

/-- No text can be cut in two ways. -/
theorem unique {lexemes lexemes' : List Lexeme} (hcutting : Cutting before lexemes text)
    (hcutting' : Cutting before lexemes' text) : lexemes = lexemes' := by
  have hstep : ∀ {before lexeme rest} {others others' : List Lexeme},
      lexeme.IsValidAt before rest →
      (∀ {lexemes}, Cutting (before ++ lexeme.spell) lexemes rest → others = lexemes) →
      Cutting before others' (lexeme.spell ++ rest) → lexeme :: others = others' := by
    intro before lexeme rest others others' hvalid ih hother
    rcases hother.cases_eq with ⟨-, hnil⟩ | ⟨lexeme', others', rest', rfl, hspell, hvalid', hrest⟩
    · exact absurd (List.append_eq_nil_iff.mp hnil).1 hvalid.spell_ne_nil
    · obtain ⟨rfl, rfl⟩ := isValidAt_unique hvalid hvalid' hspell
      rw [ih hrest]
  induction hcutting generalizing lexemes' with
  | nil =>
      rcases hcutting'.cases_eq with ⟨rfl, -⟩ | ⟨lexeme, _, _, -, hnil, hvalid, -⟩
      · rfl
      · exact absurd (List.append_eq_nil_iff.mp hnil.symm).1 hvalid.spell_ne_nil
  | plain hvalid _ _ ih => exact hstep hvalid ih hcutting'
  | block hvalid _ _ _ _ ih => exact hstep hvalid ih hcutting'

end Cutting

/-- The indentation a tokenizer works with is that of the line it is on, unless no backtick is left
for which it could matter. -/
def IsLevelAt (level : Nat) (before text : Text) : Prop :=
  level = Text.indentation (Text.lineAround before text) ∨ backtick ∉ text

namespace IsLevelAt

variable {level : Nat} {before rest : Text} {lexeme : Lexeme}

theorem isValidAt_iff (hlevel : IsLevelAt level before (lexeme.spell ++ rest)) :
    lexeme.IsValidAt before rest ↔ lexeme.Fits level rest := by
  rcases hlevel with rfl | hbacktick
  · rfl
  · have hspell : backtick ∉ lexeme.spell := by
      intro hmem
      apply hbacktick
      exact List.mem_append_left rest hmem
    constructor
    · intro hfits
      exact hfits.of_backtick_notMem hspell level
    · intro hfits
      exact hfits.of_backtick_notMem hspell _

theorem levelAfter (hlevel : IsLevelAt level before (lexeme.spell ++ rest)) :
    IsLevelAt (lexeme.levelAfter level rest) (before ++ lexeme.spell) rest := by
  rcases hlevel with rfl | hbacktick
  · exact .inl (Text.levelAfter_lineAround before lexeme.spell rest)
  · exact .inr fun hmem => hbacktick (List.mem_append_right _ hmem)

end IsLevelAt

/-- What a tokenizer accepts can be cut, and its tokens are the lexemes that the settings keep. -/
theorem exists_cutting_of_tokenizeFrom {settings : Settings} {level : Nat} {position : Position}
    {before text : Text} {tokens : List Token} (hlevel : IsLevelAt level before text)
    (htokens : tokenizeFrom settings level position text = .ok tokens) :
    ∃ lexemes, Cutting before lexemes text ∧
      tokens.map (fun token => (token.kind, token.value)) =
        (lexemes.filter fun lexeme => settings.keeps lexeme.kind).map
          fun lexeme => (lexeme.kind, lexeme.value) := by
  induction level, position, text using tokenize_induction generalizing before tokens with
  | nil level position =>
      rw [tokenizeFrom_nil] at htokens
      obtain rfl := Except.ok.inj htokens
      exact ⟨[], .nil, rfl⟩
  | flaw level position c text flaw hcut =>
      rw [tokenizeFrom_of_cut_error hcut] at htokens
      contradiction
  | lexeme level position c text lexeme rest hcut ihopening ih =>
      obtain ⟨children, others, hchildren, hothers, rfl⟩ := (tokenizeFrom_eq_ok_iff hcut).mp htokens
      obtain ⟨hspell, hfits⟩ := Lexeme.cut_eq_ok_iff.mp hcut
      rw [← hspell] at hlevel ⊢
      obtain ⟨lexemes, hcutting, hsame⟩ := ih hlevel.levelAfter hothers
      have hvalid := hlevel.isValidAt_iff.mpr hfits
      refine ⟨lexeme :: lexemes, ?_, ?_⟩
      · cases hopening : lexeme.opening? with
        | none => exact .plain hvalid hopening hcutting
        | some opening =>
            -- The opening line has no backtick left, so its own indentation is as good as `level`.
            rw [openingTokens_of_some hopening] at hchildren
            obtain ⟨inner, hinner, -⟩ := ihopening opening hopening
              (.inr (hfits.backtick_notMem_opening hopening) : IsLevelAt level [] opening) hchildren
            exact .block hvalid hopening hinner hcutting
      · by_cases hkeeps : settings.keeps lexeme.kind
        · rw [consKept_of_keeps hkeeps, List.filter_cons_of_pos (by exact hkeeps),
            List.map_cons, List.map_cons, hsame]
          rfl
        · rw [List.filter_cons_of_neg (by exact hkeeps), Settings.consKept,
            if_neg (by exact hkeeps), hsame]

/-- What can be cut is accepted. -/
theorem tokenizeFrom_ok_of_cutting {settings : Settings} {level : Nat} {position : Position}
    {before text : Text} {lexemes : List Lexeme} (hlevel : IsLevelAt level before text)
    (hcutting : Cutting before lexemes text) :
    ∃ tokens, tokenizeFrom settings level position text = .ok tokens := by
  have hstep : ∀ {before lexeme rest level position children others},
      IsLevelAt level before (lexeme.spell ++ rest) → lexeme.IsValidAt before rest →
      openingTokens settings level position lexeme = .ok children →
      tokenizeFrom settings (lexeme.levelAfter level rest) (position.after lexeme.spell) rest =
        .ok others →
      ∃ tokens, tokenizeFrom settings level position (lexeme.spell ++ rest) = .ok tokens := by
    intro before lexeme rest level position children others hlevel hvalid hchildren hothers
    obtain ⟨c, tail, htext⟩ := List.exists_cons_of_ne_nil
      (List.append_ne_nil_of_left_ne_nil hvalid.spell_ne_nil rest)
    have hcut := Lexeme.cut_of_fits htext (hlevel.isValidAt_iff.mp hvalid)
    rw [htext]
    exact ⟨_, (tokenizeFrom_eq_ok_iff hcut).mpr ⟨children, others, hchildren, hothers, rfl⟩⟩
  induction hcutting generalizing level position with
  | nil => exact ⟨[], tokenizeFrom_nil settings level position⟩
  | plain hvalid hopening _ ih =>
      obtain ⟨others, hothers⟩ := ih hlevel.levelAfter
      exact hstep hlevel hvalid (openingTokens_of_none hopening) hothers
  | block hvalid hopening _ _ ihinner ih =>
      obtain ⟨others, hothers⟩ := ih hlevel.levelAfter
      obtain ⟨children, hchildren⟩ := @ihinner level (position.advance backtick)
        (.inr ((hlevel.isValidAt_iff.mp hvalid).backtick_notMem_opening hopening))
      rw [← openingTokens_of_some hopening] at hchildren
      exact hstep hlevel hvalid hchildren hothers

theorem isLevelAt_nil (text : Text) : IsLevelAt (Text.indentation text) [] text := by
  apply Or.inl
  rw [Text.indentation_lineAround]
  rfl

/-- A text is accepted if and only if it can be cut into valid lexemes. There is at most one such
cutting, and the tokens are its lexemes. -/
theorem tokenizeAt_accepts_grammar (settings : Settings) (base : Position) (text : Text) :
    ((∃ tokens, tokenizeAt settings base text = .ok tokens) ↔
        ∃ lexemes, Cutting [] lexemes text) ∧
      (∀ lexemes lexemes', Cutting [] lexemes text → Cutting [] lexemes' text →
        lexemes = lexemes') ∧
      ∀ tokens lexemes, tokenizeAt settings base text = .ok tokens → Cutting [] lexemes text →
        tokens.map (fun token => (token.kind, token.value)) =
          (lexemes.filter fun lexeme => settings.keeps lexeme.kind).map
            fun lexeme => (lexeme.kind, lexeme.value) := by
  refine ⟨⟨?_, ?_⟩, ?_, ?_⟩
  · intro haccepts
    obtain ⟨tokens, htokens⟩ := haccepts
    obtain ⟨lexemes, hcutting, -⟩ := exists_cutting_of_tokenizeFrom (isLevelAt_nil text) htokens
    exact ⟨lexemes, hcutting⟩
  · intro hexists
    obtain ⟨lexemes, hcutting⟩ := hexists
    exact tokenizeFrom_ok_of_cutting (isLevelAt_nil text) hcutting
  · intro lexemes lexemes' hcutting hcutting'
    exact hcutting.unique hcutting'
  · intro tokens lexemes htokens hcutting
    obtain ⟨lexemes', hcutting', hsame⟩ :=
      exists_cutting_of_tokenizeFrom (isLevelAt_nil text) htokens
    rw [hcutting.unique hcutting', hsame]

/-- A number, a line feed and a content block whose opening line is a text of the grammar. -/
theorem exists_cutting_block :
    ∃ lexemes, Cutting [] lexemes ['7', '\n', '\x60', 'b', '\n', 'x', '\x60'] ∧
      (lexemes.map fun lexeme => (lexeme.kind, lexeme.value)) =
        [(.number ⟨',', '.'⟩, ['7']), (.newline, ['\n']), (.contentBlock, ['x'])] := by
  have htokens : tokenizeAt (Settings.withSpacing {}) Position.start
      ['7', '\n', '\x60', 'b', '\n', 'x', '\x60'] =
        .ok [⟨.number ⟨',', '.'⟩, ['7'], ⟨1, 0⟩, ⟨1, 1⟩, 0, []⟩,
          ⟨.newline, ['\n'], ⟨1, 1⟩, ⟨2, 0⟩, 0, []⟩,
          ⟨.contentBlock, ['x'], ⟨2, 0⟩, ⟨3, 2⟩, 0,
            [⟨.identifier, ['b'], ⟨2, 1⟩, ⟨2, 2⟩, 0, []⟩]⟩] := by
    cbv
  obtain ⟨haccepts, -, hlexemes⟩ := tokenizeAt_accepts_grammar (Settings.withSpacing {})
    Position.start ['7', '\n', '\x60', 'b', '\n', 'x', '\x60']
  obtain ⟨lexemes, hcutting⟩ := haccepts.mp ⟨_, htokens⟩
  refine ⟨lexemes, hcutting, ?_⟩
  have hsame := hlexemes _ lexemes htokens hcutting
  rw [List.filter_eq_self.mpr fun lexeme _ => keeps_of_all rfl rfl lexeme.kind] at hsame
  exact hsame.symm

end BlockLexer
