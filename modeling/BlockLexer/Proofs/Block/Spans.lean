import BlockLexer.Proofs.Composition
import BlockLexer.Proofs.Line.Reader

/-! # Open lines and the tokens across them

A block is open at the end of a line, as the tracker sees it, if and only if the tokenizer finds a
content block or a comment that begins on this line or before it and ends behind it. A content
block that is never closed is open at the end of every line from its own on.
-/

namespace BlockLexer

/-- The token stands for a content block or a comment. -/
def Token.IsBlock (token : Token) : Prop :=
  token.kind = .contentBlock ∨ token.kind = .comment

/-- The token runs across the end of the line with this number. -/
def Token.Crosses (line : Nat) (token : Token) : Prop :=
  token.start.line ≤ line ∧ line < token.stop.line

namespace Lexeme

variable {level : Nat} {rest : Text} {lexeme : Lexeme}

/-- Only blocks run across lines. -/
theorem Fits.cases_of_newline_mem (hfits : lexeme.Fits level rest)
    (hline : '\n' ∈ lexeme.spell) :
    lexeme = .newline ∨ (∃ body, lexeme = .blockComment body) ∨
      ∃ body, lexeme = .content body := by
  cases lexeme with
  | newline => exact .inl rfl
  | blockComment body => exact .inr (.inl ⟨body, rfl⟩)
  | content body => exact .inr (.inr ⟨body, rfl⟩)
  | spacing run => exact absurd (hfits.2.1 '\n' hline) (by decide)
  | lineComment body => exact absurd (by simpa [spell] using hline) hfits.1
  | greaterOrEquals | lessOrEquals => exact absurd hline (by decide)
  | word name =>
      obtain ⟨⟨first, run, rfl, hfirst, hrun⟩, -⟩ := hfits
      rcases List.mem_cons.mp hline with rfl | hmem
      · exact absurd hfirst (by decide)
      · exact absurd (hrun '\n' hmem) (by decide)
  | number format literal =>
      have hliteral := hfits.1.is_literal.isLinked.isDigit_or_isSeparator '\n' hline
      exact absurd hliteral (by decide)
  | quoted quote body =>
      apply absurd hline
      cases quote <;> simp [spell, hfits.newline_notMem, Quote.char]
  | symbol sign =>
      apply absurd hline
      cases sign <;> decide

/-- A block ends in the delimiter that closes it. -/
theorem Fits.not_isWholeLines_spell (hfits : lexeme.Fits level rest)
    (hblock : lexeme.kind = .contentBlock ∨ lexeme.kind = .comment) :
    ¬ Text.IsWholeLines lexeme.spell := by
  intro hwhole
  cases lexeme with
  | lineComment body =>
      have hline := hwhole.newline_mem (List.cons_ne_nil _ _)
      exact absurd (by simpa [spell] using hline) hfits.1
  | blockComment body =>
      exact absurd (hwhole '/' (by rw [spell, List.getLast?_append]; rfl)) (by decide)
  | content body =>
      exact absurd (hwhole backtick (by rw [spell, List.getLast?_append]; rfl)) (by decide)
  | spacing | newline | greaterOrEquals | lessOrEquals | word | number | quoted | symbol =>
      rcases hblock with hkind | hkind <;> contradiction

/-- A block that is cut off at a line end is open there. -/
theorem Fits.open_of_spell_eq_append {front inner : Text} (hfits : lexeme.Fits level rest)
    (hspell : lexeme.spell = front ++ inner) (hfront : front ≠ [])
    (hwhole : Text.IsWholeLines front) (hinner : inner ≠ []) :
    (lexeme.kind = .contentBlock ∨ lexeme.kind = .comment) ∧
      (OpenBlock.follow level .code front).isSome := by
  have hline : '\n' ∈ lexeme.spell := by
    rw [hspell]
    exact List.mem_append_left inner (hwhole.newline_mem hfront)
  rcases hfits.cases_of_newline_mem hline with rfl | ⟨body, rfl⟩ | ⟨body, rfl⟩
  · -- A line feed is too short to be cut in two.
    have hlength := congrArg List.length hspell
    have hfirst := List.length_pos_iff.mpr hfront
    have hsecond := List.length_pos_iff.mpr hinner
    rw [List.length_append] at hlength
    simp only [spell, List.length_singleton] at hlength
    omega
  · refine ⟨.inr rfl, ?_⟩
    obtain ⟨start, more, rfl, rfl⟩ :=
      hwhole.exists_of_append_eq hfront (by decide) (by decide) hspell.symm
    have hstart : ¬ commentClose <:+: start := by
      intro hinside
      apply hfits
      exact hinside.trans (List.prefix_append start more).isInfix
    rw [List.cons_append, List.singleton_append, OpenBlock.follow_comment_enter,
      OpenBlock.follow_comment_open hstart]
    rfl
  · refine ⟨.inl rfl, ?_⟩
    obtain ⟨start, more, rfl, rfl⟩ :=
      hwhole.exists_of_append_eq hfront (by decide) (by decide) hspell.symm
    have hstart := (PassesOver.append_iff.mp hfits.1).1.of_isWholeLines hwhole.of_append
    rw [List.singleton_append, OpenBlock.follow_content_enter,
      OpenBlock.follow_content_open hstart]
    rfl

end Lexeme

section Cross

variable {settings : Settings} {level : Nat} {position : Position} {text : Text}

theorem line_le_start {tokens : List Token}
    (htokens : tokenizeFrom settings level position text = .ok tokens) :
    ∀ token ∈ tokens, position.line ≤ token.start.line := by
  induction level, position, text using tokenize_induction generalizing tokens with
  | nil level position =>
      rw [tokenizeFrom_nil] at htokens
      obtain rfl := Except.ok.inj htokens
      simp
  | flaw level position c text flaw hcut =>
      rw [tokenizeFrom_of_cut_error hcut] at htokens
      contradiction
  | lexeme level position c text lexeme rest hcut _ ih =>
      obtain ⟨children, others, -, hothers, rfl⟩ := (tokenizeFrom_eq_ok_iff hcut).mp htokens
      have hlater : ∀ token ∈ others, position.line ≤ token.start.line := by
        intro token htoken
        apply (position.line_le_line_after lexeme.spell).trans
        exact ih hothers token htoken
      unfold Settings.consKept
      split
      · exact List.forall_mem_cons.mpr ⟨Nat.le_refl _, hlater⟩
      · exact hlater

/-- No token begins behind the last character. -/
theorem start_line_le_lastLine {tokens : List Token}
    (htokens : tokenizeFrom settings level position text = .ok tokens) :
    ∀ token ∈ tokens, token.start.line ≤ position.lastLine text := by
  induction level, position, text using tokenize_induction generalizing tokens with
  | nil level position =>
      rw [tokenizeFrom_nil] at htokens
      obtain rfl := Except.ok.inj htokens
      simp
  | flaw level position c text flaw hcut =>
      rw [tokenizeFrom_of_cut_error hcut] at htokens
      contradiction
  | lexeme level position c text lexeme rest hcut _ ih =>
      obtain ⟨children, others, -, hothers, rfl⟩ := (tokenizeFrom_eq_ok_iff hcut).mp htokens
      have hlater : ∀ token ∈ others, token.start.line ≤ position.lastLine (c :: text) := by
        intro token htoken
        by_cases hrest : rest = []
        · rw [hrest, tokenizeFrom_nil] at hothers
          rw [← Except.ok.inj hothers] at htoken
          contradiction
        · rw [← (Lexeme.cut_eq_ok_iff.mp hcut).1, Position.lastLine_append hrest]
          exact ih hothers token htoken
      unfold Settings.consKept
      split
      · exact List.forall_mem_cons.mpr ⟨position.line_le_lastLine _, hlater⟩
      · exact hlater

theorem start_line_lt_of_isWholeLines {tokens : List Token} (hwhole : Text.IsWholeLines text)
    (htokens : tokenizeFrom settings level position text = .ok tokens) :
    ∀ token ∈ tokens, token.start.line < (position.after text).line := by
  by_cases htext : text = []
  · rw [htext, tokenizeFrom_nil] at htokens
    rw [← Except.ok.inj htokens]
    simp
  · intro token htoken
    have hlast := start_line_le_lastLine htokens token htoken
    rw [position.line_after_of_isWholeLines hwhole htext]
    omega

theorem line_le_error {error : LexicalError}
    (herror : tokenizeFrom settings level position text = .error error) :
    position.line ≤ error.position.line := by
  induction level, position, text using tokenize_induction with
  | nil level position =>
      rw [tokenizeFrom_nil] at herror
      contradiction
  | flaw level position c text flaw hcut =>
      rw [tokenizeFrom_of_cut_error hcut] at herror
      rw [← Except.error.inj herror]
      exact position.line_le_line_after flaw.lead
  | lexeme level position c text lexeme rest hcut ihopening ih =>
      rcases (tokenizeFrom_eq_error_iff hcut).mp herror with hopening | ⟨children, -, hrest⟩
      · obtain ⟨opening, hfound, herror⟩ := openingTokens_eq_error_iff.mp hopening
        apply (position.line_le_line_after [backtick]).trans
        exact ihopening opening hfound herror
      · apply (position.line_le_line_after lexeme.spell).trans
        exact ih hrest

/-- Without a backtick no content block is left open. -/
theorem backtick_mem_of_unterminated {error : LexicalError}
    (herror : tokenizeFrom settings level position text = .error error)
    (hcause : error.cause = .unterminatedContentBlock) : backtick ∈ text := by
  induction level, position, text using tokenize_induction with
  | nil level position =>
      rw [tokenizeFrom_nil] at herror
      contradiction
  | flaw level position c text flaw hcut =>
      rw [tokenizeFrom_of_cut_error hcut] at herror
      rw [← Except.error.inj herror] at hcause
      rw [(Lexeme.never_of_unterminatedContentBlock hcut hcause).1]
      exact List.mem_cons_self
  | lexeme level position c text lexeme rest hcut ihopening ih =>
      obtain ⟨hspell, hfits⟩ := Lexeme.cut_eq_ok_iff.mp hcut
      rcases (tokenizeFrom_eq_error_iff hcut).mp herror with hopening | ⟨children, -, hrest⟩
      · obtain ⟨opening, hfound, herror⟩ := openingTokens_eq_error_iff.mp hopening
        have hmem := ihopening opening hfound herror
        exact absurd hmem (hfits.backtick_notMem_opening hfound)
      · rw [← hspell]
        exact List.mem_append_right _ (ih hrest)

/-- A place in a text lies behind the first lexeme, at its end or within it. -/
theorem append_cases {spell rest front behind : Text} (happend : spell ++ rest = front ++ behind) :
    (∃ start, start ≠ [] ∧ front = spell ++ start ∧ rest = start ++ behind) ∨
      (front = spell ∧ rest = behind) ∨
      ∃ inner, inner ≠ [] ∧ spell = front ++ inner ∧ behind = inner ++ rest := by
  rcases List.append_eq_append_iff.mp happend with ⟨start, hfront, hrest⟩ | ⟨inner, hspell, hbehind⟩
  · by_cases hstart : start = []
    · refine .inr (.inl ⟨?_, ?_⟩)
      · rw [hfront, hstart, List.append_nil]
      · rw [hrest, hstart, List.nil_append]
    · exact .inl ⟨start, hstart, hfront, hrest⟩
  · by_cases hinner : inner = []
    · refine .inr (.inl ⟨?_, ?_⟩)
      · rw [hspell, hinner, List.append_nil]
      · rw [hbehind, hinner, List.nil_append]
    · exact .inr (.inr ⟨inner, hinner, hspell, hbehind⟩)

theorem follow_spell_append {lexeme : Lexeme} {start behind : Text}
    (hfits : lexeme.Fits level (start ++ behind)) (hstart : start ≠ [])
    (hplace : behind ≠ [] → Text.IsWholeLines start) :
    OpenBlock.follow level .code (lexeme.spell ++ start) =
      OpenBlock.follow (lexeme.levelAfter level (start ++ behind)) .code start := by
  rw [OpenBlock.follow_spell hfits.of_append]
  by_cases hbehind : behind = []
  · rw [hbehind, List.append_nil]
  · rw [lexeme.levelAfter_append ((hplace hbehind).newline_mem hstart)]

/-- A lexeme closes the block that it opens. -/
theorem follow_spell_alone {lexeme : Lexeme} {rest : Text} (hfits : lexeme.Fits level rest) :
    OpenBlock.follow level .code lexeme.spell = none := by
  have halone := @Lexeme.Fits.of_append level [] rest lexeme hfits
  have hnothing := OpenBlock.follow_spell halone
  rwa [List.append_nil, OpenBlock.follow_nil] at hnothing

/-- The tokens behind whole lines begin too late to run across the end of these lines. -/
theorem not_crosses_of_isWholeLines {front rest : Text} {tokens : List Token} {token : Token}
    (htokens : tokenizeFrom settings level (position.after front) rest = .ok tokens)
    (htoken : token ∈ tokens) (hfront : front ≠ [])
    (hplace : rest ≠ [] → Text.IsWholeLines front) :
    ¬ token.Crosses (position.lastLine front) := by
  intro hcrosses
  have hrest : rest ≠ [] := by
    intro hnil
    rw [hnil, tokenizeFrom_nil] at htokens
    rw [← Except.ok.inj htokens] at htoken
    contradiction
  have hlater := line_le_start htokens token htoken
  rw [position.line_after_of_isWholeLines (hplace hrest) hfront] at hlater
  exact Nat.not_lt.mpr hcrosses.1 hlater

/-- Somewhere in a text that tokenizes, at a line end or at the end of the text, a block is open if
and only if a token runs across this place. -/
theorem isSome_follow_iff (hkeeps : ∀ kind, settings.keeps kind) {front behind : Text}
    (hsplit : text = front ++ behind) (hfront : front ≠ [])
    (hplace : behind ≠ [] → Text.IsWholeLines front) {tokens : List Token}
    (htokens : tokenizeFrom settings level position text = .ok tokens) :
    (OpenBlock.follow level .code front).isSome ↔
      ∃ token ∈ tokens, token.IsBlock ∧ token.Crosses (position.lastLine front) := by
  -- The place moves along with the cuts until the lexeme that reaches it; everything behind this
  -- lexeme begins too late to run across the place.
  induction level, position, text using tokenize_induction generalizing front tokens with
  | nil level position => exact absurd (List.append_eq_nil_iff.mp hsplit.symm).1 hfront
  | flaw level position c text flaw hcut =>
      rw [tokenizeFrom_of_cut_error hcut] at htokens
      contradiction
  | lexeme level position c text lexeme rest hcut _ ih =>
      obtain ⟨children, others, -, hothers, rfl⟩ := (tokenizeFrom_eq_ok_iff hcut).mp htokens
      obtain ⟨hspell, hfits⟩ := Lexeme.cut_eq_ok_iff.mp hcut
      rw [consKept_of_keeps (hkeeps _), List.exists_mem_cons_iff]
      rcases append_cases (hspell.trans hsplit) with
        ⟨start, hstart, rfl, rfl⟩ | ⟨rfl, rfl⟩ | ⟨inner, hinner, hfound, rfl⟩
      · have hstartPlace : behind ≠ [] → Text.IsWholeLines start :=
          fun hbehind => (hplace hbehind).of_append
        have hbefore : ¬ ((lexeme.toToken level position children).IsBlock ∧
            (lexeme.toToken level position children).Crosses
              (position.lastLine (lexeme.spell ++ start))) := by
          intro hcrosses
          have hstop := hcrosses.2.2
          rw [Position.lastLine_append hstart] at hstop
          exact Nat.not_lt.mpr (Position.line_le_lastLine _ start) hstop
        rw [or_iff_right hbefore, follow_spell_append hfits hstart hstartPlace,
          Position.lastLine_append hstart]
        exact ih rfl hstart hstartPlace hothers
      · rw [follow_spell_alone hfits]
        apply iff_of_false Bool.false_ne_true
        intro hexists
        rcases hexists with ⟨hblock, -, hstop⟩ | ⟨token, htoken, -, hcrosses⟩
        · have hend := position.line_after_of_not_isWholeLines
            (hfits.not_isWholeLines_spell hblock)
          exact absurd hend (Nat.ne_of_gt hstop)
        · exact not_crosses_of_isWholeLines hothers htoken hfront hplace hcrosses
      · have hwhole := hplace (List.append_ne_nil_of_left_ne_nil hinner rest)
        obtain ⟨hblock, hopen⟩ := hfits.open_of_spell_eq_append hfound hfront hwhole hinner
        refine iff_of_true hopen (.inl ⟨hblock, position.line_le_lastLine front, ?_⟩)
        change position.lastLine front < (position.after lexeme.spell).line
        rw [hfound]
        exact position.lastLine_lt_line_after hwhole hfront inner

/-- From the line of a content block that is never closed, a block is open at every line end. -/
theorem isSome_follow_of_unterminated {front behind : Text} (hsplit : text = front ++ behind)
    (hfront : front ≠ []) (hplace : behind ≠ [] → Text.IsWholeLines front) {error : LexicalError}
    (herror : tokenizeFrom settings level position text = .error error)
    (hcause : error.cause = .unterminatedContentBlock)
    (hline : error.position.line ≤ position.lastLine front) :
    (OpenBlock.follow level .code front).isSome := by
  induction level, position, text using tokenize_induction generalizing front with
  | nil level position => exact absurd (List.append_eq_nil_iff.mp hsplit.symm).1 hfront
  | flaw level position c text flaw hcut =>
      rw [tokenizeFrom_of_cut_error hcut] at herror
      rw [← Except.error.inj herror] at hcause
      obtain ⟨rfl, hnever⟩ := Lexeme.never_of_unterminatedContentBlock hcut hcause
      obtain ⟨d, start, rfl⟩ := List.exists_cons_of_ne_nil hfront
      obtain ⟨rfl, rfl⟩ := List.cons.inj hsplit
      rw [Lexeme.closeContent_eq_iff] at hnever
      have hpasses := (Lexeme.PassesOver.append_iff.mp hnever).1
      -- The search went on to the end of the text and so passed over the lines in front of it.
      have hstart : Lexeme.PassesOver level level start [] := by
        by_cases hbehind : behind = []
        · simpa [hbehind] using hpasses
        · apply hpasses.of_isWholeLines
          exact @Text.IsWholeLines.of_append [backtick] start (hplace hbehind)
      rw [OpenBlock.follow_content_enter, OpenBlock.follow_content_open hstart]
      rfl
  | lexeme level position c text lexeme rest hcut _ ih =>
      obtain ⟨hspell, hfits⟩ := Lexeme.cut_eq_ok_iff.mp hcut
      have hrest : tokenizeFrom settings (lexeme.levelAfter level rest)
          (position.after lexeme.spell) rest = .error error := by
        rcases (tokenizeFrom_eq_error_iff hcut).mp herror with hopening | ⟨children, -, hrest⟩
        · obtain ⟨opening, hfound, hinner⟩ := openingTokens_eq_error_iff.mp hopening
          have hmem := backtick_mem_of_unterminated hinner hcause
          exact absurd hmem (hfits.backtick_notMem_opening hfound)
        · exact hrest
      have hlater := line_le_error hrest
      rcases append_cases (hspell.trans hsplit) with
        ⟨start, hstart, rfl, rfl⟩ | ⟨rfl, rfl⟩ | ⟨inner, hinner, hfound, rfl⟩
      · have hstartPlace : behind ≠ [] → Text.IsWholeLines start :=
          fun hbehind => (hplace hbehind).of_append
        rw [Position.lastLine_append hstart] at hline
        rw [follow_spell_append hfits hstart hstartPlace]
        exact ih rfl hstart hstartPlace hrest hline
      · have hbehind : rest ≠ [] := by
          intro hnil
          rw [hnil, tokenizeFrom_nil] at hrest
          contradiction
        rw [position.line_after_of_isWholeLines (hplace hbehind) hfront] at hlater
        omega
      · have hwhole := hplace (List.append_ne_nil_of_left_ne_nil hinner rest)
        have hbefore := position.lastLine_lt_line_after hwhole hfront inner
        rw [← hfound] at hbefore
        omega

end Cross

section Lines

variable {settings : Settings} {source : Text} {line : Line}

/-- The place of a physical line: the text up to its end, and the block open there. -/
theorem exists_place_of_mem (hline : line ∈ (LineReader.ofText settings source).takeRest.1) :
    ∃ front text behind : Text, source = front ++ text ++ behind ∧ text ≠ [] ∧
      Text.IsWholeLines front ∧ (behind ≠ [] → Text.IsWholeLines (front ++ text)) ∧
      line.start.line = Position.start.lastLine (front ++ text) ∧
      line.start.line = (Position.start.after front).line ∧
      line.startsInBlock = (OpenBlock.afterLines none front).isSome ∧
      line.endsInBlock = (OpenBlock.afterLines none (front ++ text)).isSome := by
  rw [LineReader.takeRest_spec] at hline
  obtain ⟨before, after, hsplit⟩ := List.append_of_mem hline
  obtain ⟨front, behind, hlines, hfront, hbehind⟩ := Line.exists_of_physicals_eq_append hsplit
  cases behind with
  | nil => contradiction
  | cons text following =>
      obtain ⟨rfl, -⟩ := List.cons.inj hbehind
      have hmem : text ∈ Text.lines source := by
        change Text.lines source = front ++ text :: following at hlines
        simp [hlines]
      have hsource : Text.lines source = (front ++ [text]) ++ following := by
        rw [List.append_assoc]
        exact hlines
      obtain ⟨hbefore, -, hwhole⟩ := Text.lines_flatten_of_append hlines
      obtain ⟨hthrough, -, hplace⟩ := Text.lines_flatten_of_append hsource
      rw [List.flatten_append, List.flatten_singleton] at hthrough hplace
      have hlast : (Position.start.after front.flatten).line =
          Position.start.lastLine (front.flatten ++ text) := by
        rw [Position.lastLine_append (Text.ne_nil_of_mem_lines hmem), Position.lastLine,
          Position.line_after_of_notMem (Text.newline_notMem_dropLast hmem)]
      refine ⟨front.flatten, text, following.flatten, ?_, Text.ne_nil_of_mem_lines hmem,
        hwhole (List.cons_ne_nil _ _), ?_, hlast, rfl, ?_, ?_⟩
      · rw [← Text.flatten_lines source, hsource, List.flatten_append, List.flatten_append,
          List.flatten_singleton]
      · intro hbehind
        apply hplace
        intro hnil
        rw [hnil] at hbehind
        exact hbehind rfl
      · rw [OpenBlock.afterLines, hbefore]
        rfl
      · rw [OpenBlock.afterLines, hthrough, List.foldl_append]
        rfl

theorem afterLines_of_place {front behind : Text} (hsplit : source = front ++ behind)
    (hfront : front ≠ []) (hplace : behind ≠ [] → Text.IsWholeLines front) :
    OpenBlock.afterLines none front = OpenBlock.follow (Text.indentation source) .code front := by
  rw [OpenBlock.afterLines_none, hsplit]
  by_cases hbehind : behind = []
  · rw [hbehind, List.append_nil]
  · rw [Text.indentation_append_of_mem ((hplace hbehind).newline_mem hfront)]

end Lines

/-- The block flags of the physical lines of a source that tokenizes are those of its content
blocks and comments. If it does not because of a content block that is never closed, every line
from the beginning of this block on ends in a block. -/
theorem blockFlags_agree {settings : Settings} (hspacing : settings.keepSpacing)
    (hcomments : settings.keepComments) (reading : Settings) (source : Text) :
    (∀ tokens, tokenizeAt settings Position.start source = .ok tokens →
      ∀ line ∈ (LineReader.ofText reading source).takeRest.1,
        (line.endsInBlock ↔ ∃ token ∈ tokens, token.IsBlock ∧
          token.start.line ≤ line.start.line ∧ line.start.line < token.stop.line) ∧
        (line.startsInBlock ↔ ∃ token ∈ tokens, token.IsBlock ∧
          token.start.line < line.start.line ∧ line.start.line ≤ token.stop.line)) ∧
      ∀ error, tokenizeAt settings Position.start source = .error error →
        error.cause = .unterminatedContentBlock →
          ∀ line ∈ (LineReader.ofText reading source).takeRest.1,
            error.position.line ≤ line.start.line → line.endsInBlock := by
  have hkeeps := keeps_of_all hspacing hcomments
  refine ⟨?_, ?_⟩
  · intro tokens htokens line hline
    obtain ⟨front, text, behind, hsource, htext, hwhole, hplace, hlast, hfirst, hstarts, hends⟩ :=
      exists_place_of_mem hline
    have hthrough : front ++ text ≠ [] := List.append_ne_nil_of_right_ne_nil front htext
    refine ⟨?_, ?_⟩
    · rw [hends, afterLines_of_place hsource hthrough hplace, hlast]
      exact isSome_follow_iff hkeeps hsource hthrough hplace htokens
    · rw [hstarts]
      -- The beginning of a line is the end of the one before it, if there is one.
      by_cases hfront : front = []
      · have hbegins : line.start.line = Position.start.line := by
          rw [hfirst, hfront]
          rfl
        rw [hfront, hbegins]
        apply iff_of_false Bool.false_ne_true
        intro hexists
        obtain ⟨token, htoken, -, hbefore, -⟩ := hexists
        exact Nat.not_lt.mpr (line_le_start htokens token htoken) hbefore
      · rw [List.append_assoc] at hsource
        rw [afterLines_of_place hsource hfront fun _ => hwhole,
          isSome_follow_iff hkeeps hsource hfront (fun _ => hwhole) htokens, hfirst,
          Position.line_after_of_isWholeLines hwhole hfront]
        simp only [Token.Crosses, Nat.lt_succ_iff, Nat.succ_le_iff]
  · intro error herror hcause line hline hbehindError
    obtain ⟨front, text, behind, hsource, htext, -, hplace, hlast, -, -, hends⟩ :=
      exists_place_of_mem hline
    have hthrough : front ++ text ≠ [] := List.append_ne_nil_of_right_ne_nil front htext
    rw [hlast] at hbehindError
    rw [hends, afterLines_of_place hsource hthrough hplace]
    exact isSome_follow_of_unterminated hsource hthrough hplace herror hcause hbehindError

/-- The first line of a block on two lines with the token that runs across its end, and the line of
a block that is never closed. -/
theorem exists_lines_in_blocks :
    (∃ line ∈ (LineReader.ofText {} ['\x60', '\n', '\x60']).takeRest.1, ∃ tokens,
      tokenizeAt (Settings.withSpacing {}) Position.start ['\x60', '\n', '\x60'] = .ok tokens ∧
        ∃ token ∈ tokens, token.IsBlock ∧
          token.start.line ≤ line.start.line ∧ line.start.line < token.stop.line) ∧
      ∃ line ∈ (LineReader.ofText {} ['\n', '\x60']).takeRest.1, ∃ error,
        tokenizeAt (Settings.withSpacing {}) Position.start ['\n', '\x60'] = .error error ∧
          error.cause = .unterminatedContentBlock ∧ line.endsInBlock := by
  refine ⟨?_, ?_⟩
  · have htokens : tokenizeAt (Settings.withSpacing {}) Position.start ['\x60', '\n', '\x60'] =
        .ok [⟨.contentBlock, [], ⟨1, 0⟩, ⟨2, 1⟩, 0, []⟩] := by
      cbv
    have hline : Line.physical {} none Position.start 0 ['\x60', '\n'] ∈
        (LineReader.ofText {} ['\x60', '\n', '\x60']).takeRest.1 := by
      rw [LineReader.takeRest_spec]
      exact List.mem_cons_self
    have hends : (Line.physical {} none Position.start 0 ['\x60', '\n']).endsInBlock := by decide
    have hflags := (blockFlags_agree rfl rfl {} ['\x60', '\n', '\x60']).1 _ htokens _ hline
    exact ⟨_, hline, _, htokens, hflags.1.mp hends⟩
  · have herror : tokenizeAt (Settings.withSpacing {}) Position.start ['\n', '\x60'] =
        .error ⟨.unterminatedContentBlock, ⟨2, 0⟩, ['\x60']⟩ := by
      cbv
    have hline : Line.physical {} none ⟨2, 0⟩ 1 ['\x60'] ∈
        (LineReader.ofText {} ['\n', '\x60']).takeRest.1 := by
      rw [LineReader.takeRest_spec]
      exact List.mem_cons_of_mem _ List.mem_cons_self
    have hflags := (blockFlags_agree rfl rfl {} ['\n', '\x60']).2 _ herror rfl _ hline
    exact ⟨_, hline, _, herror, rfl, hflags (Nat.le_refl 2)⟩

end BlockLexer
