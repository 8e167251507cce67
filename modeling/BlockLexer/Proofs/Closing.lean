import BlockLexer.Proofs.Reach

/-! # How a content block ends, line by line

Two kinds of places decide how a content block goes on: the backticks that may close it, and the
beginnings of lines that may not stand inside it. Main statement: the block ends at the first of
these places. If this is a backtick the block is closed there, if it is the beginning of a line the
block is malformed at this line, and if there is no such place it is never closed.
-/

namespace BlockLexer

namespace Lexeme

/-- In the text behind an opening backtick `front` leads to a backtick that may close the block. It
stands on the line of the opening backtick, or on a later line with at most `opener` tabs in front.
-/
def IsCloser (opener : Nat) (text front rest : Text) : Prop :=
  text = front ++ backtick :: rest ∧
    ('\n' ∉ front ∨ Text.levelAt front (backtick :: rest) ≤ opener)

/-- In the text behind an opening backtick `front` leads to the beginning of a later line that is
not blank and has fewer than `opener` tabs in front. -/
def IsOffender (opener : Nat) (text front rest : Text) : Prop :=
  text = front ++ rest ∧ (∃ lines, front = lines ++ ['\n']) ∧
    Text.indentation rest < opener ∧ ¬ Text.isBlank (Text.firstLine rest)

/-- Of all places of a kind the one between `front` and `rest` comes first. -/
def IsFirst (place : Text → Text → Prop) (front rest : Text) : Prop :=
  place front rest ∧ ∀ front' rest', place front' rest' → front.length ≤ front'.length

variable {opener : Nat} {text front rest : Text}

theorem isCloser_iff :
    IsCloser opener text front rest ↔
      text = front ++ backtick :: rest ∧
        Text.levelAfter opener front (backtick :: rest) ≤ opener := by
  apply and_congr_right
  intro _
  by_cases hline : '\n' ∈ front
  · rw [Text.levelAfter_of_mem hline, or_iff_right (not_not_intro hline), Text.levelAt,
      Text.indentation_lineAround]
  · rw [Text.levelAfter_of_notMem hline]
    exact iff_of_true (.inl hline) (Nat.le_refl opener)

/-- A character behind `inner` lies within `front`, unless `inner` reaches as far as `front`. -/
theorem length_le_or_of_append_eq {inner after : Text} {c : Char}
    (happend : front ++ rest = inner ++ c :: after) :
    front.length ≤ inner.length ∨ ∃ more, front = inner ++ c :: more ∧ after = more ++ rest := by
  rcases List.append_eq_append_iff.mp happend with ⟨more, rfl, -⟩ | ⟨more, rfl, htail⟩
  · exact .inl (by simp)
  · rcases List.cons_eq_append_iff.mp htail with ⟨rfl, -⟩ | ⟨more, rfl, rfl⟩
    · exact .inl (by simp)
    · exact .inr ⟨more, rfl, rfl⟩

/-- A search passes over `front` if all places that decide it lie behind. -/
theorem passesOver_iff :
    PassesOver opener opener front rest ↔
      (∀ inner after, IsCloser opener (front ++ rest) inner after →
          front.length ≤ inner.length) ∧
        ∀ inner after, IsOffender opener (front ++ rest) inner after →
          front.length < inner.length := by
  constructor
  · intro hpasses
    refine ⟨?_, ?_⟩
    · intro inner after hcloser
      obtain ⟨happend, hlevel⟩ := isCloser_iff.mp hcloser
      rcases length_le_or_of_append_eq happend with hlength | ⟨more, hfront, rfl⟩
      · exact hlength
      · exact absurd (hpasses.backtick_deep inner more hfront) (Nat.not_lt.mpr hlevel)
    · intro inner after hoffender
      obtain ⟨happend, ⟨lines, rfl⟩, hshallow⟩ := hoffender
      rw [List.append_assoc] at happend
      rcases length_le_or_of_append_eq happend with hlength | ⟨more, hfront, rfl⟩
      · rw [List.length_append]
        exact Nat.lt_succ_of_le hlength
      · exact absurd hshallow (hpasses.line_not_shallow lines more hfront)
  · intro hplaces
    obtain ⟨hclosers, hoffenders⟩ := hplaces
    refine ⟨?_, ?_⟩
    · intro inner after hsplit
      apply Nat.lt_of_not_le
      intro hlevel
      have hlength := hclosers inner (after ++ rest)
        (isCloser_iff.mpr ⟨by rw [hsplit, List.append_assoc, List.cons_append], hlevel⟩)
      rw [hsplit, List.length_append, List.length_cons] at hlength
      omega
    · intro inner after hsplit hshallow
      have hlength := hoffenders (inner ++ ['\n']) (after ++ rest)
        ⟨by simp [hsplit], ⟨inner, rfl⟩, hshallow⟩
      rw [hsplit, List.length_append, List.length_append, List.length_cons] at hlength
      simp only [List.length_singleton] at hlength
      omega

/-- A block is closed at the first closer, if no offender lies in front of it or begins there. -/
theorem closeContent_eq_closed_iff {body : Text} :
    closeContent opener opener text = .closed body rest ↔
      IsFirst (IsCloser opener text) body rest ∧
        ∀ front line, IsOffender opener text front line → body.length < front.length := by
  rw [closeContent_eq_iff, ContentEnd.Describes, IsFirst]
  constructor
  · intro hclosed
    obtain ⟨rfl, hpasses, hlevel⟩ := hclosed
    obtain ⟨hclosers, hoffenders⟩ := passesOver_iff.mp hpasses
    exact ⟨⟨isCloser_iff.mpr ⟨rfl, hlevel⟩, hclosers⟩, hoffenders⟩
  · intro hplaces
    obtain ⟨⟨hcloser, hclosers⟩, hoffenders⟩ := hplaces
    obtain ⟨rfl, hlevel⟩ := isCloser_iff.mp hcloser
    exact ⟨rfl, passesOver_iff.mpr ⟨hclosers, hoffenders⟩, hlevel⟩

/-- A block is left at the first offender, if no closer lies in front of it. -/
theorem closeContent_eq_shallow_iff {lead line : Text} :
    closeContent opener opener text = .shallow lead line ↔
      ∃ rest, IsFirst (IsOffender opener text) lead rest ∧ line = Text.firstLine rest ∧
        ∀ front after, IsCloser opener text front after → lead.length ≤ front.length := by
  rw [closeContent_eq_iff, ContentEnd.Describes]
  constructor
  · intro hfound
    obtain ⟨front, rest, rfl, hpasses, hshallow, rfl, rfl⟩ := hfound
    obtain ⟨hclosers, hoffenders⟩ := passesOver_iff.mp hpasses
    refine ⟨rest, ⟨⟨by simp, ⟨front, rfl⟩, hshallow⟩, ?_⟩, rfl, ?_⟩
    · intro inner after hoffender
      rw [List.length_append, List.length_singleton]
      exact hoffenders inner after hoffender
    · intro inner after hcloser
      -- At the line feed itself there is no backtick.
      have hne : front.length ≠ inner.length := by
        intro hlength
        obtain ⟨-, hhead⟩ := List.append_inj hcloser.1 hlength
        exact absurd (List.cons.inj hhead).1 (by decide)
      have hlength := hclosers inner after hcloser
      rw [List.length_append, List.length_singleton]
      omega
  · intro hplaces
    obtain ⟨rest, ⟨⟨rfl, ⟨front, rfl⟩, hshallow⟩, hoffenders⟩, rfl, hclosers⟩ := hplaces
    rw [List.length_append, List.length_singleton] at hoffenders hclosers
    have happend : front ++ ['\n'] ++ rest = front ++ '\n' :: rest := by simp
    rw [happend] at hoffenders hclosers
    refine ⟨front, rest, happend, passesOver_iff.mpr ⟨?_, hoffenders⟩, hshallow, rfl, rfl⟩
    intro inner after hcloser
    exact Nat.le_of_succ_le (hclosers inner after hcloser)

/-- A block is never closed if there is neither a closer nor an offender. -/
theorem closeContent_eq_never_iff :
    closeContent opener opener text = .never ↔
      (∀ front after, ¬ IsCloser opener text front after) ∧
        ∀ front line, ¬ IsOffender opener text front line := by
  rw [closeContent_eq_iff, ContentEnd.Describes, passesOver_iff, List.append_nil]
  apply and_congr
  · apply forall₂_congr
    intro inner after
    apply imp_congr_right
    intro hcloser
    have hlength := congrArg List.length hcloser.1
    rw [List.length_append, List.length_cons] at hlength
    simp only [iff_false]
    omega
  · apply forall₂_congr
    intro inner after
    apply imp_congr_right
    intro hoffender
    have hlength := congrArg List.length hoffender.1
    rw [List.length_append] at hlength
    simp only [iff_false]
    omega

section Cut

variable {body lead line : Text}

theorem cutContent_eq_ok_iff :
    cutContent opener text = .ok (.content body, rest) ↔
      closeContent opener opener text = .closed body rest := by
  rw [cutContent]
  cases closeContent opener opener text <;> simp

theorem cutContent_eq_shallow_iff :
    cutContent opener text = .error ⟨.unexpectedIndentation, backtick :: lead, line⟩ ↔
      closeContent opener opener text = .shallow lead line := by
  rw [cutContent]
  cases closeContent opener opener text <;> simp

theorem cutContent_eq_never_iff :
    cutContent opener text = .error ⟨.unterminatedContentBlock, [], backtick :: text⟩ ↔
      closeContent opener opener text = .never := by
  rw [cutContent]
  cases closeContent opener opener text <;> simp

/-- No line that begins within a block is an offender if the block is closed. -/
theorem le_indentation_of_cutContent {front after : Text}
    (hcut : cutContent opener text = .ok (.content body, rest))
    (hbody : body = front ++ '\n' :: after)
    (hvisible : ¬ Text.isBlank (Text.firstLine (after ++ backtick :: rest))) :
    opener ≤ Text.indentation (after ++ backtick :: rest) := by
  obtain ⟨⟨hcloser, -⟩, hoffenders⟩ :=
    closeContent_eq_closed_iff.mp (cutContent_eq_ok_iff.mp hcut)
  apply Nat.le_of_not_lt
  intro hindented
  have hoffender : IsOffender opener text (front ++ ['\n']) (after ++ backtick :: rest) :=
    ⟨by simp [hcloser.1, hbody], ⟨front, rfl⟩, hindented, hvisible⟩
  have hlength := hoffenders _ _ hoffender
  rw [hbody, List.length_append, List.length_append, List.length_cons,
    List.length_singleton] at hlength
  omega

/-- A block that is closed on a later line is closed on one that is indented like the line of the
opening backtick. -/
theorem levelAt_of_closed (hcut : cutContent opener text = .ok (.content body, rest))
    (hline : '\n' ∈ body) : Text.levelAt body (backtick :: rest) = opener := by
  obtain ⟨⟨hcloser, -⟩, -⟩ := closeContent_eq_closed_iff.mp (cutContent_eq_ok_iff.mp hcut)
  apply Nat.le_antisymm (hcloser.2.resolve_left (not_not_intro hline))
  rw [Text.levelAt, Text.indentation_lineAround]
  -- Otherwise the line of the closing backtick would be an offender itself.
  obtain ⟨lines, hbody⟩ := Text.exists_eq_append_lastLine hline
  apply le_indentation_of_cutContent hcut hbody
  exact not_isBlank_append_backtick (Text.newline_notMem_lastLine body) rest

/-- A line inside of a block that is closed is blank or indented at least like the line of the
opening backtick. -/
theorem le_indentation_of_closed {front after : Text}
    (hcut : cutContent opener text = .ok (.content body, rest))
    (hbody : body = front ++ '\n' :: (line ++ '\n' :: after)) (hline : '\n' ∉ line)
    (hvisible : ¬ Text.isBlank line) : opener ≤ Text.indentation line := by
  have hfirst : Text.firstLine (line ++ '\n' :: (after ++ backtick :: rest)) = line := by
    rw [Text.firstLine_append_of_notMem hline]
    exact List.append_nil line
  have hlevel := le_indentation_of_cutContent hcut hbody
  rw [List.append_assoc, List.cons_append, hfirst,
    Text.indentation_append_cons (by decide)] at hlevel
  exact hlevel hvisible

end Cut

/-- A block which is opened on a line with indentation `opener` and goes on with `text` ends as its
closers and offenders say. -/
structure IsDecidedByLines (opener : Nat) (text : Text) : Prop where
  closed_iff : ∀ body rest, cutContent opener text = .ok (.content body, rest) ↔
    IsFirst (IsCloser opener text) body rest ∧
      ∀ front line, IsOffender opener text front line → body.length < front.length
  shallow_iff : ∀ lead line,
    cutContent opener text = .error ⟨.unexpectedIndentation, backtick :: lead, line⟩ ↔
      ∃ rest, IsFirst (IsOffender opener text) lead rest ∧ line = Text.firstLine rest ∧
        ∀ front after, IsCloser opener text front after → lead.length ≤ front.length
  never_iff : cutContent opener text = .error ⟨.unterminatedContentBlock, [], backtick :: text⟩ ↔
    (∀ front rest, ¬ IsCloser opener text front rest) ∧
      ∀ front line, ¬ IsOffender opener text front line
  closing_level : ∀ body rest, cutContent opener text = .ok (.content body, rest) →
    '\n' ∉ body ∨ Text.levelAt body (backtick :: rest) = opener
  inner_level : ∀ body rest front line after,
    cutContent opener text = .ok (.content body, rest) →
      body = front ++ '\n' :: (line ++ '\n' :: after) → '\n' ∉ line → ¬ Text.isBlank line →
        opener ≤ Text.indentation line

theorem isDecidedByLines (opener : Nat) (text : Text) : IsDecidedByLines opener text where
  closed_iff _ _ := cutContent_eq_ok_iff.trans closeContent_eq_closed_iff
  shallow_iff _ _ := cutContent_eq_shallow_iff.trans closeContent_eq_shallow_iff
  never_iff := cutContent_eq_never_iff.trans closeContent_eq_never_iff
  closing_level body _ hcut := by
    by_cases hline : '\n' ∈ body
    · exact .inr (levelAt_of_closed hcut hline)
    · exact .inl hline
  inner_level _ _ _ _ _ hcut hbody hline hvisible :=
    le_indentation_of_closed hcut hbody hline hvisible

end Lexeme

/-- Wherever tokenizing comes to a backtick, the closers and offenders behind it decide how it goes
on. A block that is closed is a lexeme of its own; otherwise the text is malformed at the first
offender, or from the backtick on. -/
theorem content_block_decided_by_lines {settings : Settings} {base : Position}
    {before behind : Text} {tokens : List Token}
    (hreaches : Reaches settings base before tokens (backtick :: behind)) :
    let level := Text.levelAt before (backtick :: behind)
    let text := before ++ backtick :: behind
    Lexeme.IsDecidedByLines level behind ∧
      (∀ body rest children, Lexeme.cutContent level behind = .ok (.content body, rest) →
        openingTokens settings level (base.after before) (.content body) = .ok children →
          Reaches settings base (before ++ (Lexeme.content body).spell)
            (tokens ++ [(Lexeme.content body).toToken level (base.after before) children]) rest) ∧
      (∀ lead line, Lexeme.cutContent level behind =
          .error ⟨.unexpectedIndentation, backtick :: lead, line⟩ →
        tokenizeAt settings base text =
          .error ⟨.unexpectedIndentation, base.after (before ++ backtick :: lead), line⟩) ∧
      (Lexeme.cutContent level behind =
          .error ⟨.unterminatedContentBlock, [], backtick :: behind⟩ →
        tokenizeAt settings base text =
          .error ⟨.unterminatedContentBlock, base.after before, backtick :: behind⟩) := by
  intro level text
  have hfails : ∀ flaw, Lexeme.cutContent level behind = .error flaw →
      tokenizeAt settings base text = .error (flaw.locate (base.after before)) := by
    intro flaw hcut
    rw [← Lexeme.cut_backtick] at hcut
    rw [hreaches.tokenizeAt_eq, tokenizeFrom_of_cut_error hcut]
    rfl
  refine ⟨Lexeme.isDecidedByLines level behind, ?_, ?_, ?_⟩
  · intro body rest children hcut hchildren
    have hspell : (Lexeme.content body).spell ++ rest = backtick :: behind :=
      Lexeme.cutContent_spell hcut
    have hvalid : (Lexeme.content body).IsValidAt before rest := by
      rw [Lexeme.IsValidAt, hspell]
      exact Lexeme.fits_of_cutContent hcut
    rw [← hspell] at hreaches
    have hlevel : level = Text.levelAt before ((Lexeme.content body).spell ++ rest) := by
      rw [hspell]
    rw [hlevel] at hchildren ⊢
    exact hreaches.step (.of_openingTokens hvalid hchildren)
  · intro lead line hcut
    rw [hfails _ hcut, Flaw.locate, Position.after_append]
  · exact hfails _

/-- A blank line and a backtick on a deeper line decide nothing. The backtick at the beginning of
the last line comes too late, since this line is already indented less. -/
theorem content_block_left_at_backtick :
    let behind : Text := ['a', '\n', '\n', '\t', '\t', '\x60', '\n', '\x60']
    Reaches {} Position.start ['\t'] [] (backtick :: behind) ∧
      Lexeme.IsCloser 1 behind (behind.take 7) [] ∧
      (∃ rest, Lexeme.IsFirst (Lexeme.IsOffender 1 behind) (behind.take 7) rest) ∧
      tokenizeAt {} Position.start ('\t' :: backtick :: behind) =
        .error ⟨.unexpectedIndentation, ⟨4, 0⟩, ['\x60']⟩ := by
  intro behind
  have hvalid : (Lexeme.spacing ['\t']).IsValidAt [] (backtick :: behind) :=
    @Lexeme.fits_of_cut 1 '\t' (backtick :: behind) _ _ rfl
  have hreaches : Reaches {} Position.start ['\t'] [] (backtick :: behind) :=
    .step .start (.of_openingTokens hvalid rfl)
  have hcut : Lexeme.cutContent 1 behind =
      .error ⟨.unexpectedIndentation, backtick :: behind.take 7, ['\x60']⟩ := rfl
  obtain ⟨hdecided, -, hfails, -⟩ := content_block_decided_by_lines hreaches
  obtain ⟨rest, hfirst, -, -⟩ := (hdecided.shallow_iff _ _).mp hcut
  exact ⟨hreaches, ⟨rfl, .inr (by decide)⟩, ⟨rest, hfirst⟩, hfails _ _ hcut⟩

end BlockLexer
