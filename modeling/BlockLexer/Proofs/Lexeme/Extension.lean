import BlockLexer.Proofs.Lexeme.Fits

/-! # Cutting before more text

Text behind a line end cannot change a cut in front of it, with one exception: a block that the
front leaves open may be closed later. Conversely, a lexeme that fits before some text fits before
every leading part of it.
-/

namespace BlockLexer.Lexeme

/-- A block opens with `c` and is not closed in `text`. -/
def IsUnclosed (level : Nat) (c : Char) (text : Text) : Prop :=
  (c = backtick ∧ closeContent level level text = .never) ∨
    ∃ inner, c = '/' ∧ text = '*' :: inner ∧ closeComment? inner = none

section Extend

variable {level : Nat} {c : Char} {text : Text}

theorem cutNumber_append (hline : '\n' ∈ text) (more : Text) :
    cutNumber (text ++ more) = (cutNumber text).map (Prod.map id (· ++ more)) := by
  obtain ⟨literal, rest, hspan⟩ : ∃ literal rest, spanLiteral text = (literal, rest) := ⟨_, _, rfl⟩
  have hrest : '\n' ∈ rest := by
    have happend := spanLiteral_append text
    have hlinked := isLinked_spanLiteral text
    rw [hspan] at happend hlinked
    rw [← happend] at hline
    apply (List.mem_append.mp hline).resolve_left
    intro hliteral
    exact absurd (hlinked.isDigit_or_isSeparator '\n' hliteral) (by decide)
  have hglued : (rest ++ more).takeWhile isGlue = rest.takeWhile isGlue :=
    takeWhile_append_of_stop hrest (by decide) more
  simp only [cutNumber, spanLiteral_append_of_newline hline, hspan, Prod.map_apply, id_eq, hglued]
  split <;> rfl

theorem cutString_append (hline : '\n' ∈ text) (quote : Quote) (more : Text) :
    cutString quote (text ++ more) = (cutString quote text).map (Prod.map id (· ++ more)) := by
  rw [cutString, cutString, closeQuote_append hline]
  cases closeQuote quote.char text <;> rfl

theorem cutContent_append (hwhole : Text.IsWholeLines text)
    (hclosed : closeContent level level text ≠ .never) (more : Text) :
    cutContent level (text ++ more) = (cutContent level text).map (Prod.map id (· ++ more)) := by
  cases hend : closeContent level level text with
  | closed body rest =>
      rw [cutContent, cutContent, closeContent_append_of_closed hend, hend]
      rfl
  | shallow lead line =>
      rw [cutContent, cutContent, closeContent_append_of_shallow hwhole hend, hend]
      rfl
  | never => exact absurd hend hclosed

theorem cutComment_append (hclosed : closeComment? text ≠ none) (more : Text) :
    cutComment (text ++ more) = (cutComment text).map (Prod.map id (· ++ more)) := by
  obtain ⟨⟨body, rest⟩, hend⟩ := Option.ne_none_iff_exists'.mp hclosed
  rw [cutComment, cutComment, closeComment?_append hend, hend]
  rfl

/-- Without a partner behind it, a punctuation mark is a symbol or nothing. -/
theorem cutPunctuation_of_notMem_pairs {next : Char} (hpair : (c, next) ∉ pairs) (rest : Text) :
    cutPunctuation c (next :: rest) =
      match Symbol.ofChar? c with
      | some sign => .ok (.symbol sign, next :: rest)
      | none => .error ⟨.unexpectedCharacter c, [], [c]⟩ := by
  unfold cutPunctuation
  split
  · next heq =>
    rw [(List.cons.inj heq).1] at hpair
    exact absurd (by decide) hpair
  · next heq =>
    rw [(List.cons.inj heq).1] at hpair
    exact absurd (by decide) hpair
  · next heq =>
    rw [(List.cons.inj heq).1] at hpair
    exact absurd (by decide) hpair
  · next heq =>
    rw [(List.cons.inj heq).1] at hpair
    exact absurd (by decide) hpair
  · rfl

theorem cutPunctuation_append (hwhole : Text.IsWholeLines text) (htext : text ≠ [])
    (hclosed : ¬ IsUnclosed level c text) (more : Text) :
    cutPunctuation c (text ++ more) =
      (cutPunctuation c text).map (Prod.map id (· ++ more)) := by
  obtain ⟨next, rest, rfl⟩ := List.exists_cons_of_ne_nil htext
  by_cases hpair : (c, next) ∈ pairs
  · simp only [pairs, List.mem_cons, Prod.mk.injEq, List.not_mem_nil, or_false] at hpair
    rcases hpair with ⟨rfl, rfl⟩ | ⟨rfl, rfl⟩ | ⟨rfl, rfl⟩ | ⟨rfl, rfl⟩
    · have hline : '\n' ∈ rest := by simpa using hwhole.newline_mem htext
      change Except.ok (Lexeme.lineComment (Text.firstLine (rest ++ more)),
        (rest ++ more).dropWhile (· ≠ '\n')) = _
      rw [Text.firstLine_append_of_mem hline, dropWhile_append_of_stop hline (by decide)]
      rfl
    · exact cutComment_append (fun hnone => hclosed (.inr ⟨rest, rfl, rfl, hnone⟩)) more
    · rfl
    · rfl
  · rw [List.cons_append, cutPunctuation_of_notMem_pairs hpair,
      cutPunctuation_of_notMem_pairs hpair]
    split <;> rfl

/-- In front of a line end a cut does not depend on what follows the line end, unless it is that of
a block left open there. -/
theorem cut_append (hwhole : Text.IsWholeLines (c :: text)) (hclosed : ¬ IsUnclosed level c text)
    (more : Text) :
    cut level c (text ++ more) = (cut level c text).map (Prod.map id (· ++ more)) := by
  by_cases hc : c = '\n'
  · rw [hc]
    rfl
  have htext : text ≠ [] := by
    intro hnil
    rw [hnil] at hwhole
    exact hc (hwhole c rfl)
  have htail : Text.IsWholeLines text := @Text.IsWholeLines.of_append [c] text hwhole
  have hline := htail.newline_mem htext
  unfold cut
  split
  · rw [takeWhile_append_of_stop hline (by decide), dropWhile_append_of_stop hline (by decide)]
    rfl
  split
  · rw [takeWhile_append_of_stop hline (by decide), dropWhile_append_of_stop hline (by decide)]
    rfl
  split
  · exact cutNumber_append (List.mem_cons_of_mem c hline) more
  split
  · next hbacktick =>
    exact cutContent_append htail (fun hnever => hclosed (.inl ⟨hbacktick, hnever⟩)) more
  split
  · exact cutString_append hline _ more
  · exact cutPunctuation_append htail htext hclosed more

end Extend

/-- The lexeme still fits if the text behind it is cut short. -/
theorem Fits.of_append {level : Nat} {rest more : Text} {lexeme : Lexeme}
    (hfits : lexeme.Fits level (rest ++ more)) : lexeme.Fits level rest := by
  cases lexeme with
  | spacing run => exact ⟨hfits.1, hfits.2.1, hfits.2.2.of_append⟩
  | lineComment body => exact ⟨hfits.1, hfits.2.of_append⟩
  | word name => exact ⟨hfits.1, hfits.2.of_append⟩
  | number format literal =>
      obtain ⟨⟨hliteral, hlongest⟩, hformat, hstops⟩ := hfits
      refine ⟨⟨hliteral, ?_⟩, hformat, hstops.of_append⟩
      intro longer hlonger hleading
      apply hlongest longer hlonger
      exact hleading.trans (List.prefix_append rest more)
  | content body =>
      obtain ⟨hpasses, hcloses⟩ := hfits
      refine ⟨hpasses.backtick_congr rest, ?_⟩
      rwa [Text.levelAfter_cons_congr (by decide) level body rest (rest ++ more)]
  | symbol sign =>
      intro next hhead
      apply hfits next
      rw [List.head?_append, hhead]
      rfl
  | newline | blockComment | greaterOrEquals | lessOrEquals | quoted => exact hfits

section Flaw

variable {level : Nat} {c : Char} {text : Text} {flaw : Flaw}

theorem cause_of_cutNumber (hcut : cutNumber text = .error flaw) : flaw.cause = .invalidNumber := by
  simp only [cutNumber] at hcut
  split at hcut
  · contradiction
  · cases hcut
    rfl

theorem cause_of_cutString {quote : Quote} (hcut : cutString quote text = .error flaw) :
    flaw.cause = .unterminatedString := by
  rw [cutString] at hcut
  split at hcut
  · contradiction
  · cases hcut
    rfl

theorem cause_of_cutPunctuation (hcut : cutPunctuation c text = .error flaw) :
    flaw.cause = .unterminatedComment ∨ flaw.cause = .unexpectedCharacter c := by
  unfold cutPunctuation cutComment at hcut
  split at hcut
  · contradiction
  · split at hcut
    · contradiction
    · cases hcut
      exact .inl rfl
  · contradiction
  · contradiction
  · split at hcut
    · contradiction
    · cases hcut
      exact .inr rfl

/-- Only a content block that never ends gives a flaw with this cause. -/
theorem never_of_unterminatedContentBlock (hcut : cut level c text = .error flaw)
    (hcause : flaw.cause = .unterminatedContentBlock) :
    c = backtick ∧ closeContent level level text = .never := by
  unfold cut at hcut
  split at hcut
  · contradiction
  split at hcut
  · contradiction
  split at hcut
  · contradiction
  split at hcut
  · have hother := cause_of_cutNumber hcut
    rw [hcause] at hother
    contradiction
  split at hcut
  · next hbacktick =>
    rw [cutContent] at hcut
    split at hcut
    · contradiction
    · cases hcut
      contradiction
    · next hnever =>
      cases hcut
      exact ⟨hbacktick, hnever⟩
  split at hcut
  · have hother := cause_of_cutString hcut
    rw [hcause] at hother
    contradiction
  · have hother := cause_of_cutPunctuation hcut
    rw [hcause] at hother
    rcases hother with hother | hother <;> contradiction

/-- Where a block is left open no lexeme can be cut off, and the cause says what is open. -/
theorem exists_flaw_of_isUnclosed (hunclosed : IsUnclosed level c text) :
    ∃ flaw, cut level c text = .error flaw ∧
      (flaw.cause = .unterminatedComment ∨ flaw.cause = .unterminatedContentBlock) := by
  rcases hunclosed with ⟨rfl, hnever⟩ | ⟨inner, rfl, rfl, hnone⟩
  · refine ⟨⟨.unterminatedContentBlock, [], backtick :: text⟩, ?_, .inr rfl⟩
    rw [cut_backtick, cutContent, hnever]
  · have hcomment : cut level '/' ('*' :: inner) = cutComment inner :=
      cut_symbol level .slash ('*' :: inner)
    refine ⟨⟨.unterminatedComment, [], ['/', '*'] ++ inner⟩, ?_, .inl rfl⟩
    rw [hcomment, cutComment, hnone]

end Flaw

end BlockLexer.Lexeme
