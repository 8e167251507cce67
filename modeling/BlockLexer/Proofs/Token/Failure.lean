import BlockLexer.Proofs.Block.Spans
import BlockLexer.Proofs.Token.Run

/-! # What is read before an error

A malformed source is read up to the unit that fails. Main statement: the tokens that are handed out
before the error are those of the lines in front of this unit, which tokenize by themselves, and the
error is that of the unit. No token of the unit or of what follows it is ever seen, not even by
looking ahead.
-/

namespace BlockLexer

namespace Line

/-- Of the lines of `source` those in `before` have the tokens `tokens`; the unit made of `taken`,
which comes next, fails with `error`. -/
structure FailsBehind (settings : Settings) (source : Text) (before taken rest : List Line)
    (tokens : List Token) (error : LexicalError) : Prop where
  source_eq : source =
    (before.map text).flatten ++ (taken.map text).flatten ++ (rest.map text).flatten
  isWholeLines : Text.IsWholeLines (before.map text).flatten
  endsInBlock_eq : ∀ last, before.getLast? = some last → last.endsInBlock = false
  exists_isUnit : ∃ unit, IsUnit taken unit rest
  tokens_eq : tokenizeAt settings Position.start (before.map text).flatten = .ok tokens
  error_eq : tokenizeAt settings (Position.start.after (before.map text).flatten)
    (taken.map text).flatten = .error error

section Script

variable {settings : Settings} {position : Position} {offset : Nat} {text : Text}
  {tokens : List Token} {error : LexicalError}

/-- The lines in front of the unit that fails are tokenized by themselves. -/
theorem exists_unit_of_script
    (hscript : script (physicals settings none position offset (Text.lines text)) =
      (tokens, some error)) :
    ∃ before taken rest unit,
      physicals settings none position offset (Text.lines text) = before ++ (taken ++ rest) ∧
        IsUnit taken unit rest ∧ unit.tokens = .error error ∧
        (∀ last, before.getLast? = some last → last.endsInBlock = false) ∧
        tokenizeAt settings position (before.map Line.text).flatten = .ok tokens := by
  -- Each unit that tokenizes joins the lines in front, so the induction is on the number of lines.
  induction hlength : (Text.lines text).length using Nat.strong_induction_on
    generalizing position offset text tokens with
  | h length ih =>
      cases htake : takeUnit? (physicals settings none position offset (Text.lines text)) with
      | none =>
          rw [takeUnit?_eq_none_iff.mp htake, script_nil] at hscript
          simp at hscript
      | some found =>
          obtain ⟨unit, rest⟩ := found
          obtain ⟨taken, hsplit, hunit⟩ := exists_isUnit_of_takeUnit? htake
          cases htokens : unit.tokens with
          | error first =>
              rw [script_of_error htake htokens] at hscript
              obtain ⟨rfl, hfirst⟩ := Prod.mk.inj hscript
              obtain rfl := Option.some.inj hfirst
              refine ⟨[], taken, rest, unit, hsplit, hunit, htokens, by simp, ?_⟩
              rw [tokenizeAt]
              exact tokenizeFrom_nil settings _ position
          | ok first =>
              rw [script_of_ok htake htokens] at hscript
              obtain ⟨rfl, hlater⟩ := Prod.mk.inj hscript
              have hshorter := length_of_takeUnit? htake
              obtain ⟨front, behind, hlines, rfl, hrest⟩ := exists_of_physicals_eq_append hsplit
              obtain ⟨hfront, hbehind, hwhole⟩ := Text.lines_flatten_of_append hlines
              have hne : rest ≠ [] := by
                intro hnil
                rw [hnil, script_nil] at hlater
                contradiction
              have hclosed := hunit.closed hne
              rw [hclosed, ← hbehind] at hrest
              rw [length_physicals, hlength, hrest, length_physicals] at hshorter
              have htail : script (physicals settings none (position.after front.flatten)
                  (offset + Text.byteLength front.flatten) (Text.lines behind.flatten)) =
                    ((script rest).1, some error) := by
                rw [← hrest, ← hlater]
              obtain ⟨before, others, later, failing, hothers, hfailing, herror, hends, hbefore⟩ :=
                ih _ hshorter htail rfl
              refine ⟨physicals settings none position offset front ++ before, others, later,
                failing, ?_, hfailing, herror, ?_, ?_⟩
              · rw [hsplit, hrest, hothers, List.append_assoc]
              · intro last hlast
                rw [List.getLast?_append, Option.or_eq_some_iff] at hlast
                rcases hlast with hlast | ⟨-, hlast⟩
                · exact hends last hlast
                · rw [endsInBlock_of_getLast? hlast, hclosed]
                  rfl
              · have hleft : behind ≠ [] := by
                  rintro rfl
                  exact hne hrest
                have hopen : OpenBlock.afterLines none front.flatten = none := by
                  rw [OpenBlock.afterLines, hfront, hclosed]
                rw [List.map_append, List.flatten_append, map_text_physicals,
                  tokenizeAt_append (hwhole hleft) hopen, ← hunit.tokens_eq, htokens, hbefore]
                rfl

theorem IsUnit.ne_nil {taken rest : List Line} {unit : Line} (hunit : IsUnit taken unit rest) :
    taken ≠ [] := by
  cases hunit <;> exact List.cons_ne_nil _ _

/-- Where the last of some physical lines does not end in a block, no block is open. -/
theorem afterLine_of_getLast? {texts : List Text}
    (hends : ∀ last, (physicals settings none position offset texts).getLast? = some last →
      last.endsInBlock = false) : texts.foldl OpenBlock.afterLine none = none := by
  cases hlast : (physicals settings none position offset texts).getLast? with
  | none =>
      rw [List.getLast?_eq_none_iff, ← List.length_eq_zero_iff, length_physicals,
        List.length_eq_zero_iff] at hlast
      rw [hlast]
      rfl
  | some last =>
      have hopen := (endsInBlock_of_getLast? hlast).symm.trans (hends last hlast)
      rwa [Option.isSome_eq_false_iff, Option.isNone_iff_eq_none] at hopen

/-- A source that is read up to an error fails at one of its units. -/
theorem exists_failsBehind {source : Text}
    (hscript : script (physicals settings none Position.start 0 (Text.lines source)) =
      (tokens, some error)) :
    ∃ before taken rest,
      physicals settings none Position.start 0 (Text.lines source) = before ++ taken ++ rest ∧
        FailsBehind settings source before taken rest tokens error := by
  obtain ⟨before, taken, rest, unit, hsplit, hunit, herror, hends, htokens⟩ :=
    exists_unit_of_script hscript
  refine ⟨before, taken, rest, by rw [hsplit, List.append_assoc], ?_⟩
  have htexts := map_text_physicals settings none Position.start 0 (Text.lines source)
  obtain ⟨front, others, hlines, rfl, hothers⟩ := exists_of_physicals_eq_append hsplit
  rw [afterLine_of_getLast? hends] at hothers
  obtain ⟨middle, behind, rfl, rfl, -⟩ := exists_of_physicals_eq_append hothers.symm
  have hmiddle : middle ≠ [] := by
    rintro rfl
    exact hunit.ne_nil rfl
  refine ⟨?_, ?_, hends, ⟨unit, hunit⟩, htokens, ?_⟩
  · rw [← Text.flatten_lines source, ← htexts, hsplit]
    simp only [List.map_append, List.flatten_append, List.append_assoc]
  · rw [map_text_physicals]
    apply (Text.lines_flatten_of_append hlines).2.2
    exact List.append_ne_nil_of_left_ne_nil hmiddle behind
  · rw [map_text_physicals, map_text_physicals, ← hunit.tokens_eq]
    exact herror

end Script

end Line

namespace TokenReader

section Delivery

variable {tokens : List Token} {failure : ReadError} {taken : List (Except ReadError Token)}
  {token : Token} {error : LexicalError} {reader : TokenReader}

theorem filterMap_items (tokens : List Token) (failure : ReadError) :
    (items tokens failure).filterMap Except.toOption = tokens := by
  rw [items, List.filterMap_append]
  split <;> simp [List.filterMap_map, Function.comp_def, Except.toOption]

/-- Once the error is reached all tokens have been taken. -/
theorem filterMap_taken (htaken : taken <+: items tokens failure)
    (hall : tokens.length ≤ taken.length) : taken.filterMap Except.toOption = tokens := by
  have hfront : tokens.map Except.ok <+: taken := by
    apply List.prefix_of_prefix_length_le (List.prefix_append _ _) htaken
    rwa [List.length_map]
  have hmost := htaken.filterMap Except.toOption
  rw [filterMap_items] at hmost
  have hleast : tokens <+: taken.filterMap Except.toOption := by
    simpa [List.filterMap_map, Function.comp_def, Except.toOption] using
      hfront.filterMap Except.toOption
  exact hmost.eq_of_length_le hleast.length_le

/-- A reader answers with the error only behind all tokens, and only if it is the final one. -/
theorem answerAt_eq_error_iff {index : Nat} {error : ReadError} :
    answerAt tokens failure index = .error error ↔ tokens.length ≤ index ∧ failure = error := by
  rcases Nat.lt_or_ge index tokens.length with hleft | hall
  · rw [answerAt_of_lt hleft]
    simp [Nat.not_le.mpr hleft]
  · rw [answerAt_of_le hall]
    simp [hall]

/-- The tokens pending are tokens to come, so that they are of the list. -/
theorem IsBehind.mem_of_pending (hbehind : IsBehind tokens failure taken reader)
    (htoken : token ∈ reader.pending) : token ∈ tokens := by
  have hcomes : token ∈ reader.outcome.1 := by
    unfold outcome
    split
    · exact htoken
    · exact List.mem_append_left _ htoken
  rw [hbehind.outcome_eq] at hcomes
  exact List.mem_of_mem_drop hcomes

/-- Whatever a reader is asked, it shows no token but those of its list. -/
theorem IsBehind.mem_of_shown (hbehind : IsBehind tokens failure taken reader)
    (hshown : .ok token ∈ taken ∨ ∃ shift, (reader.peek shift).1 = .ok token) :
    token ∈ tokens := by
  rcases hshown with htaken | ⟨shift, hpeek⟩
  · have hitem := hbehind.isPrefix.subset htaken
    have hmem := List.mem_filterMap.mpr ⟨_, hitem, (rfl : Except.toOption (.ok token) = some token)⟩
    rwa [filterMap_items] at hmem
  · -- What is shown was pending when the reader had been filled, whatever the shift.
    simp only [peek] at hpeek
    split at hpeek
    · next found hfound =>
      rw [← Except.ok.inj hpeek]
      exact (hbehind.fill _).mem_of_pending (List.mem_of_getElem? hfound)
    · contradiction

end Delivery

/-- The tokens handed out before an error are exactly those of the units in front of the unit that
fails. What begins behind these units is never shown. -/
theorem exists_failing_unit {settings : Settings} {source : Text} {operations : List Operation}
    {error : LexicalError}
    (hfails : ((ofText settings source).run operations).2.next.1 = .error (.lexical error)) :
    ∃ before taken rest tokens,
      (LineReader.ofText settings source).takeRest.1 = before ++ taken ++ rest ∧
        Line.FailsBehind settings source before taken rest tokens error ∧
        ((ofText settings source).run operations).1.filterMap Except.toOption = tokens ∧
        ∀ others token,
          .ok token ∈ ((ofText settings source).run others).1 ∨
            (∃ shift, (((ofText settings source).run others).2.peek shift).1 = .ok token) →
          token.start < Position.start.after (before.map Line.text).flatten := by
  have hbegin := isBehind_ofLines (LineReader.ofText settings source)
  generalize hscript : Line.script (LineReader.ofText settings source).remaining = script at hbegin
  obtain ⟨tokens, found⟩ := script
  have hbehind := hbegin.run operations
  obtain ⟨hall, hfailure⟩ := answerAt_eq_error_iff.mp (hbehind.next_eq.symm.trans hfails)
  obtain rfl : found = some error := by
    cases found with
    | none => contradiction
    | some found => exact congrArg some (ReadError.lexical.inj hfailure)
  obtain ⟨before, taken, rest, hlines, hbefore⟩ := Line.exists_failsBehind hscript
  refine ⟨before, taken, rest, tokens, ?_, hbefore, filterMap_taken hbehind.isPrefix hall, ?_⟩
  · rw [LineReader.takeRest_spec]
    exact hlines
  · intro others token hshown
    have hmem := (hbegin.run others).mem_of_shown hshown
    exact .inl (start_line_lt_of_isWholeLines hbefore.isWholeLines hbefore.tokens_eq token hmem)

/-- A word and behind it, on a line of its own, a block that is never closed. -/
theorem exists_failing_unit_behind_word :
    ∃ error before taken rest tokens,
      ((ofText {} ['c', '\n', '\x60', '\n']).run [.next]).2.next.1 = .error (.lexical error) ∧
        error.cause = .unterminatedContentBlock ∧
        Line.FailsBehind {} ['c', '\n', '\x60', '\n'] before taken rest tokens error ∧
        ((ofText {} ['c', '\n', '\x60', '\n']).run [.next]).1.filterMap Except.toOption = tokens ∧
        ((ofText {} ['c', '\n', '\x60', '\n']).peek 0).1 =
          .ok ⟨.identifier, ['c'], ⟨1, 0⟩, ⟨1, 1⟩, 0, []⟩ ∧
        (⟨1, 0⟩ : Position) < Position.start.after (before.map Line.text).flatten := by
  let word : Line := Line.physical {} none ⟨1, 0⟩ 0 ['c', '\n']
  let opening : Line := Line.physical {} none ⟨2, 0⟩ 2 ['\x60', '\n']
  have hbegin := isBehind_ofLines (LineReader.ofText {} ['c', '\n', '\x60', '\n'])
  have hlines : (LineReader.ofText {} ['c', '\n', '\x60', '\n']).remaining = [word, opening] := rfl
  have hcut : Lexeme.cut 0 '\x60' ['\n'] =
      .error ⟨.unterminatedContentBlock, [], ['\x60', '\n']⟩ := rfl
  have hopening : (opening.withSkipped false).tokens =
      .error ⟨.unterminatedContentBlock, ⟨2, 0⟩, ['\x60', '\n']⟩ :=
    (Line.tokens_of_not_skipped rfl rfl).trans (tokenizeFrom_of_cut_error hcut)
  have htext : tokenizeAt {} ⟨1, 0⟩ ['c', '\n'] =
      .ok [⟨.identifier, ['c'], ⟨1, 0⟩, ⟨1, 1⟩, 0, []⟩] := by
    cbv
  have hword : word.tokens = .ok [⟨.identifier, ['c'], ⟨1, 0⟩, ⟨1, 1⟩, 0, []⟩] :=
    (Line.tokens_of_not_skipped rfl rfl).trans htext
  have htakeWord : Line.takeUnit? [word, opening] = some (word, [opening]) := rfl
  have htakeOpening : Line.takeUnit? [opening] = some (opening.withSkipped false, []) :=
    rfl
  rw [hlines, Line.script_of_ok htakeWord hword, Line.script_of_error htakeOpening hopening]
    at hbegin
  have hfails := hbegin.next_run_replicate 1
  have hpeek := hbegin.peek_eq 0 (by decide)
  obtain ⟨before, taken, rest, tokens, -, hbefore, htokens, hshown⟩ := exists_failing_unit hfails
  exact ⟨_, before, taken, rest, tokens, hfails, rfl, hbefore, htokens, hpeek,
    hshown [] _ (.inr ⟨0, hpeek⟩)⟩

end TokenReader

end BlockLexer
