import BlockLexer.Proofs.Line.Run
import BlockLexer.Proofs.Token.Streaming

/-! # Any run of a token reader

Looking ahead, asking for the end and reading item by item may be mixed in any order. Main
statement: all answers of a run are read off one list of tokens and one final error, which are
fixed by the lines that remain when the run begins. Only taking a token, or the error as an item,
moves on in them.
-/

namespace BlockLexer

namespace Line

section Uncached

theorem uncached_mergeAll (line : Line) (following : List Line) :
    (line.mergeAll following).uncached = line.uncached.mergeAll (following.map uncached) := by
  induction following generalizing line with
  | nil => rfl
  | cons next rest ih => exact ih (line.merge next)

/-- The units of a list of lines do not depend on what has been asked of the lines. -/
theorem takeUnit?_map_uncached (lines : List Line) :
    takeUnit? (lines.map uncached) =
      (takeUnit? lines).map (Prod.map uncached (List.map uncached)) := by
  cases lines with
  | nil => rfl
  | cons line following =>
      have hdrop : (following.map uncached).dropWhile endsInBlock =
          (following.dropWhile endsInBlock).map uncached := List.dropWhile_map
      have htake : (following.map uncached).takeWhile endsInBlock =
          (following.takeWhile endsInBlock).map uncached := List.takeWhile_map
      rw [List.map_cons, takeUnit?, takeUnit?, hdrop, htake]
      by_cases hopens : line.opensBlock
      · rw [if_pos hopens, if_pos (by exact hopens)]
        cases following.dropWhile endsInBlock with
        | nil =>
            simp only [List.map_nil, Option.map_some, Prod.map, ← uncached_mergeAll]
            rfl
        | cons closing rest =>
            simp only [List.map_cons, Option.map_some, Prod.map, uncached_mergeAll,
              List.map_append, List.map_nil]
      · rw [if_neg hopens, if_neg (by exact hopens)]
        rfl

theorem isSound_of_takeUnit? {lines rest : List Line} {unit : Line}
    (hsound : ∀ line ∈ lines, line.IsSound) (htake : takeUnit? lines = some (unit, rest)) :
    unit.uncached.tokens = unit.tokens ∧ ∀ line ∈ rest, line.IsSound := by
  obtain ⟨taken, rfl, hunit⟩ := exists_isUnit_of_takeUnit? htake
  refine ⟨?_, fun line hline => hsound line (List.mem_append_right taken hline)⟩
  cases hunit with
  | single hopens => exact (hsound unit (by simp)).tokens_eq.symm
  | block => rw [mergeAll_concat]; rfl
  | unclosed => rfl

theorem script_map_uncached {lines : List Line} (hsound : ∀ line ∈ lines, line.IsSound) :
    script (lines.map uncached) = script lines := by
  induction hlength : lines.length using Nat.strong_induction_on generalizing lines with
  | h length ih =>
      have hmap := takeUnit?_map_uncached lines
      cases htake : takeUnit? lines with
      | none =>
          obtain rfl := takeUnit?_eq_none_iff.mp htake
          rfl
      | some found =>
          obtain ⟨unit, rest⟩ := found
          obtain ⟨hsame, hrest⟩ := isSound_of_takeUnit? hsound htake
          rw [htake] at hmap
          have hshorter := length_of_takeUnit? htake
          cases htokens : unit.tokens with
          | error error =>
              rw [script_of_error htake htokens, script_of_error hmap (hsame.trans htokens)]
          | ok tokens =>
              rw [script_of_ok htake htokens, script_of_ok hmap (hsame.trans htokens),
                ih rest.length (hlength ▸ hshorter) hrest rfl]

end Uncached

end Line

namespace TokenReader

/-- What can be done with a token reader. -/
inductive Operation where
  | next
  | next?
  | peek (shift : UInt64)
  | atEnd

/-- The item that an operation takes off, if it takes one, and the reader behind it. An error is
taken off only if it is read as an item. -/
def apply (reader : TokenReader) : Operation → Option (Except ReadError Token) × TokenReader
  | .next => (reader.next.1.toOption.map .ok, reader.next.2)
  | .next? => reader.next?
  | .peek shift => (none, (reader.peek shift).2)
  | .atEnd => (none, reader.atEnd.2)

/-- The items that operations take off one after the other, and the reader behind them. -/
def run (reader : TokenReader) : List Operation → List (Except ReadError Token) × TokenReader
  | [] => ([], reader)
  | operation :: following =>
      ((reader.apply operation).1.toList ++ ((reader.apply operation).2.run following).1,
        ((reader.apply operation).2.run following).2)

/-- The token with this index, or the error behind all tokens. -/
def answerAt (tokens : List Token) (failure : ReadError) (index : Nat) : Except ReadError Token :=
  (tokens[index]?).elim (.error failure) .ok

/-- All that can be read item by item. The end of the input is no item. -/
def items (tokens : List Token) (failure : ReadError) : List (Except ReadError Token) :=
  tokens.map .ok ++ if failure.isEndOfInput then [] else [.error failure]

/-- The error behind all tokens that are still to be handed out. -/
def conclusion (reader : TokenReader) : ReadError :=
  (reader.outcome.2.map .lexical).getD (.endOfInput reader.lines.stop)

/-- An error is kept only if it is not the end of the input. -/
def FailsLexically (reader : TokenReader) : Prop :=
  ∀ error, reader.failure = some error → error.isEndOfInput = false

section Answers

variable {reader : TokenReader}

theorem fill_keeps (count : Nat) (reader : TokenReader) :
    (reader.fill count).lines.stop = reader.lines.stop ∧
      (reader.FailsLexically → (reader.fill count).FailsLexically) := by
  fun_induction fill count reader with
  | case1 reader hfill error behind hunit =>
      simp only [Bool.and_eq_true, Bool.not_eq_true', ← Bool.not_eq_true,
        LineReader.atEnd_iff] at hfill
      exact absurd (remaining_of_nextUnit_error hunit) hfill.2
  | case2 reader hfill unit behind hunit tokens htokens ih =>
      exact ⟨ih.1.trans (takeUnit?_of_nextUnit hunit).2, ih.2⟩
  | case3 reader hfill unit behind hunit error htokens =>
      refine ⟨(takeUnit?_of_nextUnit hunit).2, ?_⟩
      intro _ found hfound
      rw [← Option.some.inj hfound]
      rfl
  | case4 reader hfill => exact ⟨rfl, id⟩

/-- Looking ahead fills a reader and does no more. -/
theorem peek_snd (reader : TokenReader) (shift : UInt64) :
    (reader.peek shift).2 = reader.fill (shift + 1).toNat := by
  simp only [peek]
  split <;> rfl

/-- At the greatest shift the number of tokens wraps to zero, so that nothing is taken: a new reader
answers with the end of the input where it stands, whatever comes. -/
theorem peek_ofLines_of_wraps {shift : UInt64} (hwraps : shift + 1 = 0) (lines : LineReader) :
    (ofLines lines).peek shift = (.error (.endOfInput lines.position), ofLines lines) := by
  have hfill : (ofLines lines).fill 0 = ofLines lines := by
    rw [fill]
    rfl
  simp only [peek, hwraps, UInt64.toNat_zero, hfill]
  rfl

theorem conclusion_fill (count : Nat) (reader : TokenReader) :
    (reader.fill count).conclusion = reader.conclusion := by
  rw [conclusion, conclusion, (fill_spec count reader).1, (fill_keeps count reader).1]

/-- As far as a reader is filled its pending tokens are the tokens to come. -/
theorem IsFilled.getElem?_pending {shift : Nat} (hfilled : IsFilled (shift + 1) reader) :
    reader.pending[shift]? = reader.outcome.1[shift]? := by
  unfold outcome
  split
  · rfl
  · next hfailure =>
    rcases hfilled with hcount | hfailed | hnil
    · rw [List.getElem?_append_left (by omega)]
    · exact absurd hfailure hfailed
    · rw [hnil, Line.script_nil, List.append_nil]

theorem conclusion_of_failure {error : ReadError} (hlexical : reader.FailsLexically)
    (hfailure : reader.failure = some error) : reader.conclusion = error := by
  have herror := hlexical error hfailure
  cases error with
  | endOfInput position => exact absurd herror (by simp [ReadError.isEndOfInput])
  | lexical error => simp [conclusion, outcome, hfailure, ReadError.lexical?]

/-- A reader that is filled but has too few tokens is exhausted with its final error. -/
theorem IsFilled.exhausted_eq {shift : Nat} (hfilled : IsFilled (shift + 1) reader)
    (hlexical : reader.FailsLexically) (hfew : reader.pending[shift]? = none) :
    reader.exhausted = reader.conclusion := by
  cases hfailure : reader.failure with
  | some error =>
      rw [conclusion_of_failure hlexical hfailure, exhausted, hfailure, Option.getD_some]
  | none =>
      have hnil : reader.lines.remaining = [] := by
        rcases hfilled with hcount | hfailed | hnil
        · have hlength := List.getElem?_eq_none_iff.mp hfew
          omega
        · exact absurd hfailure hfailed
        · exact hnil
      simp [exhausted, conclusion, outcome, hfailure, hnil, Line.script_nil,
        LineReader.position_eq]

end Answers

section Items

variable {tokens : List Token} {failure : ReadError} {index : Nat}

theorem getElem?_items_of_lt (hindex : index < tokens.length) :
    (items tokens failure)[index]? = some (.ok tokens[index]) := by
  rw [items, List.getElem?_append_left (by rwa [List.length_map]), List.getElem?_map,
    List.getElem?_eq_getElem hindex, Option.map_some]

theorem getElem?_items_length :
    (items tokens failure)[tokens.length]? =
      if failure.isEndOfInput then none else some (.error failure) := by
  rw [items, List.getElem?_append_right (by rw [List.length_map]), List.length_map, Nat.sub_self]
  split <;> rfl

theorem length_items_le : (items tokens failure).length ≤ tokens.length + 1 := by
  rw [items, List.length_append, List.length_map]
  split <;> simp

theorem answerAt_of_lt (hindex : index < tokens.length) :
    answerAt tokens failure index = .ok tokens[index] := by
  rw [answerAt, List.getElem?_eq_getElem hindex, Option.elim_some]

theorem answerAt_of_le (hindex : tokens.length ≤ index) :
    answerAt tokens failure index = .error failure := by
  rw [answerAt, List.getElem?_eq_none hindex, Option.elim_none]

theorem isPrefix_concat {α : Type} {taken all : List α} (htaken : taken <+: all) :
    taken ++ (all[taken.length]?).toList <+: all := by
  have hmore := List.take_prefix (taken.length + 1) all
  rwa [List.take_add_one, ← List.prefix_iff_eq_take.mp htaken] at hmore

end Items

/-- The invariant of a run: the reader stands behind the items `taken`. -/
structure IsBehind (tokens : List Token) (failure : ReadError)
    (taken : List (Except ReadError Token)) (reader : TokenReader) : Prop where
  isPrefix : taken <+: items tokens failure
  outcome_eq : reader.outcome.1 = tokens.drop taken.length
  conclusion_eq : reader.conclusion = failure
  failsLexically : reader.FailsLexically
  reported_iff : reader.reported ↔ tokens.length < taken.length

namespace IsBehind

variable {tokens : List Token} {failure : ReadError} {taken : List (Except ReadError Token)}
  {reader : TokenReader}

theorem fill (hbehind : IsBehind tokens failure taken reader) (count : Nat) :
    IsBehind tokens failure taken (reader.fill count) where
  isPrefix := hbehind.isPrefix
  outcome_eq := by rw [(fill_spec count reader).1, hbehind.outcome_eq]
  conclusion_eq := by rw [conclusion_fill, hbehind.conclusion_eq]
  failsLexically := (fill_keeps count reader).2 hbehind.failsLexically
  reported_iff := by rw [(fill_spec count reader).2.1, hbehind.reported_iff]

/-- What can be seen of a filled reader stands behind the items taken. -/
theorem getElem?_pending_fill (hbehind : IsBehind tokens failure taken reader) (shift : Nat) :
    (reader.fill (shift + 1)).pending[shift]? = tokens[taken.length + shift]? := by
  rw [(fill_spec (shift + 1) reader).2.2.getElem?_pending, (hbehind.fill _).outcome_eq,
    List.getElem?_drop]

theorem head?_pending_fill (hbehind : IsBehind tokens failure taken reader) :
    (reader.fill 1).pending.head? = tokens[taken.length]? :=
  List.head?_eq_getElem?.trans (hbehind.getElem?_pending_fill 0)

theorem exhausted_fill (hbehind : IsBehind tokens failure taken reader) (shift : Nat)
    (hfew : tokens.length ≤ taken.length + shift) :
    (reader.fill (shift + 1)).exhausted = failure := by
  have hfilled := hbehind.fill (shift + 1)
  rw [← hfilled.conclusion_eq]
  apply (fill_spec (shift + 1) reader).2.2.exhausted_eq hfilled.failsLexically
  rw [hbehind.getElem?_pending_fill, List.getElem?_eq_none hfew]

/-- With as many tokens pending as the shift asks for, what is seen is the answer. -/
theorem peek_eq (hbehind : IsBehind tokens failure taken reader) (shift : UInt64)
    (hshift : shift.toNat + 1 < UInt64.size) :
    (reader.peek shift).1 = answerAt tokens failure (taken.length + shift.toNat) := by
  have hcount : (shift + 1).toNat = shift.toNat + 1 := Nat.mod_eq_of_lt hshift
  have hpending := hbehind.getElem?_pending_fill shift.toNat
  rw [peek, hcount, answerAt, hpending]
  cases hfound : tokens[taken.length + shift.toNat]? with
  | some token => rfl
  | none =>
      have hfew := List.getElem?_eq_none_iff.mp hfound
      exact congrArg Except.error (hbehind.exhausted_fill shift.toNat hfew)

theorem next_of_lt (hbehind : IsBehind tokens failure taken reader)
    (hleft : taken.length < tokens.length) :
    ∃ behind, reader.next = (.ok tokens[taken.length], behind) ∧
      IsBehind tokens failure (taken ++ [.ok tokens[taken.length]]) behind := by
  have hfilled := hbehind.fill 1
  have hfirst := hbehind.head?_pending_fill
  rw [List.getElem?_eq_getElem hleft, List.head?_eq_some_iff] at hfirst
  obtain ⟨pending, hpending⟩ := hfirst
  have hsplit := outcome_of_pending hpending
  refine ⟨{ reader.fill 1 with pending }, by rw [next, hpending], ?_, ?_, ?_, ?_, ?_⟩
  · have hprefix := isPrefix_concat hbehind.isPrefix
    rwa [getElem?_items_of_lt hleft] at hprefix
  · have hdrop := hfilled.outcome_eq
    rw [hsplit, List.drop_eq_getElem_cons hleft] at hdrop
    rw [List.length_append]
    exact (List.cons.inj hdrop).2
  · have hconclusion := hfilled.conclusion_eq
    rw [conclusion, hsplit] at hconclusion
    exact hconclusion
  · exact hfilled.failsLexically
  · have hreported := hfilled.reported_iff
    rw [hreported, List.length_append, List.length_singleton]
    omega

theorem next_of_le (hbehind : IsBehind tokens failure taken reader)
    (hnone : tokens.length ≤ taken.length) : reader.next = (.error failure, reader.fill 1) := by
  have hfirst := hbehind.head?_pending_fill
  rw [List.getElem?_eq_none hnone, List.head?_eq_none_iff] at hfirst
  rw [next, hfirst]
  exact Prod.ext (congrArg Except.error (hbehind.exhausted_fill 0 hnone)) rfl

theorem next_eq (hbehind : IsBehind tokens failure taken reader) :
    reader.next.1 = answerAt tokens failure taken.length := by
  rcases Nat.lt_or_ge taken.length tokens.length with hleft | hnone
  · obtain ⟨behind, hnext, -⟩ := hbehind.next_of_lt hleft
    rw [hnext, answerAt_of_lt hleft]
  · rw [hbehind.next_of_le hnone, answerAt_of_le hnone]

/-- The next item is the one behind the items taken, and it joins them. -/
theorem next?_eq (hbehind : IsBehind tokens failure taken reader) :
    ∃ behind, reader.next? = ((items tokens failure)[taken.length]?, behind) ∧
      IsBehind tokens failure (taken ++ ((items tokens failure)[taken.length]?).toList) behind := by
  have hlength := hbehind.isPrefix.length_le
  have hmost := @length_items_le tokens failure
  cases hreported : reader.reported with
  | true =>
      have hall := hbehind.reported_iff.mp hreported
      rw [next?, hreported, List.getElem?_eq_none (by omega), Option.toList_none, List.append_nil]
      exact ⟨reader, rfl, hbehind⟩
  | false =>
      have hfew : ¬ tokens.length < taken.length := by
        rw [← hbehind.reported_iff, hreported]
        exact Bool.false_ne_true
      rw [next?, hreported]
      rcases Nat.lt_or_ge taken.length tokens.length with hleft | hnone
      · obtain ⟨behind, hnext, hbehind'⟩ := hbehind.next_of_lt hleft
        rw [hnext, getElem?_items_of_lt hleft]
        exact ⟨behind, rfl, hbehind'⟩
      · -- All tokens are taken, and whether the error is an item depends on the error.
        have hsame : taken.length = tokens.length := by omega
        have hfilled := hbehind.fill 1
        have hprefix := isPrefix_concat hbehind.isPrefix
        rw [hbehind.next_of_le hnone]
        rw [hsame, getElem?_items_length] at hprefix ⊢
        by_cases hend : failure.isEndOfInput
        · rw [if_pos hend, Option.toList_none, List.append_nil]
          exact ⟨reader.fill 1, by simp [hend], hfilled⟩
        · rw [if_neg hend] at hprefix ⊢
          refine ⟨{ reader.fill 1 with reported := true }, by simp [hend], hprefix, ?_,
            hfilled.conclusion_eq, hfilled.failsLexically, ?_⟩
          · have houtcome := hfilled.outcome_eq
            rw [List.drop_of_length_le hnone] at houtcome
            rw [List.drop_of_length_le (by rw [List.length_append]; omega)]
            exact houtcome
          · simp [hsame]

theorem atEnd_iff (hbehind : IsBehind tokens failure taken reader) :
    reader.atEnd.1 ↔ tokens.length ≤ taken.length ∧ failure.isEndOfInput := by
  have hfirst := hbehind.head?_pending_fill
  rw [atEnd]
  rcases Nat.lt_or_ge taken.length tokens.length with hleft | hnone
  · rw [List.getElem?_eq_getElem hleft, List.head?_eq_some_iff] at hfirst
    obtain ⟨pending, hpending⟩ := hfirst
    rw [hpending]
    simp only [List.isEmpty_cons, Bool.false_and, Bool.false_eq_true, false_iff, not_and]
    intro hnone
    omega
  · have hexhausted := hbehind.exhausted_fill 0 hnone
    rw [List.getElem?_eq_none hnone, List.head?_eq_none_iff] at hfirst
    rw [hfirst, ← hexhausted, exhausted]
    cases hfailure : (reader.fill 1).failure with
    | none => simp [ReadError.isEndOfInput, hnone]
    | some error => simp [(hbehind.fill 1).failsLexically error hfailure]

/-- Every operation keeps the invariant, with what it takes off among the items taken. -/
theorem apply (hbehind : IsBehind tokens failure taken reader) (operation : Operation) :
    IsBehind tokens failure (taken ++ (reader.apply operation).1.toList)
      (reader.apply operation).2 := by
  cases operation with
  | next =>
      rcases Nat.lt_or_ge taken.length tokens.length with hleft | hnone
      · obtain ⟨behind, hnext, hbehind'⟩ := hbehind.next_of_lt hleft
        rw [TokenReader.apply, hnext]
        exact hbehind'
      · rw [TokenReader.apply, hbehind.next_of_le hnone]
        simpa [Except.toOption] using hbehind.fill 1
  | next? =>
      obtain ⟨behind, hnext, hbehind'⟩ := hbehind.next?_eq
      rw [TokenReader.apply, hnext]
      exact hbehind'
  | peek shift =>
      rw [TokenReader.apply, peek_snd]
      simpa using hbehind.fill (shift + 1).toNat
  | atEnd =>
      rw [TokenReader.apply, atEnd]
      simpa using hbehind.fill 1

theorem run (hbehind : IsBehind tokens failure taken reader) (operations : List Operation) :
    IsBehind tokens failure (taken ++ (reader.run operations).1) (reader.run operations).2 := by
  induction operations generalizing taken reader with
  | nil => simpa [TokenReader.run] using hbehind
  | cons operation following ih =>
      have hrun := ih (hbehind.apply operation)
      rwa [List.append_assoc] at hrun

/-- After `shift` calls for the next token comes the token with that index. -/
theorem next_run_replicate (hbehind : IsBehind tokens failure taken reader) (shift : Nat) :
    (reader.run (List.replicate shift .next)).2.next.1 =
      answerAt tokens failure (taken.length + shift) := by
  induction shift generalizing taken reader with
  | zero => exact hbehind.next_eq
  | succ shift ih =>
      rw [List.replicate_succ, TokenReader.run, ih (hbehind.apply .next), TokenReader.apply]
      rcases Nat.lt_or_ge taken.length tokens.length with hleft | hnone
      · obtain ⟨behind, hnext, -⟩ := hbehind.next_of_lt hleft
        rw [hnext, List.length_append]
        exact congrArg _ (Nat.add_assoc _ 1 shift |>.trans (congrArg _ (Nat.add_comm 1 shift)))
      · rw [hbehind.next_of_le hnone, answerAt_of_le (by rw [List.length_append]; omega),
          answerAt_of_le (by omega)]

end IsBehind

/-- A new reader stands before the tokens of its lines. -/
theorem isBehind_ofLines (lines : LineReader) :
    IsBehind (Line.script lines.remaining).1
      (((Line.script lines.remaining).2.map .lexical).getD (.endOfInput lines.stop)) []
      (ofLines lines) where
  isPrefix := List.nil_prefix
  outcome_eq := rfl
  conclusion_eq := rfl
  failsLexically _ hfailure := nomatch hfailure
  reported_iff := by simp [ofLines]

end TokenReader

end BlockLexer
