import BlockLexer.Proofs.Composition
import BlockLexer.Proofs.Token.Unit

/-! # Streaming agrees with tokenizing at once

What a token reader will still hand out is fixed from the start: `TokenReader.outcome` reads it off
the pending tokens and the lines that remain, and filling the reader does not change it. For the
lines behind a cursor it is the result of tokenizing the text behind the cursor at once.
-/

namespace BlockLexer

/-- The lexical error, if that is what reading failed with. -/
def ReadError.lexical? : ReadError → Option LexicalError
  | .endOfInput _ => none
  | .lexical error => some error

/-- The tokens of the units of a list of lines up to the first error, and the error. -/
def Line.script (lines : List Line) : List Token × Option LexicalError :=
  match _htake : takeUnit? lines with
  | none => ([], none)
  | some (unit, rest) =>
      match unit.tokens with
      | .error error => ([], some error)
      | .ok tokens => (tokens ++ (script rest).1, (script rest).2)
termination_by lines.length
decreasing_by exact length_of_takeUnit? _htake

theorem Line.script_nil : Line.script [] = ([], none) := by
  rw [script]
  rfl

theorem Line.script_of_error {lines rest : List Line} {unit : Line} {error : LexicalError}
    (htake : takeUnit? lines = some (unit, rest)) (htokens : unit.tokens = .error error) :
    script lines = ([], some error) := by
  rw [script]
  split <;> simp_all

theorem Line.script_of_ok {lines rest : List Line} {unit : Line} {tokens : List Token}
    (htake : takeUnit? lines = some (unit, rest)) (htokens : unit.tokens = .ok tokens) :
    script lines = (tokens ++ (script rest).1, (script rest).2) := by
  rw [script]
  split <;> simp_all

namespace TokenReader

/-- The tokens that are still to be handed out and the lexical error behind them, if there is one.
-/
def outcome (reader : TokenReader) : List Token × Option LexicalError :=
  match reader.failure with
  | some error => (reader.pending, error.lexical?)
  | none =>
      (reader.pending ++ (Line.script reader.lines.remaining).1,
        (Line.script reader.lines.remaining).2)

/-- The reader has `count` tokens pending, or an error, or no lines left. -/
def IsFilled (count : Nat) (reader : TokenReader) : Prop :=
  count ≤ reader.pending.length ∨ reader.failure ≠ none ∨ reader.lines.remaining = []

theorem takeUnit?_of_nextUnit {lines behind : LineReader} {unit : Line}
    (hunit : nextUnit lines = (.ok unit, behind)) :
    Line.takeUnit? lines.remaining = some (unit, behind.remaining) ∧ behind.stop = lines.stop := by
  obtain ⟨after, hstop, ⟨unit', htake, hok⟩ | ⟨-, herror⟩⟩ := nextUnit_spec lines
  · rw [hunit] at hok
    obtain ⟨hsame, rfl⟩ := Prod.mk.inj hok
    obtain rfl := Except.ok.inj hsame
    exact ⟨htake, hstop⟩
  · rw [hunit] at herror
    simp at herror

theorem remaining_of_nextUnit_error {lines behind : LineReader} {error : ReadError}
    (hunit : nextUnit lines = (.error error, behind)) : lines.remaining = [] := by
  obtain ⟨after, -, ⟨unit, -, hok⟩ | ⟨hnil, -⟩⟩ := nextUnit_spec lines
  · rw [hunit] at hok
    simp at hok
  · exact hnil

/-- Filling changes nothing that is still to come. -/
theorem fill_spec (count : Nat) (reader : TokenReader) :
    (reader.fill count).outcome = reader.outcome ∧
      (reader.fill count).reported = reader.reported ∧ IsFilled count (reader.fill count) := by
  fun_induction fill count reader with
  | case1 reader hfill error behind hunit =>
      simp only [Bool.and_eq_true, Bool.not_eq_true', ← Bool.not_eq_true,
        LineReader.atEnd_iff] at hfill
      exact absurd (remaining_of_nextUnit_error hunit) hfill.2
  | case2 reader hfill unit behind hunit tokens htokens ih =>
      simp only [Bool.and_eq_true, Option.isNone_iff_eq_none] at hfill
      obtain ⟨houtcome, hreported, hfilled⟩ := ih
      refine ⟨?_, hreported, hfilled⟩
      rw [houtcome]
      simp only [outcome, hfill.1.2]
      rw [Line.script_of_ok (takeUnit?_of_nextUnit hunit).1 htokens]
      simp [List.append_assoc]
  | case3 reader hfill unit behind hunit error htokens =>
      simp only [Bool.and_eq_true, Option.isNone_iff_eq_none] at hfill
      refine ⟨?_, rfl, .inr (.inl (Option.some_ne_none _))⟩
      simp only [outcome, hfill.1.2]
      rw [Line.script_of_error (takeUnit?_of_nextUnit hunit).1 htokens]
      simp [ReadError.lexical?]
  | case4 reader hfill =>
      -- Filling has stopped, for one of the reasons of `IsFilled`.
      refine ⟨rfl, rfl, ?_⟩
      simp only [Bool.and_eq_true, decide_eq_true_eq, Bool.not_eq_true', ← Bool.not_eq_true,
        LineReader.atEnd_iff, not_and, Option.isNone_iff_eq_none, not_not] at hfill
      by_cases hcount : count ≤ reader.pending.length
      · exact .inl hcount
      · by_cases hfailure : reader.failure = none
        · exact .inr (.inr (hfill ⟨by omega, hfailure⟩))
        · exact .inr (.inl hfailure)

theorem outcome_of_pending {reader : TokenReader} {token : Token} {pending : List Token}
    (hpending : reader.pending = token :: pending) :
    reader.outcome = (token :: ({ reader with pending } : TokenReader).outcome.1,
      ({ reader with pending } : TokenReader).outcome.2) := by
  unfold outcome
  split <;> simp_all

/-- The next token is the first of those still to come. -/
theorem next_spec (reader : TokenReader) :
    (∃ token behind, reader.outcome = (token :: behind.outcome.1, behind.outcome.2) ∧
        behind.reported = reader.reported ∧ reader.next = (.ok token, behind)) ∨
      ∃ error behind, reader.outcome = ([], error.lexical?) ∧
        reader.next = (.error error, behind) := by
  obtain ⟨houtcome, hreported, hfilled⟩ := fill_spec 1 reader
  rw [← houtcome, ← hreported]
  simp only [next]
  cases hpending : (reader.fill 1).pending with
  | cons token pending =>
      exact .inl ⟨token, { reader.fill 1 with pending := pending }, outcome_of_pending hpending,
        rfl, rfl⟩
  | nil =>
      refine .inr ⟨(reader.fill 1).exhausted, reader.fill 1, ?_, rfl⟩
      cases hfailure : (reader.fill 1).failure with
      | some error => simp [outcome, exhausted, hfailure, hpending]
      | none =>
          have hnil : (reader.fill 1).lines.remaining = [] := by
            simpa [IsFilled, hpending, hfailure] using hfilled
          simp [outcome, exhausted, hfailure, hpending, hnil, Line.script_nil, ReadError.lexical?]

/-- The next item is the first token still to come, or else the error. -/
theorem next?_spec {reader : TokenReader} (hreported : reader.reported = false) :
    (∃ token behind, reader.outcome = (token :: behind.outcome.1, behind.outcome.2) ∧
        behind.reported = false ∧ reader.next? = (some (.ok token), behind)) ∨
      (∃ error behind, reader.outcome = ([], some error) ∧
        reader.next? = (some (.error (.lexical error)), behind)) ∨
      ∃ behind, reader.outcome = ([], none) ∧ reader.next? = (none, behind) := by
  rw [next?, if_neg (by simp [hreported])]
  rcases next_spec reader with
    ⟨token, behind, houtcome, hsame, hnext⟩ | ⟨error, behind, houtcome, hnext⟩
  · exact .inl ⟨token, behind, houtcome, hsame.trans hreported, by rw [hnext]⟩
  · cases error with
    | endOfInput position => exact .inr (.inr ⟨behind, houtcome, by rw [hnext]; rfl⟩)
    | lexical error =>
        exact .inr (.inl ⟨error, { behind with reported := true }, houtcome, by rw [hnext]; rfl⟩)

/-- The items handed out one by one are the tokens still to come and then the error. -/
theorem takeRest_spec {reader : TokenReader} (hreported : reader.reported = false) :
    reader.takeRest.1 =
      reader.outcome.1.map .ok ++ (reader.outcome.2.map (.error ∘ .lexical)).toList := by
  fun_induction takeRest reader with
  | case1 reader behind hnext =>
      rcases next?_spec hreported with
        ⟨token, after, houtcome, hsame, hitem⟩ | ⟨error, after, houtcome, hitem⟩ |
          ⟨after, houtcome, hitem⟩
      · simp [hitem] at hnext
      · simp [hitem] at hnext
      · simp [houtcome]
  | case2 reader error behind hnext =>
      rcases next?_spec hreported with
        ⟨token, after, houtcome, hsame, hitem⟩ | ⟨found, after, houtcome, hitem⟩ |
          ⟨after, houtcome, hitem⟩
      · simp [hitem] at hnext
      · rw [hitem] at hnext
        obtain ⟨hfound, -⟩ := Prod.mk.inj hnext
        simp [houtcome, ← Except.error.inj (Option.some.inj hfound)]
      · simp [hitem] at hnext
  | case3 reader token behind hnext ih =>
      rcases next?_spec hreported with
        ⟨found, after, houtcome, hsame, hitem⟩ | ⟨error, after, houtcome, hitem⟩ |
          ⟨after, houtcome, hitem⟩
      · rw [hitem] at hnext
        obtain ⟨hfound, rfl⟩ := Prod.mk.inj hnext
        obtain rfl := Except.ok.inj (Option.some.inj hfound)
        simp [houtcome, ih hsame]
      · simp [hitem] at hnext
      · simp [hitem] at hnext

end TokenReader

/-- A script as the result of reading a whole source. -/
def Line.scriptResult (script : List Token × Option LexicalError) :
    Except LexicalError (List Token) :=
  match script.2 with
  | none => .ok script.1
  | some error => .error error

theorem Line.scriptResult_append (tokens : List Token)
    (script : List Token × Option LexicalError) :
    scriptResult (tokens ++ script.1, script.2) =
      (do
        let others ← scriptResult script
        .ok (tokens ++ others)) := by
  unfold scriptResult
  cases script.2 <;> rfl

section Units

variable {settings : Settings} {position : Position} {offset : Nat} {front behind : List Text}
  {unit : Line} {rest : List Line}

/-- No block is open where the lines behind a unit begin. -/
theorem Line.IsUnit.rest_eq {position' : Position} {offset' : Nat}
    (hunit : IsUnit (physicals settings none position offset front) unit rest)
    (hrest : rest =
      physicals settings (front.foldl OpenBlock.afterLine none) position' offset' behind) :
    rest = physicals settings none position' offset' behind := by
  by_cases hempty : rest = []
  · have hlength := congrArg List.length hrest
    rw [hempty, length_physicals, List.length_nil, eq_comm, List.length_eq_zero_iff] at hlength
    rw [hempty, hlength]
    rfl
  · rw [hunit.closed hempty] at hrest
    exact hrest

/-- Tokenizing a text at once goes through its first unit and then through the other lines. -/
theorem Line.IsUnit.tokenizeAt_eq {text : Text} (hlines : Text.lines text = front ++ behind)
    (hunit : IsUnit (physicals settings none position offset front) unit rest)
    (hrest : behind ≠ [] → rest ≠ []) :
    tokenizeAt settings position text =
      (do
        let tokens ← unit.tokens
        let others ← tokenizeAt settings (position.after front.flatten) behind.flatten
        .ok (tokens ++ others)) := by
  rw [hunit.tokens_eq]
  exact tokenizeAt_of_lines_eq_append hlines fun hempty => hunit.closed (hrest hempty)

end Units

/-- Reading physical lines unit by unit gives the result of tokenizing their text at once. -/
theorem Line.script_physicals (settings : Settings) (position : Position) (offset : Nat)
    (text : Text) :
    scriptResult (script (physicals settings none position offset (Text.lines text))) =
      tokenizeAt settings position text := by
  -- A unit is one line or many, so the induction is on the number of lines.
  induction hlength : (Text.lines text).length using Nat.strong_induction_on
    generalizing position offset text with
  | h length ih =>
      cases htake : takeUnit? (physicals settings none position offset (Text.lines text)) with
      | none =>
          have htext : text = [] := by
            have hnil := congrArg List.length (takeUnit?_eq_none_iff.mp htake)
            rw [length_physicals, List.length_nil, List.length_eq_zero_iff] at hnil
            rw [← Text.flatten_lines text, hnil]
            rfl
          rw [htext, tokenizeAt, tokenizeFrom_nil]
          exact congrArg scriptResult script_nil
      | some found =>
          obtain ⟨unit, rest⟩ := found
          have hshorter := length_of_takeUnit? htake
          obtain ⟨taken, hsplit, hunit⟩ := exists_isUnit_of_takeUnit? htake
          obtain ⟨front, behind, hlines, rfl, hrest⟩ := exists_of_physicals_eq_append hsplit
          have hbehind := (Text.lines_flatten_of_append hlines).2.1
          have hsame : rest.length = behind.length := by
            rw [hrest, length_physicals]
          have hfewer : (Text.lines behind.flatten).length < length := by
            rw [length_physicals, hlength, hsame] at hshorter
            rwa [hbehind]
          -- Both ways of reading go through the unit first and then through the rest.
          have hscript := ih _ hfewer (position.after front.flatten)
            (offset + Text.byteLength front.flatten) behind.flatten rfl
          rw [hbehind, ← hunit.rest_eq hrest] at hscript
          have hfollowing : behind ≠ [] → rest ≠ [] := by
            intro hne hnil
            rw [hnil, List.length_nil, eq_comm, List.length_eq_zero_iff] at hsame
            exact hne hsame
          rw [hunit.tokenizeAt_eq hlines hfollowing, ← hscript]
          cases htokens : unit.tokens with
          | error error =>
              rw [script_of_error htake htokens]
              rfl
          | ok tokens =>
              rw [script_of_ok htake htokens, scriptResult_append]
              rfl

theorem mapM_id_items (tokens : List Token) (error? : Option LexicalError) :
    (tokens.map Except.ok ++ (error?.map (Except.error ∘ ReadError.lexical)).toList).mapM id =
      (Line.scriptResult (tokens, error?)).mapError ReadError.lexical := by
  induction tokens with
  | nil => cases error? <;> rfl
  | cons token others ih =>
      rw [List.map_cons, List.cons_append, List.mapM_cons, ih]
      cases error? <;> rfl

/-- Reading the lines of a reader to the end gives the result of their script. -/
theorem TokenReader.mapM_takeRest_ofLines (lines : LineReader) :
    (ofLines lines).takeRest.1.mapM id =
      (Line.scriptResult (Line.script lines.remaining)).mapError ReadError.lexical := by
  rw [takeRest_spec rfl, mapM_id_items]
  rfl

/-- All tokens behind a cursor, read one by one, or the first error. -/
def streamFrom (settings : Settings) (cursor : Cursor) : Except ReadError (List Token) :=
  (TokenReader.ofLines (LineReader.ofCursor settings cursor)).takeRest.1.mapM id

theorem streamFrom_eq_tokenizeAt (settings : Settings) (cursor : Cursor) :
    streamFrom settings cursor =
      (tokenizeAt settings cursor.position cursor.rest).mapError ReadError.lexical := by
  rw [streamFrom, TokenReader.mapM_takeRest_ofLines, ← Line.script_physicals]
  rfl

/-- Only what the settings keep matters to the tokens. -/
theorem tokenizeFrom_congr {settings settings' : Settings}
    (hkeeps : ∀ kind, settings.keeps kind = settings'.keeps kind) (level : Nat)
    (position : Position) (text : Text) :
    tokenizeFrom settings level position text = tokenizeFrom settings' level position text := by
  induction level, position, text using tokenize_induction with
  | nil level position => rw [tokenizeFrom_nil, tokenizeFrom_nil]
  | flaw level position c text flaw hcut =>
      rw [tokenizeFrom_of_cut_error hcut, tokenizeFrom_of_cut_error hcut]
  | lexeme level position c text lexeme rest hcut ihopening ih =>
      have hchildren : openingTokens settings level position lexeme =
          openingTokens settings' level position lexeme :=
        openingTokens_eq_of_opening id rfl ihopening
      rw [tokenizeFrom_of_cut_ok hcut, tokenizeFrom_of_cut_ok hcut, hchildren, ih]
      simp only [Settings.consKept, hkeeps]

/-- Reading a source token by token, from any character on, gives the tokens or the error of the
text that is left. Block tracking and the size of the buffers do not matter. -/
theorem streaming_agrees :
    (∀ settings source count,
      streamFrom settings ((Cursor.ofText source).skip count) =
        (tokenizeAt settings ((Cursor.ofText source).skip count).position
          (source.drop count)).mapError ReadError.lexical) ∧
      (∀ settings source,
        tokenize settings source =
          (tokenizeAt settings Position.start source).mapError ReadError.lexical) ∧
      ∀ (settings : Settings) trackBlocks lookahead source count,
        streamFrom { settings with trackBlocks, lookahead } ((Cursor.ofText source).skip count) =
          streamFrom settings ((Cursor.ofText source).skip count) := by
  refine ⟨?_, ?_, ?_⟩
  · intro settings source count
    rw [streamFrom_eq_tokenizeAt, Cursor.rest_skip]
    rfl
  · intro settings source
    exact streamFrom_eq_tokenizeAt settings (Cursor.ofText source)
  · intro settings trackBlocks lookahead source count
    have hkeeps : ∀ kind, Settings.keeps { settings with trackBlocks, lookahead } kind =
        settings.keeps kind := by
      intro kind
      cases kind <;> rfl
    rw [streamFrom_eq_tokenizeAt, streamFrom_eq_tokenizeAt, tokenizeAt, tokenizeAt,
      tokenizeFrom_congr hkeeps]

end BlockLexer
