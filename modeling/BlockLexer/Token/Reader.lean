import BlockLexer.Line.Merge

/-! # Reading tokens

A token reader hands out the tokens of a source. It takes the source unit by unit: a line, or a
line that opens a block together with the lines up to the one that closes it, so that a block is
always tokenized as a whole. The first error is kept and returned once the tokens before it are
used up.
-/

namespace BlockLexer

/-- The tokens of a source that are still to be handed out. -/
structure TokenReader where
  lines : LineReader
  /-- Tokens of the units taken so far, in order. -/
  pending : List Token
  /-- The first error, which comes after the pending tokens. -/
  failure : Option ReadError
  /-- The error has been handed out as an item. -/
  reported : Bool

namespace TokenReader

/-- The tokens of the lines of a reader. -/
def ofLines (lines : LineReader) : TokenReader :=
  ⟨lines, [], none, false⟩

/-- The tokens of a source. -/
def ofText (settings : Settings) (source : Text) : TokenReader :=
  ofLines (LineReader.ofText settings source)

/-- The next unit: a line, or a whole block if the line opens one. A block that is never closed
takes all that is left. -/
def nextUnit (lines : LineReader) : Except ReadError Line × LineReader :=
  match lines.peek 0 with
  | (.error error, loaded) => (.error error, loaded)
  | (.ok line, loaded) =>
      if line.opensBlock then
        match loaded.mergeUntilLine (fun line => !line.endsInBlock) with
        | (.ok unit, behind) => (.ok unit, behind)
        | (.error error, behind) =>
            if error.isEndOfInput then behind.mergeRest else (.error error, behind)
      else
        match loaded.next with
        | .ok (unit, behind) => (.ok unit, behind)
        | .error error => (.error error, loaded)

/-- Taking a unit leaves fewer lines. -/
theorem size_of_nextUnit {lines behind : LineReader} {unit : Line}
    (hunit : nextUnit lines = (.ok unit, behind)) : behind.size < lines.size := by
  unfold nextUnit at hunit
  split at hunit
  · simp at hunit
  · next line loaded hpeek =>
    have hloaded : loaded.size ≤ lines.size := by
      have := lines.size_peek_le 0
      rwa [hpeek] at this
    refine Nat.lt_of_lt_of_le ?_ hloaded
    split at hunit
    · split at hunit
      · next merged after hmerge =>
        obtain ⟨-, rfl⟩ := Prod.mk.inj hunit
        exact LineReader.size_of_mergeUntilLine hmerge
      · next error after hmerge =>
        split at hunit
        · exact Nat.lt_of_lt_of_le (LineReader.size_of_mergeRest hunit)
            (LineReader.size_of_mergeUntilLine_error hmerge)
        · simp at hunit
    · split at hunit
      · next after hnext =>
        obtain ⟨-, rfl⟩ := Prod.mk.inj hunit
        exact LineReader.size_of_next hnext
      · simp at hunit

/-- Takes units until `count` tokens are pending, the source ends or an error comes up. -/
def fill (count : Nat) (reader : TokenReader) : TokenReader :=
  if reader.pending.length < count && reader.failure.isNone && !reader.lines.atEnd then
    match _hunit : nextUnit reader.lines with
    | (.error error, behind) => { reader with lines := behind, failure := some error }
    | (.ok unit, behind) =>
        match unit.tokens with
        | .ok tokens =>
            fill count { reader with lines := behind, pending := reader.pending ++ tokens }
        | .error error => { reader with lines := behind, failure := some (.lexical error) }
  else reader
termination_by reader.lines.size
decreasing_by exact size_of_nextUnit _hunit

/-- To have one token pending, a reader takes nothing or leaves fewer lines. -/
theorem size_of_fill_one {reader : TokenReader} {token : Token} {pending : List Token}
    (hpending : (reader.fill 1).pending = token :: pending) :
    (reader.fill 1).lines.size < reader.lines.size ∨
      (reader.fill 1).lines = reader.lines ∧ reader.pending = token :: pending := by
  fun_induction fill 1 reader with
  | case1 reader hempty error behind hunit =>
      simp only at hpending
      simp [hpending] at hempty
  | case2 reader hempty unit behind hunit tokens htokens ih =>
      have hfewer := size_of_nextUnit hunit
      rcases ih hpending with hless | ⟨hsame, -⟩
      · exact Or.inl (Nat.lt_trans hless hfewer)
      · rw [hsame]
        exact Or.inl hfewer
  | case3 reader hempty unit behind hunit error herror =>
      simp only at hpending
      simp [hpending] at hempty
  | case4 => exact Or.inr ⟨rfl, hpending⟩

/-- The error of a reader without pending tokens. -/
def exhausted (reader : TokenReader) : ReadError :=
  reader.failure.getD (.endOfInput reader.lines.position)

/-- The next token, or why there is none. -/
def next (reader : TokenReader) : Except ReadError Token × TokenReader :=
  let filled := reader.fill 1
  match filled.pending with
  | token :: pending => (.ok token, { filled with pending := pending })
  | [] => (.error filled.exhausted, filled)

/-- The token that comes after `shift` others, which stays to be handed out. The shift is a machine
word, and so is the number of tokens to be pending, one more. At the greatest shift this number
wraps to zero, and nothing is taken. -/
def peek (reader : TokenReader) (shift : UInt64) : Except ReadError Token × TokenReader :=
  let filled := reader.fill (shift + 1).toNat
  match filled.pending[shift.toNat]? with
  | some token => (.ok token, filled)
  | none => (.error filled.exhausted, filled)

/-- Nothing is left, not even an error. -/
def atEnd (reader : TokenReader) : Bool × TokenReader :=
  let filled := reader.fill 1
  (filled.pending.isEmpty && filled.failure.isNone, filled)

/-- The next item: a token, or once the first error, or nothing. -/
def next? (reader : TokenReader) : Option (Except ReadError Token) × TokenReader :=
  if reader.reported then (none, reader)
  else
    match reader.next with
    | (.ok token, behind) => (some (.ok token), behind)
    | (.error error, behind) =>
        if error.isEndOfInput then (none, behind)
        else (some (.error error), { behind with reported := true })

/-- Handing out a token leaves fewer lines, or as many lines and fewer tokens. -/
theorem size_of_next? {reader behind : TokenReader} {token : Token}
    (hnext : reader.next? = (some (.ok token), behind)) :
    Prod.Lex (· < ·) (· < ·) (behind.lines.size, behind.pending.length)
      (reader.lines.size, reader.pending.length) := by
  unfold next? at hnext
  split at hnext
  · simp at hnext
  split at hnext
  · next first after hfirst =>
    simp only [Prod.mk.injEq] at hnext
    rw [← hnext.2]
    simp only [next] at hfirst
    split at hfirst
    · next head pending hpending =>
      simp only [Prod.mk.injEq] at hfirst
      rw [← hfirst.2]
      rcases size_of_fill_one hpending with hless | ⟨hsame, htaken⟩
      · exact Prod.Lex.left _ _ hless
      · simp only [hsame, htaken]
        exact Prod.Lex.right _ (Nat.lt_succ_self _)
    · simp at hfirst
  · split at hnext <;> simp at hnext

/-- All items that are left, and the reader behind them. -/
def takeRest (reader : TokenReader) : List (Except ReadError Token) × TokenReader :=
  match _hnext : reader.next? with
  | (none, behind) => ([], behind)
  | (some (.error error), behind) => ([.error error], behind)
  | (some (.ok token), behind) => (takeRest behind).map (.ok token :: ·) id
termination_by (reader.lines.size, reader.pending.length)
decreasing_by exact size_of_next? _hnext

end TokenReader

/-- All tokens of a source, or its first error. -/
def tokenize (settings : Settings) (source : Text) : Except ReadError (List Token) :=
  (TokenReader.ofText settings source).takeRest.1.mapM id

end BlockLexer
