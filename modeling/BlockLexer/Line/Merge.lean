import BlockLexer.Line.Reader

/-! # Merging lines

Lines that belong together are handed out as one. `LineReader.mergeUntil` asks a condition about
one line after the other and merges everything up to the first line that satisfies it;
`LineReader.mergeRest` merges all that is left.
-/

namespace BlockLexer.LineReader

/-- The lines that were passed over and the line behind them as one. -/
def joined (passed : List Line) (line : Line) : Line :=
  match passed with
  | [] => line
  | first :: following => first.mergeAll (following ++ [line])

/-- Asks about the lines of `reader` in order; `passed` are the lines asked about before. If no
line satisfies the condition, all of them are given back. -/
def seek {σ : Type} (ask : σ → Line → Verdict σ) (state : σ) (passed : List Line)
    (reader : LineReader) : Except ReadError Line × σ × LineReader :=
  match _hnext : reader.next with
  | .error error => (.error error, state, { reader with buffer := passed })
  | .ok (line, behind) =>
      let verdict := ask state line
      let seen := if verdict.tokenizes then line.tokenized else line
      if verdict.holds then (.ok (joined passed seen), verdict.state, behind)
      else seek ask verdict.state (passed ++ [seen]) behind
termination_by reader.size
decreasing_by exact size_of_next _hnext

/-- Merges the lines up to the first one that satisfies a condition, which may remember what it
has been asked. The final state of the condition is returned with the result. -/
def mergeUntil {σ : Type} (ask : σ → Line → Verdict σ) (state : σ) (reader : LineReader) :
    Except ReadError Line × σ × LineReader :=
  seek ask state [] reader

/-- Merges the lines up to the first one that satisfies a plain condition. -/
def mergeUntilLine (holds : Line → Bool) (reader : LineReader) :
    Except ReadError Line × LineReader :=
  let outcome := reader.mergeUntil (fun () line => ⟨holds line, false, ()⟩) ()
  (outcome.1, outcome.2.2)

/-- Merges all that is left. The result is never skipped, even if a block is left open. -/
def mergeRest (reader : LineReader) : Except ReadError Line × LineReader :=
  let loaded := reader.loadMore reader.cursor.rest.length
  match loaded.buffer with
  | [] => (.error loaded.cursor.endOfInput, loaded)
  | line :: following =>
      (.ok ((line.mergeAll following).withSkipped false), { loaded with buffer := [] })

/-- Merging takes lines away. -/
theorem size_of_seek {σ : Type} {ask : σ → Line → Verdict σ} {state state' : σ} {passed : List Line}
    {reader behind : LineReader} {line : Line}
    (hseek : seek ask state passed reader = (.ok line, state', behind)) :
    behind.size < reader.size := by
  fun_induction seek ask state passed reader with
  | case1 => simp at hseek
  | case2 state passed reader line' after hnext verdict seen hholds =>
      simp only [Prod.mk.injEq] at hseek
      rw [← hseek.2.2]
      exact size_of_next hnext
  | case3 state passed reader line' after hnext verdict seen hholds ih =>
      exact Nat.lt_trans (ih hseek) (size_of_next hnext)

/-- A merge that finds no end does not make more lines. -/
theorem size_of_seek_error {σ : Type} {ask : σ → Line → Verdict σ} {state state' : σ}
    {passed : List Line} {reader behind : LineReader} {error : ReadError}
    (hseek : seek ask state passed reader = (.error error, state', behind)) :
    behind.size ≤ passed.length + reader.size := by
  fun_induction seek ask state passed reader with
  | case1 =>
      simp only [Prod.mk.injEq] at hseek
      rw [← hseek.2.2]
      simp only [size]
      omega
  | case2 => simp at hseek
  | case3 state passed reader line after hnext verdict seen hholds ih =>
      have hgiven := ih hseek
      have hfewer := size_of_next hnext
      simp only [List.length_append, List.length_cons, List.length_nil] at hgiven
      omega

/-- Merging up to a line takes lines away. -/
theorem size_of_mergeUntilLine {holds : Line → Bool} {reader behind : LineReader} {line : Line}
    (hmerge : reader.mergeUntilLine holds = (.ok line, behind)) : behind.size < reader.size := by
  obtain ⟨hline, hbehind⟩ := Prod.mk.inj hmerge
  exact size_of_seek (Prod.ext hline (Prod.ext rfl hbehind))

/-- A merge up to a line that is not found does not make more lines. -/
theorem size_of_mergeUntilLine_error {holds : Line → Bool} {reader behind : LineReader}
    {error : ReadError} (hmerge : reader.mergeUntilLine holds = (.error error, behind)) :
    behind.size ≤ reader.size := by
  obtain ⟨herror, hbehind⟩ := Prod.mk.inj hmerge
  have hsize : behind.size ≤ [].length + reader.size :=
    size_of_seek_error (Prod.ext herror (Prod.ext rfl hbehind))
  rwa [List.length_nil, Nat.zero_add] at hsize

/-- Merging all that is left takes lines away. -/
theorem size_of_mergeRest {reader behind : LineReader} {line : Line}
    (hmerge : reader.mergeRest = (.ok line, behind)) : behind.size < reader.size := by
  have hloaded := size_loadMore_le reader.cursor.rest.length reader
  simp only [mergeRest] at hmerge
  split at hmerge
  · simp at hmerge
  · next first following hbuffer =>
    simp only [Prod.mk.injEq] at hmerge
    rw [← hmerge.2]
    simp only [size, hbuffer, List.length_cons, List.length_nil] at hloaded ⊢
    omega

end BlockLexer.LineReader
