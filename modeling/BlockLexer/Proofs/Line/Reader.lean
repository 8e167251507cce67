import BlockLexer.Line.Merge
import BlockLexer.Proofs.Cursor
import BlockLexer.Proofs.Line.Physical

/-! # A line reader is a list of lines

The lines that a reader has still to hand out are those in its buffer and those still in the
source. Each operation of the reader is one on this list: looking ahead changes nothing in it, and
the rest take lines off its front.
-/

namespace BlockLexer

/-- `LineReader.seek` on a list: the lines up to the first that satisfies the condition as one, or
nothing, what the condition remembers in the end, and the lines that are left. -/
def Line.seek {σ : Type} (ask : σ → Line → Verdict σ) (state : σ) (passed : List Line) :
    List Line → Option Line × σ × List Line
  | [] => (none, state, passed)
  | line :: following =>
      let verdict := ask state line
      let seen := if verdict.tokenizes then line.tokenized else line
      if verdict.holds then (some (LineReader.joined passed seen), verdict.state, following)
      else Line.seek ask verdict.state (passed ++ [seen]) following

namespace LineReader

/-- The lines that are still in the source. -/
def unread (reader : LineReader) : List Line :=
  Line.physicals reader.settings reader.openBlock reader.cursor.position reader.cursor.offset
    (Text.lines reader.cursor.rest)

/-- The lines that are still to be handed out. -/
def remaining (reader : LineReader) : List Line :=
  reader.buffer ++ reader.unread

/-- Position behind the last character of the source. -/
def stop (reader : LineReader) : Position :=
  reader.cursor.position.after reader.cursor.rest

section Load

variable {reader : LineReader}

theorem unread_eq_nil_iff : reader.unread = [] ↔ reader.cursor.rest = [] := by
  rw [unread, ← List.length_eq_zero_iff, Line.length_physicals, List.length_eq_zero_iff]
  constructor
  · intro hlines
    rw [← Text.flatten_lines reader.cursor.rest, hlines]
    rfl
  · intro hrest
    rw [hrest]
    rfl

/-- With nothing left in the source, its end is reached. -/
theorem position_eq_stop (hunread : reader.unread = []) :
    reader.cursor.position = reader.stop := by
  rw [stop, unread_eq_nil_iff.mp hunread, Position.after_nil]

/-- Cutting takes the first of the lines that are still in the source. -/
theorem cutLine?_spec (reader : LineReader) :
    (reader.cutLine? = none ∧ reader.unread = []) ∨
      ∃ line behind, reader.cutLine? = some (line, behind) ∧ reader.unread = line :: behind.unread ∧
        behind.buffer = reader.buffer ∧ behind.stop = reader.stop := by
  unfold cutLine?
  by_cases hrest : reader.cursor.rest = []
  · refine .inl ⟨?_, unread_eq_nil_iff.mpr hrest⟩
    rw [Cursor.readLine?, hrest]
    rfl
  · rw [Cursor.readLine?_of_ne_nil hrest]
    refine .inr ⟨_, _, rfl, ?_, rfl, reader.cursor.stop_skip _⟩
    rw [unread, unread, Text.lines_eq_cons hrest, Line.physicals]
    simp only [Cursor.rest_skip, Cursor.position_skip, Cursor.offset_skip,
      Text.take_length_physicalLine, Text.drop_length_physicalLine]
    rfl

theorem loadMore_spec (count : Nat) (reader : LineReader) :
    (reader.loadMore count).buffer = reader.buffer ++ reader.unread.take count ∧
      (reader.loadMore count).unread = reader.unread.drop count ∧
      (reader.loadMore count).stop = reader.stop := by
  induction count generalizing reader with
  | zero => simp [loadMore]
  | succ count ih =>
      rcases cutLine?_spec reader with
        ⟨hcut, hunread⟩ | ⟨line, behind, hcut, hunread, hbuffer, hstop⟩
      · simp [loadMore, hcut, hunread]
      · simp only [loadMore, hcut, hunread, List.take_succ_cons, List.drop_succ_cons]
        obtain ⟨hloaded, hleft, hsame⟩ := ih { behind with buffer := behind.buffer ++ [line] }
        rw [hloaded, hleft, hsame, hbuffer, List.append_assoc, ← hstop]
        exact ⟨rfl, rfl, rfl⟩

theorem remaining_loadMore (count : Nat) (reader : LineReader) :
    (reader.loadMore count).remaining = reader.remaining := by
  obtain ⟨hbuffer, hunread, -⟩ := loadMore_spec count reader
  rw [remaining, hbuffer, hunread, List.append_assoc, List.take_append_drop, remaining]

theorem getElem?_buffer_load {shift count : Nat} (hshift : shift < count) (reader : LineReader) :
    (reader.load count).buffer[shift]? = reader.remaining[shift]? := by
  rw [load, (loadMore_spec _ reader).1, remaining, List.getElem?_append, List.getElem?_append]
  split
  · rfl
  · rw [List.getElem?_take_of_lt (by omega)]

end Load

section Read

theorem atEnd_iff {reader : LineReader} : reader.atEnd ↔ reader.remaining = [] := by
  rw [atEnd, remaining, List.append_eq_nil_iff, unread_eq_nil_iff, Bool.and_eq_true, Cursor.atEnd,
    List.isEmpty_iff, List.isEmpty_iff]

/-- A reader stands at the beginning of the next line, or at the end of the source. -/
theorem position_eq (reader : LineReader) :
    reader.position = (reader.remaining.head?.map Line.start).getD reader.stop := by
  rw [position, remaining]
  cases reader.buffer with
  | cons line buffer => rfl
  | nil =>
      rw [List.nil_append]
      cases hrest : reader.cursor.rest with
      | nil =>
          have hunread := unread_eq_nil_iff.mpr hrest
          rw [hunread]
          exact position_eq_stop hunread
      | cons c rest =>
          rw [unread, Text.lines_eq_cons (by simp [hrest])]
          rfl

/-- Looking ahead answers with the line in its place and takes none away. -/
theorem peek_spec (reader : LineReader) (shift : Nat) :
    ∃ loaded : LineReader, loaded.remaining = reader.remaining ∧ loaded.stop = reader.stop ∧
      ((∃ line, reader.remaining[shift]? = some line ∧ reader.peek shift = (.ok line, loaded)) ∨
        reader.remaining[shift]? = none ∧
          reader.peek shift = (.error (.endOfInput reader.stop), loaded)) := by
  obtain ⟨-, hunread, hstop⟩ := loadMore_spec (shift + 1 - reader.buffer.length) reader
  refine ⟨reader.load (shift + 1), remaining_loadMore _ reader, hstop, ?_⟩
  have hbuffer := getElem?_buffer_load (Nat.lt_succ_self shift) reader
  simp only [peek, hbuffer]
  cases hline : reader.remaining[shift]? with
  | some line => exact .inl ⟨line, rfl, rfl⟩
  | none =>
      refine .inr ⟨rfl, ?_⟩
      -- There are too few lines, so that the whole source has been read.
      have hfew := List.getElem?_eq_none_iff.mp hline
      rw [remaining, List.length_append] at hfew
      rw [List.drop_eq_nil_of_le (by omega)] at hunread
      rw [← hstop, ← position_eq_stop hunread]
      rfl

/-- The next line is the first of those that remain. -/
theorem next_spec (reader : LineReader) :
    (∃ line behind, reader.remaining = line :: behind.remaining ∧ behind.stop = reader.stop ∧
        reader.next = .ok (line, behind)) ∨
      reader.remaining = [] ∧ reader.next = .error (.endOfInput reader.stop) := by
  unfold next
  split
  · next line buffer hbuffer =>
    refine .inl ⟨line, { reader with buffer := buffer }, ?_, rfl, rfl⟩
    rw [remaining, hbuffer]
    rfl
  · next hbuffer =>
    rw [remaining, hbuffer, List.nil_append]
    rcases cutLine?_spec reader with
      ⟨hcut, hunread⟩ | ⟨line, behind, hcut, hunread, hbehind, hstop⟩
    · exact .inr ⟨hunread, by rw [hcut, ← position_eq_stop hunread]; rfl⟩
    · refine .inl ⟨line, behind, ?_, hstop, by rw [hcut]⟩
      rw [hunread, remaining, hbehind, hbuffer, List.nil_append]

theorem remaining_of_next {reader behind : LineReader} {line : Line}
    (hnext : reader.next = .ok (line, behind)) :
    reader.remaining = line :: behind.remaining ∧ behind.stop = reader.stop := by
  rcases next_spec reader with ⟨first, after, hremaining, hstop, hok⟩ | ⟨-, herror⟩
  · rw [hnext] at hok
    obtain ⟨rfl, rfl⟩ := Prod.mk.inj (Except.ok.inj hok)
    exact ⟨hremaining, hstop⟩
  · rw [hnext] at herror
    contradiction

/-- Reading to the end hands out the lines that remain. -/
theorem takeRest_spec (reader : LineReader) : reader.takeRest.1 = reader.remaining := by
  fun_induction takeRest reader with
  | case1 reader error hnext =>
      rcases next_spec reader with ⟨line, behind, -, -, hok⟩ | ⟨hnil, -⟩
      · rw [hnext] at hok
        contradiction
      · exact hnil.symm
  | case2 reader line behind hnext ih =>
      rw [(remaining_of_next hnext).1, ← ih]
      rfl

/-- Merging up to a line works on the lines that remain. If no line satisfies the condition, all of
them are given back. -/
theorem seek_spec {σ : Type} (ask : σ → Line → Verdict σ) (state : σ) (passed : List Line)
    (reader : LineReader) :
    ∃ behind : LineReader,
      behind.remaining = (Line.seek ask state passed reader.remaining).2.2 ∧
        behind.stop = reader.stop ∧
        ((∃ unit, (Line.seek ask state passed reader.remaining).1 = some unit ∧
            reader.seek ask state passed =
              (.ok unit, (Line.seek ask state passed reader.remaining).2.1, behind)) ∨
          (Line.seek ask state passed reader.remaining).1 = none ∧
            reader.seek ask state passed =
              (.error (.endOfInput reader.stop),
                (Line.seek ask state passed reader.remaining).2.1, behind)) := by
  fun_induction seek ask state passed reader with
  | case1 state passed reader error hnext =>
      rcases next_spec reader with ⟨line, behind, -, -, hok⟩ | ⟨hnil, herror⟩
      · rw [hnext] at hok
        contradiction
      · rw [hnext] at herror
        rw [Except.error.inj herror, hnil]
        -- The lines passed over go back into the buffer, in front of nothing.
        refine ⟨{ reader with buffer := passed }, ?_, rfl, .inr ⟨rfl, rfl⟩⟩
        have hunread : reader.unread = [] := (List.append_eq_nil_iff.mp hnil).2
        change passed ++ reader.unread = passed
        rw [hunread, List.append_nil]
  | case2 state passed reader line behind hnext verdict seen hholds =>
      obtain ⟨hremaining, hstop⟩ := remaining_of_next hnext
      refine ⟨behind, ?_, hstop, .inl ⟨joined passed seen, ?_, ?_⟩⟩
      · simp [hremaining, Line.seek, verdict, hholds]
      · simp [hremaining, Line.seek, verdict, seen, hholds]
      · simp [hremaining, Line.seek, verdict, hholds]
  | case3 state passed reader line behind hnext verdict seen hholds ih =>
      obtain ⟨hremaining, hstop⟩ := remaining_of_next hnext
      have hseek : Line.seek ask state passed reader.remaining =
          Line.seek ask verdict.state (passed ++ [seen]) behind.remaining := by
        simp [hremaining, Line.seek, verdict, seen, hholds]
      rw [hseek, ← hstop]
      exact ih

/-- Merging all that is left leaves nothing. -/
theorem mergeRest_spec (reader : LineReader) :
    ∃ behind : LineReader, behind.remaining = [] ∧ behind.stop = reader.stop ∧
      ((∃ line following, reader.remaining = line :: following ∧
          reader.mergeRest = (.ok ((line.mergeAll following).withSkipped false), behind)) ∨
        reader.remaining = [] ∧
          reader.mergeRest = (.error (.endOfInput reader.stop), behind)) := by
  obtain ⟨hbuffer, hunread, hstop⟩ := loadMore_spec reader.cursor.rest.length reader
  -- There are no more lines than characters, so all of them are loaded.
  have hlength : reader.unread.length ≤ reader.cursor.rest.length := by
    rw [unread, Line.length_physicals]
    exact Text.length_lines_le reader.cursor.rest
  rw [List.take_of_length_le hlength] at hbuffer
  rw [List.drop_eq_nil_of_le hlength] at hunread
  rw [remaining, ← hbuffer]
  simp only [mergeRest]
  cases hloaded : (reader.loadMore reader.cursor.rest.length).buffer with
  | nil =>
      refine ⟨reader.loadMore reader.cursor.rest.length, ?_, hstop, .inr ⟨rfl, ?_⟩⟩
      · rw [remaining, hloaded, hunread, List.append_nil]
      · rw [← hstop, ← position_eq_stop hunread]
        rfl
  | cons line following =>
      refine ⟨{ reader.loadMore reader.cursor.rest.length with buffer := [] }, hunread, hstop,
        .inl ⟨line, following, rfl, rfl⟩⟩

end Read

end LineReader

end BlockLexer
