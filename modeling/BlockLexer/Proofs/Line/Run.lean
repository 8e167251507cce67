import BlockLexer.Proofs.Line.Merge

/-! # Any run of a line reader

A run is any sequence of operations on a line reader: taking a line, looking ahead, and merging
lines up to one that satisfies a condition, whether there is one or not. Main statement: at every
point of a run each operation answers from the lines that remain as from a plain list, and these
are the physical lines of the source behind those taken off so far.
-/

namespace BlockLexer.LineReader

/-- What can be done with a line reader. -/
inductive Operation : Type 1 where
  | next
  | next?
  | peek (shift : Nat)
  | peekTokens (shift : Nat)
  | mergeUntil {σ : Type} (ask : σ → Line → Verdict σ) (state : σ)
  | mergeRest

/-- The line that an operation takes off, if it takes one, and the reader behind it. -/
def apply (reader : LineReader) : Operation → Option Line × LineReader
  | .next | .next? => reader.next?
  | .peek shift => (none, (reader.peek shift).2)
  | .peekTokens shift => (none, (reader.peekTokens shift).2)
  | .mergeUntil ask state =>
      ((reader.mergeUntil ask state).1.toOption, (reader.mergeUntil ask state).2.2)
  | .mergeRest => (reader.mergeRest.1.toOption, reader.mergeRest.2)

/-- The lines that operations take off one after the other, and the reader behind them. -/
def run (reader : LineReader) : List Operation → List Line × LineReader
  | [] => ([], reader)
  | operation :: following =>
      ((reader.apply operation).1.toList ++ ((reader.apply operation).2.run following).1,
        ((reader.apply operation).2.run following).2)

/-- `behind` still has all the lines of `reader`, at the same place. -/
structure SameLines (reader behind : LineReader) : Prop where
  remaining_eq : List.Forall₂ Line.UpToCache reader.remaining behind.remaining
  position_eq : behind.position = reader.position
  atEnd_eq : behind.atEnd = reader.atEnd

/-- Every operation does to the reader what it does to the plain list of the lines that remain. -/
structure ReadsAsList (reader : LineReader) : Prop where
  atEnd_iff : reader.atEnd ↔ reader.remaining = []
  position_eq : reader.position = (reader.remaining.head?.map Line.start).getD reader.stop
  next_of_nil : reader.remaining = [] →
    reader.next = .error (.endOfInput reader.stop) ∧ reader.next? = (none, reader)
  next_of_cons : ∀ line following, reader.remaining = line :: following →
    ∃ behind, reader.next = .ok (line, behind) ∧ reader.next? = (some line, behind) ∧
      behind.remaining = following
  peek : ∀ shift, ∃ loaded,
    reader.peek shift =
      ((reader.remaining[shift]?).elim (.error (.endOfInput reader.stop)) .ok, loaded) ∧
      loaded.remaining = reader.remaining ∧ reader.SameLines loaded
  peekTokens : ∀ shift, ∃ loaded,
    reader.peekTokens shift =
      ((reader.remaining[shift]?).elim (.error (.endOfInput reader.stop))
        fun line => line.tokens.mapError .lexical, loaded) ∧
      reader.SameLines loaded
  mergeUntil : ∀ {σ : Type} (ask : σ → Line → Verdict σ) (state : σ),
    (∃ passed line following unit behind, reader.remaining = passed ++ line :: following ∧
        Line.NoneHolds ask state passed ∧ (ask (Line.stateAfter ask state passed) line).holds ∧
        reader.mergeUntil ask state =
          (.ok unit, Line.stateAfter ask state (passed ++ [line]), behind) ∧
        behind.remaining = following ∧ unit.IsMerge (passed ++ [line]) ∧ unit.IsSound) ∨
      Line.NoneHolds ask state reader.remaining ∧ ∃ behind,
        reader.mergeUntil ask state =
          (.error (.endOfInput reader.stop), Line.stateAfter ask state reader.remaining, behind) ∧
        reader.SameLines behind
  mergeRest_of_nil : reader.remaining = [] → ∃ behind,
    reader.mergeRest = (.error (.endOfInput reader.stop), behind) ∧ reader.SameLines behind
  mergeRest_of_ne_nil : reader.remaining ≠ [] → ∃ unit behind,
    reader.mergeRest = (.ok unit, behind) ∧ behind.remaining = [] ∧
      unit.IsMerge reader.remaining ∧ unit.skipped = false

section Operations

variable {reader behind : LineReader}

theorem sameLines_of_remaining (hstop : behind.stop = reader.stop)
    (hremaining : List.Forall₂ Line.UpToCache reader.remaining behind.remaining) :
    reader.SameLines behind where
  remaining_eq := hremaining
  position_eq := by
    rw [position_eq, position_eq, hstop, ← List.head?_map, ← List.head?_map,
      Line.UpToCache.map_congr hremaining fun _ => rfl]
  atEnd_eq := by
    have hlength := hremaining.length_eq
    rw [Bool.eq_iff_iff, atEnd_iff, atEnd_iff, ← List.length_eq_zero_iff,
      ← List.length_eq_zero_iff, hlength]

theorem next?_of_next_ok {line : Line} (hnext : reader.next = .ok (line, behind)) :
    reader.next? = (some line, behind) := by
  rw [next?, hnext]

theorem next?_of_next_error {error : ReadError} (hnext : reader.next = .error error) :
    reader.next? = (none, reader) := by
  rw [next?, hnext]

theorem upToCache_set {lines : List Line} {shift : Nat} {line : Line}
    (hline : lines[shift]? = some line) :
    List.Forall₂ Line.UpToCache lines (lines.set shift line.tokenized) := by
  induction lines generalizing shift with
  | nil => simp at hline
  | cons first following ih =>
      cases shift with
      | zero =>
          obtain rfl := Option.some.inj hline
          exact .cons (.inr rfl) (Line.UpToCache.refl_all following)
      | succ shift => exact .cons (.inl rfl) (ih hline)

/-- Asking for the tokens of a line ahead changes the cache of this line alone. -/
theorem peekTokens_spec (reader : LineReader) (shift : Nat) :
    ∃ loaded : LineReader, List.Forall₂ Line.UpToCache reader.remaining loaded.remaining ∧
      loaded.stop = reader.stop ∧
      reader.peekTokens shift =
        ((reader.remaining[shift]?).elim (.error (.endOfInput reader.stop))
          fun line => line.tokens.mapError .lexical, loaded) := by
  obtain ⟨loaded, hremaining, hstop, ⟨line, hline, hpeek⟩ | ⟨hnone, hpeek⟩⟩ :=
    reader.peek_spec shift
  · have hbuffer : loaded.buffer[shift]? = some line := by
      rw [← hline, ← getElem?_buffer_load (Nat.lt_succ_self shift) reader]
      have hloaded := congrArg Prod.snd hpeek
      simp only [LineReader.peek] at hloaded
      split at hloaded <;> rw [← hloaded]
    refine ⟨{ loaded with buffer := loaded.buffer.set shift line.tokenized }, ?_, hstop, ?_⟩
    · rw [← hremaining]
      exact List.rel_append (upToCache_set hbuffer) (Line.UpToCache.refl_all loaded.unread)
    · rw [LineReader.peekTokens, hpeek, hline]
      rfl
  · refine ⟨loaded, ?_, hstop, ?_⟩
    · rw [hremaining]
      exact Line.UpToCache.refl_all _
    · rw [LineReader.peekTokens, hpeek, hnone]
      rfl

/-- A merge takes the lines up to the first that satisfies the condition, or none at all. -/
theorem mergeUntil_spec {σ : Type} (ask : σ → Line → Verdict σ) (state : σ) (reader : LineReader) :
    (∃ passed line following unit behind, reader.remaining = passed ++ line :: following ∧
        Line.NoneHolds ask state passed ∧ (ask (Line.stateAfter ask state passed) line).holds ∧
        reader.mergeUntil ask state =
          (.ok unit, Line.stateAfter ask state (passed ++ [line]), behind) ∧
        behind.remaining = following ∧ behind.stop = reader.stop ∧
        unit.IsMerge (passed ++ [line]) ∧ (line.IsSound → unit.IsSound)) ∨
      Line.NoneHolds ask state reader.remaining ∧ ∃ behind,
        reader.mergeUntil ask state =
          (.error (.endOfInput reader.stop), Line.stateAfter ask state reader.remaining, behind) ∧
        List.Forall₂ Line.UpToCache reader.remaining behind.remaining ∧
        behind.stop = reader.stop := by
  obtain ⟨behind, hbehind, hstop, houtcome⟩ := reader.seek_spec ask state []
  rcases Line.seek_cases ask state [] reader.remaining with
    ⟨passed, line, following, kept, seen, hsplit, hnone, hholds, hkept, hseen, hseek⟩ |
      ⟨hnone, kept, hkept, hseek⟩
  · rw [hseek] at hbehind houtcome
    rcases houtcome with ⟨unit, hunit, hmerge⟩ | ⟨⟨⟩, -⟩
    rw [List.nil_append] at hunit
    refine .inl ⟨passed, line, following, unit, behind, hsplit, hnone, hholds, hmerge, hbehind,
      hstop, ?_, ?_⟩
    · rw [← Option.some.inj hunit]
      exact (Line.isMerge_joined kept seen).of_upToCache
        (List.rel_append hkept (.cons hseen .nil))
    · intro hsound
      rw [← Option.some.inj hunit]
      exact Line.isSound_joined (hseen.isSound hsound)
  · rw [hseek] at hbehind houtcome
    rcases houtcome with ⟨unit, ⟨⟩, -⟩ | ⟨-, hmerge⟩
    rw [List.nil_append] at hbehind
    refine .inr ⟨hnone, behind, hmerge, ?_, hstop⟩
    rw [hbehind]
    exact hkept

/-- If the lines that remain are as they were cut off the source, the reader is a list of them. -/
theorem readsAsList_of_isSound (hsound : ∀ line ∈ reader.remaining, line.IsSound) :
    reader.ReadsAsList where
  atEnd_iff := atEnd_iff
  position_eq := position_eq reader
  next_of_nil hnil := by
    rcases reader.next_spec with ⟨line, behind, hremaining, -⟩ | ⟨-, hnext⟩
    · rw [hnil] at hremaining
      contradiction
    · exact ⟨hnext, next?_of_next_error hnext⟩
  next_of_cons line following hcons := by
    rcases reader.next_spec with ⟨first, behind, hremaining, -, hnext⟩ | ⟨hnil, -⟩
    · obtain ⟨rfl, rfl⟩ := List.cons.inj (hcons.symm.trans hremaining)
      exact ⟨behind, hnext, next?_of_next_ok hnext, rfl⟩
    · rw [hnil] at hcons
      contradiction
  peek shift := by
    obtain ⟨loaded, hremaining, hstop, hanswer⟩ := reader.peek_spec shift
    refine ⟨loaded, ?_, hremaining, sameLines_of_remaining hstop ?_⟩
    · rcases hanswer with ⟨line, hline, hpeek⟩ | ⟨hnone, hpeek⟩
      · rw [hpeek, hline]
        rfl
      · rw [hpeek, hnone]
        rfl
    · rw [hremaining]
      exact Line.UpToCache.refl_all _
  peekTokens shift := by
    obtain ⟨loaded, hremaining, hstop, htokens⟩ := reader.peekTokens_spec shift
    exact ⟨loaded, htokens, sameLines_of_remaining hstop hremaining⟩
  mergeUntil ask state := by
    rcases reader.mergeUntil_spec ask state with
      ⟨passed, line, following, unit, behind, hsplit, hnone, hholds, hmerge, hbehind, -, hunit,
        hunitSound⟩ | ⟨hnone, behind, hmerge, hremaining, hstop⟩
    · have hline : line ∈ reader.remaining := by simp [hsplit]
      exact .inl ⟨passed, line, following, unit, behind, hsplit, hnone, hholds, hmerge, hbehind,
        hunit, hunitSound (hsound line hline)⟩
    · exact .inr ⟨hnone, behind, hmerge, sameLines_of_remaining hstop hremaining⟩
  mergeRest_of_nil hnil := by
    obtain ⟨behind, hbehind, hstop, ⟨line, following, hcons, -⟩ | ⟨-, hrest⟩⟩ :=
      reader.mergeRest_spec
    · rw [hnil] at hcons
      contradiction
    · refine ⟨behind, hrest, sameLines_of_remaining hstop ?_⟩
      rw [hbehind, hnil]
      exact .nil
  mergeRest_of_ne_nil hne := by
    obtain ⟨behind, hbehind, hstop, ⟨line, following, hcons, hrest⟩ | ⟨hnil, -⟩⟩ :=
      reader.mergeRest_spec
    · refine ⟨_, behind, hrest, hbehind, ?_, rfl⟩
      rw [hcons]
      exact (Line.isMerge_mergeAll line following).withSkipped false
    · exact absurd hnil hne

end Operations

section Run

variable {reader : LineReader}

/-- An operation takes off the lines that make up its unit, or no line at all. -/
theorem apply_spec (reader : LineReader) (operation : Operation) :
    ∃ taken kept, reader.remaining = taken ++ kept ∧
      List.Forall₂ Line.UpToCache kept (reader.apply operation).2.remaining ∧
      (reader.apply operation).2.stop = reader.stop ∧
      ((reader.apply operation).1 = none ∧ taken = [] ∨
        ∃ unit, (reader.apply operation).1 = some unit ∧ unit.IsMerge taken ∧
          ((∀ line ∈ taken, line.IsSound) →
            unit.IsSound ∨ unit.skipped = false ∧ unit.cache = none)) := by
  cases operation with
  | next | next? =>
      rcases reader.next_spec with ⟨line, behind, hremaining, hstop, hnext⟩ | ⟨hnil, hnext⟩
      · rw [apply, next?_of_next_ok hnext]
        refine ⟨[line], behind.remaining, hremaining, Line.UpToCache.refl_all _, hstop,
          .inr ⟨line, rfl, Line.isMerge_singleton line, ?_⟩⟩
        intro hsound
        exact .inl (hsound line List.mem_cons_self)
      · rw [apply, next?_of_next_error hnext]
        exact ⟨[], reader.remaining, rfl, Line.UpToCache.refl_all _, rfl, .inl ⟨rfl, rfl⟩⟩
  | peek shift =>
      obtain ⟨loaded, hremaining, hstop, hanswer⟩ := reader.peek_spec shift
      have hloaded : (reader.peek shift).2 = loaded := by
        rcases hanswer with ⟨line, -, hpeek⟩ | ⟨-, hpeek⟩ <;> rw [hpeek]
      rw [apply, hloaded]
      refine ⟨[], reader.remaining, rfl, ?_, hstop, .inl ⟨rfl, rfl⟩⟩
      rw [hremaining]
      exact Line.UpToCache.refl_all _
  | peekTokens shift =>
      obtain ⟨loaded, hremaining, hstop, htokens⟩ := reader.peekTokens_spec shift
      rw [apply, htokens]
      exact ⟨[], reader.remaining, rfl, hremaining, hstop, .inl ⟨rfl, rfl⟩⟩
  | mergeUntil ask state =>
      rcases reader.mergeUntil_spec ask state with
        ⟨passed, line, following, unit, behind, hsplit, -, -, hmerge, hbehind, hstop, hunit,
          hsound⟩ | ⟨-, behind, hmerge, hremaining, hstop⟩
      · rw [apply, hmerge]
        refine ⟨passed ++ [line], following, ?_, ?_, hstop, .inr ⟨unit, rfl, hunit, ?_⟩⟩
        · rw [hsplit, List.append_assoc]
          rfl
        · rw [hbehind]
          exact Line.UpToCache.refl_all _
        · intro htaken
          exact .inl (hsound (htaken line (by simp)))
      · rw [apply, hmerge]
        exact ⟨[], reader.remaining, rfl, hremaining, hstop, .inl ⟨rfl, rfl⟩⟩
  | mergeRest =>
      obtain ⟨behind, hbehind, hstop, ⟨line, following, hcons, hrest⟩ | ⟨hnil, hrest⟩⟩ :=
        reader.mergeRest_spec
      · rw [apply, hrest]
        refine ⟨line :: following, [], by rw [hcons, List.append_nil], ?_, hstop,
          .inr ⟨_, rfl, (Line.isMerge_mergeAll line following).withSkipped false, ?_⟩⟩
        · rw [hbehind]
          exact .nil
        · exact fun _ => .inr ⟨rfl, rfl⟩
      · rw [apply, hrest]
        refine ⟨[], [], by rw [hnil, List.nil_append], ?_, hstop, .inl ⟨rfl, rfl⟩⟩
        rw [hbehind]
        exact .nil

/-- A run takes as many lines off as the lines it hands out span. -/
theorem run_spec {lines : List Line} {reader : LineReader}
    (hlines : List.Forall₂ Line.UpToCache lines reader.remaining)
    (hspan : ∀ line ∈ lines, line.span = 1) (operations : List Operation) :
    List.Forall₂ Line.UpToCache
        (lines.drop (Line.totalSpan (reader.run operations).1))
        (reader.run operations).2.remaining ∧
      (reader.run operations).2.stop = reader.stop := by
  induction operations generalizing lines reader with
  | nil => exact ⟨hlines, rfl⟩
  | cons operation following ih =>
      obtain ⟨taken, kept, hremaining, hkept, hstop, hunit⟩ := reader.apply_spec operation
      have hones : ∀ line ∈ taken, line.span = 1 := by
        intro line hline
        have hmem : line.span ∈ lines.map Line.span := by
          rw [← Line.UpToCache.map_congr hlines fun _ => rfl, hremaining, List.map_append]
          exact List.mem_append_left _ (List.mem_map_of_mem hline)
        obtain ⟨physical, hphysical, hsame⟩ := List.mem_map.mp hmem
        rw [← hsame]
        exact hspan physical hphysical
      have hcount : Line.totalSpan (reader.apply operation).1.toList = taken.length := by
        rw [← Line.totalSpan_of_forall hones]
        rcases hunit with ⟨hnone, rfl⟩ | ⟨unit, hsome, hmerge, -⟩
        · rw [hnone]
          rfl
        · rw [hsome, ← hmerge.span_eq]
          rfl
      have hdropped : List.Forall₂ Line.UpToCache (lines.drop taken.length)
          (reader.apply operation).2.remaining := by
        have hdrop := List.forall₂_drop taken.length hlines
        rw [hremaining, List.drop_left] at hdrop
        exact Line.UpToCache.trans_all hdrop hkept
      obtain ⟨hrun, hstopRun⟩ := ih hdropped fun line hline =>
        hspan line (List.mem_of_mem_drop hline)
      rw [List.drop_drop] at hrun
      simp only [run, Line.totalSpan_append, hcount]
      exact ⟨hrun, hstopRun.trans hstop⟩

/-- Behind a run over a source the lines that remain are, up to their caches, physical lines. -/
theorem run_ofCursor (settings : Settings) (cursor : Cursor) (operations : List Operation) :
    (∀ line ∈ ((ofCursor settings cursor).run operations).2.remaining, line.IsSound) ∧
      List.Forall₂ Line.UpToCache
        ((Line.physicals settings none cursor.position cursor.offset (Text.lines cursor.rest)).drop
          (Line.totalSpan ((ofCursor settings cursor).run operations).1))
        ((ofCursor settings cursor).run operations).2.remaining ∧
      ((ofCursor settings cursor).run operations).2.stop = cursor.position.after cursor.rest := by
  have hspan := @Line.forall_mem_physicals settings none cursor.position cursor.offset
    (Text.lines cursor.rest) (fun line => line.span = 1) fun _ _ _ _ => rfl
  have hsound := @Line.forall_mem_physicals settings none cursor.position cursor.offset
    (Text.lines cursor.rest) Line.IsSound (Line.isSound_physical settings)
  obtain ⟨hremaining, hstop⟩ := run_spec
    (Line.UpToCache.refl_all (ofCursor settings cursor).remaining) hspan operations
  refine ⟨?_, hremaining, hstop⟩
  apply Line.UpToCache.isSound_all hremaining
  intro line hline
  exact hsound line (List.mem_of_mem_drop hline)

end Run

/-- Whatever has been done with the lines behind a cursor, the reader is a plain list: that of the
physical lines, with the blocks open around them as the tracker finds them from the first line on,
without those that have been taken off. -/
theorem run_reads_as_list (settings : Settings) (cursor : Cursor) (operations : List Operation) :
    ((ofCursor settings cursor).run operations).2.ReadsAsList ∧
      List.Forall₂ Line.UpToCache
        ((Line.physicals settings none cursor.position cursor.offset (Text.lines cursor.rest)).drop
          (Line.totalSpan ((ofCursor settings cursor).run operations).1))
        ((ofCursor settings cursor).run operations).2.remaining ∧
      ((ofCursor settings cursor).run operations).2.stop = cursor.position.after cursor.rest := by
  obtain ⟨hsound, hreached⟩ := run_ofCursor settings cursor operations
  exact ⟨readsAsList_of_isSound hsound, hreached⟩

end BlockLexer.LineReader
