import BlockLexer.Proofs.Line.Run

/-! # Lines tile the source

The lines that a reader hands out are the source cut into pieces, whatever is asked of the reader
and in whatever order, and each line knows the place of its piece in bytes and in characters. Main
statement: the lines of a run and those still left behind it tile the text that was unread when the
run began, and no merge of the run joins lines that are not next to each other.
-/

namespace BlockLexer

namespace Line

/-- The line holds the piece of a source behind `before` and knows the place of this piece. -/
structure StandsBehind (before : Text) (line : Line) : Prop where
  text_ne_nil : line.text ≠ []
  offset_eq : line.offset = Text.byteLength before
  stopOffset_eq : line.stopOffset = Text.byteLength (before ++ line.text)
  start_eq : line.start = Position.start.after before
  final_eq : line.final = Position.start.after (before ++ line.text.dropLast)
  span_eq : line.span = line.text.count '\n' + if line.text.getLast? = some '\n' then 0 else 1

/-- The lines are the text `rest` cut into pieces at line ends, and `before` stands in front of it.
-/
inductive Tiles : Text → List Line → Text → Prop
  | nil {before : Text} : Tiles before [] []
  | cons {before rest : Text} {line : Line} {following : List Line} :
      line.StandsBehind before → (rest ≠ [] → Text.IsWholeLines line.text) →
        Tiles (before ++ line.text) following rest →
          Tiles before (line :: following) (line.text ++ rest)

/-- The byte ranges of the lines are not empty and follow each other from `first` to `last`. -/
def IsContiguous : Nat → List Line → Nat → Prop
  | first, [], last => first = last
  | first, line :: following, last =>
      line.offset = first ∧ line.offset < line.stopOffset ∧
        IsContiguous line.stopOffset following last

/-- Where `following` are merged to `line` one after the other, each begins at the byte at which
what has been merged so far ends. -/
def MergesAdjacent : Line → List Line → Prop
  | _, [] => True
  | line, next :: following =>
      line.stopOffset = next.offset ∧ MergesAdjacent (line.merge next) following

/-- The lines `taken` become `unit` by merging adjacent lines. -/
def MergesInto (taken : List Line) (unit : Line) : Prop :=
  ∃ line following, List.Forall₂ UpToCache taken (line :: following) ∧
    line.MergesAdjacent following ∧
      (unit = line.mergeAll following ∨ unit = (line.mergeAll following).withSkipped false)

section Place

variable {before : Text} {line later next : Line}

theorem StandsBehind.congr (hstands : line.StandsBehind before) (hlater : UpToCache line later) :
    later.StandsBehind before := by
  rcases hlater with rfl | rfl
  · exact hstands
  · exact ⟨hstands.text_ne_nil, hstands.offset_eq, hstands.stopOffset_eq, hstands.start_eq,
      hstands.final_eq, hstands.span_eq⟩

theorem StandsBehind.withSkipped (hstands : line.StandsBehind before) (skipped : Bool) :
    (line.withSkipped skipped).StandsBehind before :=
  ⟨hstands.text_ne_nil, hstands.offset_eq, hstands.stopOffset_eq, hstands.start_eq,
    hstands.final_eq, hstands.span_eq⟩

theorem StandsBehind.offset_lt (hstands : line.StandsBehind before) :
    line.offset < line.stopOffset := by
  obtain ⟨c, rest, htext⟩ := List.exists_cons_of_ne_nil hstands.text_ne_nil
  have hpositive := c.utf8Size_pos
  rw [hstands.offset_eq, hstands.stopOffset_eq, Text.byteLength_append, htext, Text.byteLength]
  omega

/-- A whole line and the line behind it are one line at the place of the first. -/
theorem StandsBehind.merge (hstands : line.StandsBehind before)
    (hwhole : Text.IsWholeLines line.text) (hnext : next.StandsBehind (before ++ line.text)) :
    (line.merge next).StandsBehind before where
  text_ne_nil := List.append_ne_nil_of_left_ne_nil hstands.text_ne_nil next.text
  offset_eq := hstands.offset_eq
  stopOffset_eq := by
    rw [Line.merge, hnext.stopOffset_eq, List.append_assoc]
  start_eq := hstands.start_eq
  final_eq := by
    rw [Line.merge, hnext.final_eq, List.dropLast_append_of_ne_nil hnext.text_ne_nil,
      List.append_assoc]
  span_eq := by
    obtain ⟨front, htext⟩ := hwhole.exists_concat hstands.text_ne_nil
    have hlast : (line.text ++ next.text).getLast? = next.text.getLast? := by
      rw [List.getLast?_append, List.getLast?_eq_some_getLast hnext.text_ne_nil]
      rfl
    have hspan : line.span = line.text.count '\n' := by
      rw [hstands.span_eq, htext, List.getLast?_concat, if_pos rfl, Nat.add_zero]
    rw [Line.merge, hspan, hnext.span_eq, hlast, List.count_append, Nat.add_assoc]

theorem standsBehind_physical {rest text : Text} (htext : text ∈ Text.lines rest)
    (settings : Settings) (opened : Option OpenBlock) (before : Text) :
    (physical settings opened (Position.start.after before) (Text.byteLength before)
      text).StandsBehind before where
  text_ne_nil := Text.ne_nil_of_mem_lines htext
  offset_eq := rfl
  stopOffset_eq := (Text.byteLength_append before text).symm
  start_eq := rfl
  final_eq := (Position.after_append Position.start before text.dropLast).symm
  span_eq := by
    obtain ⟨front, c, rfl⟩ := (List.eq_nil_or_concat text).resolve_left
      (Text.ne_nil_of_mem_lines htext)
    have hline := Text.newline_notMem_dropLast htext
    rw [List.concat_eq_append] at hline ⊢
    rw [List.dropLast_concat] at hline
    rw [span_physical, text_physical, List.getLast?_concat, List.count_append,
      List.count_eq_zero_of_not_mem hline, List.count_singleton]
    by_cases hc : c = '\n'
    · simp [hc]
    · simp [hc]

end Place

namespace Tiles

variable {before rest piece more : Text} {lines laters front following : List Line} {line : Line}

/-- That tokens were asked for moves no line. -/
theorem congr (htiles : Tiles before lines rest) (hlaters : List.Forall₂ UpToCache lines laters) :
    Tiles before laters rest := by
  induction htiles generalizing laters with
  | nil =>
      cases hlaters
      exact .nil
  | cons hstands hwhole _ ih =>
      cases hlaters with
      | cons hfirst hothers =>
          have hplace := hstands.congr hfirst
          rcases hfirst with rfl | rfl
          · exact .cons hplace hwhole (ih hothers)
          · exact .cons hplace hwhole (ih hothers)

theorem append (hfront : Tiles before front piece) (hwhole : more ≠ [] → Text.IsWholeLines piece)
    (hlines : Tiles (before ++ piece) lines more) :
    Tiles before (front ++ lines) (piece ++ more) := by
  induction hfront with
  | nil => rwa [List.append_nil] at hlines
  | @cons before rest line following hstands hline _ ih =>
      rw [List.append_assoc]
      rw [← List.append_assoc] at hlines
      refine .cons hstands ?_ (ih (fun hmore => (hwhole hmore).of_append) hlines)
      intro hne
      by_cases hrest : rest = []
      · rw [hrest, List.nil_append] at hne
        have hpiece := hwhole hne
        rwa [hrest, List.append_nil] at hpiece
      · exact hline hrest

/-- Wherever the lines are divided, the text is divided at a line end. -/
theorem of_append (htiles : Tiles before (front ++ lines) rest) :
    ∃ piece more, rest = piece ++ more ∧ (more ≠ [] → Text.IsWholeLines piece) ∧
      Tiles before front piece ∧ Tiles (before ++ piece) lines more := by
  induction front generalizing before rest with
  | nil =>
      refine ⟨[], rest, rfl, fun _ => Text.isWholeLines_nil, .nil, ?_⟩
      rwa [List.append_nil]
  | cons line front ih =>
      cases htiles with
      | cons hstands hline hothers =>
          obtain ⟨piece, more, rfl, hwhole, hfront, hlines⟩ := ih hothers
          refine ⟨line.text ++ piece, more, (List.append_assoc _ _ _).symm, ?_, ?_, ?_⟩
          · intro hmore
            exact (hline (List.append_ne_nil_of_right_ne_nil piece hmore)).append (hwhole hmore)
          · refine .cons hstands ?_ hfront
            intro hpiece
            exact hline (List.append_ne_nil_of_left_ne_nil hpiece more)
          · rwa [← List.append_assoc]

theorem flatten_eq (htiles : Tiles before lines rest) : (lines.map text).flatten = rest := by
  induction htiles with
  | nil => rfl
  | cons _ _ _ ih => rw [List.map_cons, List.flatten_cons, ih]

/-- Each line stands behind the lines in front of it, and it is whole or the last of the text. -/
theorem standsBehind (htiles : Tiles before (front ++ line :: following) rest) :
    line.StandsBehind (before ++ (front.map text).flatten) ∧
      (line.text.getLast? = some '\n' ∨ line.stopOffset = Text.byteLength (before ++ rest)) := by
  obtain ⟨piece, more, rfl, -, hfront, hbehind⟩ := htiles.of_append
  rw [hfront.flatten_eq]
  cases hbehind with
  | @cons _ rest _ _ hstands hwhole _ =>
      refine ⟨hstands, ?_⟩
      by_cases hrest : rest = []
      · right
        rw [hstands.stopOffset_eq, hrest, List.append_nil, List.append_assoc]
      · left
        obtain ⟨inner, htext⟩ := (hwhole hrest).exists_concat hstands.text_ne_nil
        rw [htext, List.getLast?_concat]

theorem isContiguous (htiles : Tiles before lines rest) :
    IsContiguous (Text.byteLength before) lines (Text.byteLength (before ++ rest)) := by
  induction htiles with
  | nil => exact congrArg Text.byteLength (List.append_nil _).symm
  | cons hstands _ _ ih =>
      refine ⟨hstands.offset_eq, hstands.offset_lt, ?_⟩
      rwa [hstands.stopOffset_eq, ← List.append_assoc]

/-- Lines that tile a text merge to one line that does, and only adjacent lines are joined. -/
theorem mergeAll (htiles : Tiles before (line :: following) rest) :
    Tiles before [line.mergeAll following] rest ∧ line.MergesAdjacent following := by
  induction following generalizing line rest with
  | nil => exact ⟨htiles, trivial⟩
  | cons next following ih =>
      cases htiles with
      | cons hstands hline hothers =>
          cases hothers with
          | @cons _ rest _ _ hnext hnextLine hfollowing =>
              have hwhole := hline (List.append_ne_nil_of_left_ne_nil hnext.text_ne_nil rest)
              have hjoined : Tiles before (line.merge next :: following)
                  ((line.text ++ next.text) ++ rest) := by
                rw [List.append_assoc] at hfollowing
                exact .cons (hstands.merge hwhole hnext)
                  (fun hrest => hwhole.append (hnextLine hrest)) hfollowing
              rw [List.append_assoc] at hjoined
              obtain ⟨hmerged, hadjacent⟩ := ih hjoined
              exact ⟨hmerged, hstands.stopOffset_eq.trans hnext.offset_eq.symm, hadjacent⟩

theorem withSkipped (htiles : Tiles before [line] rest) (skipped : Bool) :
    Tiles before [line.withSkipped skipped] rest := by
  cases htiles with
  | cons hstands hline hothers => exact .cons (hstands.withSkipped skipped) hline hothers

/-- Adjacent lines that are merged into a unit are replaced by it. -/
theorem of_mergeAll {taken : List Line} {unit : Line} (htiles : Tiles before taken rest)
    (htaken : List.Forall₂ UpToCache taken (line :: following))
    (hunit : unit = line.mergeAll following ∨ unit = (line.mergeAll following).withSkipped false) :
    Tiles before [unit] rest ∧ MergesInto taken unit := by
  obtain ⟨hmerged, hadjacent⟩ := (htiles.congr htaken).mergeAll
  refine ⟨?_, line, following, htaken, hadjacent, hunit⟩
  rcases hunit with rfl | rfl
  · exact hmerged
  · exact hmerged.withSkipped false

end Tiles

/-- The physical lines of a text tile it, whatever block is open in front of it. -/
theorem tiles_physicals {texts : List Text} (hlines : Text.lines texts.flatten = texts)
    (settings : Settings) (opened : Option OpenBlock) (before : Text) :
    Tiles before (physicals settings opened (Position.start.after before)
      (Text.byteLength before) texts) texts.flatten := by
  induction texts generalizing opened before with
  | nil => exact .nil
  | cons text following ih =>
      have hsplit : Text.lines (text :: following).flatten = [text] ++ following := hlines
      obtain ⟨-, hfollowing, hwhole⟩ := Text.lines_flatten_of_append hsplit
      have hmem : text ∈ Text.lines (text :: following).flatten := by
        rw [hlines]
        exact List.mem_cons_self
      have hothers := ih hfollowing (OpenBlock.afterLine opened text) (before ++ text)
      rw [Position.after_append, Text.byteLength_append] at hothers
      refine .cons (standsBehind_physical hmem settings opened before) ?_ hothers
      intro hne
      rw [List.flatten_singleton] at hwhole
      apply hwhole
      rintro rfl
      exact hne rfl

theorem exists_mergeAll_eq_joined (passed : List Line) (line : Line) :
    ∃ first following, passed ++ [line] = first :: following ∧
      LineReader.joined passed line = first.mergeAll following := by
  cases passed with
  | nil => exact ⟨line, [], rfl, rfl⟩
  | cons first following => exact ⟨first, following ++ [line], rfl, rfl⟩

end Line

namespace LineReader

variable {before rest : Text} {reader : LineReader} {operation : Operation} {unit : Line}

/-- What an operation hands out are the first of the lines that remain, merged one after the other.
-/
theorem exists_mergeAll_of_apply (htake : (reader.apply operation).1 = some unit) :
    ∃ taken kept line following, reader.remaining = taken ++ kept ∧
      List.Forall₂ Line.UpToCache kept (reader.apply operation).2.remaining ∧
      List.Forall₂ Line.UpToCache taken (line :: following) ∧
      (unit = line.mergeAll following ∨ unit = (line.mergeAll following).withSkipped false) := by
  cases operation with
  | next | next? =>
      rcases reader.next_spec with ⟨line, behind, hremaining, -, hnext⟩ | ⟨-, hnext⟩
      · rw [apply, next?_of_next_ok hnext] at htake ⊢
        obtain rfl := Option.some.inj htake
        exact ⟨[line], behind.remaining, line, [], hremaining, Line.UpToCache.refl_all _,
          Line.UpToCache.refl_all _, .inl rfl⟩
      · rw [apply, next?_of_next_error hnext] at htake
        contradiction
  | peek shift => contradiction
  | peekTokens shift => contradiction
  | mergeUntil ask state =>
      obtain ⟨behind, hbehind, -, houtcome⟩ := reader.seek_spec ask state []
      rcases Line.seek_cases ask state [] reader.remaining with
        ⟨passed, line, following, kept, seen, hsplit, -, -, hkept, hseen, hseek⟩ |
          ⟨-, kept, -, hseek⟩
      · rw [hseek] at hbehind houtcome
        rcases houtcome with ⟨found, hfound, hmerge⟩ | ⟨⟨⟩, -⟩
        rw [apply, mergeUntil, hmerge] at htake ⊢
        obtain rfl := Option.some.inj htake
        obtain ⟨first, others, hjoined, hunit⟩ := Line.exists_mergeAll_eq_joined kept seen
        refine ⟨passed ++ [line], following, first, others, ?_, ?_, ?_, .inl ?_⟩
        · rw [hsplit, List.append_assoc]
          rfl
        · rw [hbehind]
          exact Line.UpToCache.refl_all following
        · rw [← hjoined]
          exact List.rel_append hkept (.cons hseen .nil)
        · rw [← hunit]
          exact (Option.some.inj hfound).symm
      · rw [hseek] at houtcome
        rcases houtcome with ⟨found, ⟨⟩, -⟩ | ⟨-, hmerge⟩
        rw [apply, mergeUntil, hmerge] at htake
        contradiction
  | mergeRest =>
      obtain ⟨behind, hbehind, -, ⟨line, following, hcons, hmerge⟩ | ⟨-, hmerge⟩⟩ :=
        reader.mergeRest_spec
      · rw [apply, hmerge] at htake ⊢
        obtain rfl := Option.some.inj htake
        refine ⟨line :: following, [], line, following, ?_, ?_, Line.UpToCache.refl_all _,
          .inr rfl⟩
        · rw [hcons, List.append_nil]
        · rw [hbehind]
          exact .nil
      · rw [apply, hmerge] at htake
        contradiction

/-- An operation merges lines that are next to each other, and the unit stands in their place. -/
theorem tiles_of_apply (htiles : Line.Tiles before reader.remaining rest)
    (htake : (reader.apply operation).1 = some unit) :
    Line.Tiles before (unit :: (reader.apply operation).2.remaining) rest ∧
      ∃ taken kept, reader.remaining = taken ++ kept ∧
        List.Forall₂ Line.UpToCache kept (reader.apply operation).2.remaining ∧
        Line.MergesInto taken unit := by
  obtain ⟨taken, kept, line, following, hsplit, hkept, htaken, hunit⟩ :=
    exists_mergeAll_of_apply htake
  rw [hsplit] at htiles
  obtain ⟨piece, more, rfl, hwhole, hfront, hbehind⟩ := htiles.of_append
  obtain ⟨hplaced, hmerges⟩ := hfront.of_mergeAll htaken hunit
  exact ⟨hplaced.append hwhole (hbehind.congr hkept), taken, kept, hsplit, hkept, hmerges⟩

theorem tiles_apply (htiles : Line.Tiles before reader.remaining rest) (operation : Operation) :
    Line.Tiles before
      ((reader.apply operation).1.toList ++ (reader.apply operation).2.remaining) rest := by
  cases htake : (reader.apply operation).1 with
  | some unit => exact (tiles_of_apply htiles htake).1
  | none =>
      obtain ⟨taken, kept, hsplit, hkept, -, ⟨-, rfl⟩ | ⟨unit, hunit, -⟩⟩ :=
        reader.apply_spec operation
      · rw [hsplit] at htiles
        exact htiles.congr hkept
      · rw [htake] at hunit
        contradiction

/-- The lines handed out in a run and those that remain behind it tile what there was to read. -/
theorem tiles_run (htiles : Line.Tiles before reader.remaining rest)
    (operations : List Operation) :
    Line.Tiles before ((reader.run operations).1 ++ (reader.run operations).2.remaining) rest := by
  induction operations generalizing before rest reader with
  | nil => exact htiles
  | cons operation following ih =>
      obtain ⟨piece, more, rfl, hwhole, hunit, hremaining⟩ :=
        (tiles_apply htiles operation).of_append
      rw [run, List.append_assoc]
      exact hunit.append hwhole (ih hremaining)

theorem tiles_ofCursor (settings : Settings) (source : Text) (count : Nat) :
    Line.Tiles (source.take count)
      (ofCursor settings ((Cursor.ofText source).skip count)).remaining (source.drop count) := by
  have htiles := Line.tiles_physicals
    (congrArg Text.lines (Text.flatten_lines (source.drop count))) settings none (source.take count)
  rw [Text.flatten_lines] at htiles
  rw [remaining, unread, ofCursor, Cursor.position_skip, Cursor.offset_skip, Cursor.rest_skip,
    Cursor.ofText, Nat.zero_add]
  exact htiles

/-- Whatever is done with the lines behind a cursor, the lines handed out and those left in the end
are the unread text cut into pieces. Each knows its place in the source, in bytes and in
characters, and how many lines it spans. Only adjacent lines are ever merged. -/
theorem run_tiles_source (settings : Settings) (source : Text) (count : Nat)
    (operations : List Operation) :
    let cursor := (Cursor.ofText source).skip count
    let behind := ((ofCursor settings cursor).run operations).2
    let lines := ((ofCursor settings cursor).run operations).1 ++ behind.takeRest.1
    (lines.map Line.text).flatten = source.drop count ∧
      (∀ front line following, lines = front ++ line :: following →
        line.StandsBehind (source.take count ++ (front.map Line.text).flatten) ∧
          (line.text.getLast? = some '\n' ∨ line.stopOffset = Text.byteLength source)) ∧
      Line.IsContiguous cursor.offset lines (Text.byteLength source) ∧
      ∀ operation unit, (behind.apply operation).1 = some unit →
        ∃ taken kept, behind.remaining = taken ++ kept ∧
          List.Forall₂ Line.UpToCache kept (behind.apply operation).2.remaining ∧
          Line.MergesInto taken unit := by
  intro cursor behind lines
  have hrun := tiles_run (tiles_ofCursor settings source count) operations
  have hlines : lines = ((ofCursor settings cursor).run operations).1 ++ behind.remaining :=
    congrArg _ (takeRest_spec behind)
  refine ⟨?_, ?_, ?_, ?_⟩
  · rw [hlines]
    exact hrun.flatten_eq
  · intro front line following hsplit
    rw [← hlines, hsplit] at hrun
    have hstands := hrun.standsBehind
    rwa [List.take_append_drop] at hstands
  · have hcontiguous := hrun.isContiguous
    rw [List.take_append_drop, ← hlines] at hcontiguous
    have hoffset : cursor.offset = Text.byteLength (source.take count) :=
      ((Cursor.ofText source).offset_skip count).trans (Nat.zero_add _)
    rwa [hoffset]
  · intro operation unit htake
    obtain ⟨piece, more, -, -, -, hremaining⟩ := hrun.of_append
    exact (tiles_of_apply hremaining htake).2

/-- Behind a character of two bytes, a line that opens a block and, on the last line, its end. -/
theorem exists_tiles_behind_wide_character :
    let source : Text := ['é', '\x60', '\n', '\x60', 'c']
    let reader := (ofCursor {} ((Cursor.ofText source).skip 1)).run [.peek 1]
    ∃ first second unit taken kept,
      reader.1 ++ reader.2.takeRest.1 = [first, second] ∧
        first.StandsBehind ['é'] ∧ second.StandsBehind ['é', '\x60', '\n'] ∧
        second.offset = 4 ∧ second.start = ⟨2, 0⟩ ∧
        (second.text.getLast? = some '\n' ∨ second.stopOffset = Text.byteLength source) ∧
        (reader.2.apply .mergeRest).1 = some unit ∧ unit.span = 2 ∧
        reader.2.remaining = taken ++ kept ∧ Line.MergesInto taken unit := by
  intro source reader
  let first := Line.physical {} none ⟨1, 1⟩ 2 ['\x60', '\n']
  let second := Line.physical {} (OpenBlock.afterLine none ['\x60', '\n']) ⟨2, 0⟩ 4 ['\x60', 'c']
  have hlines : reader.1 ++ reader.2.takeRest.1 = [first, second] :=
    congrArg (reader.1 ++ ·) (takeRest_spec reader.2)
  have hmerge : (reader.2.apply .mergeRest).1 = some ((first.merge second).withSkipped false) := rfl
  obtain ⟨-, hplaces, -, hadjacent⟩ := run_tiles_source {} source 1 [.peek 1]
  obtain ⟨hfirst, -⟩ := hplaces [] first [second] hlines
  obtain ⟨hsecond, hend⟩ := hplaces [first] second [] hlines
  obtain ⟨taken, kept, hsplit, -, hmerges⟩ := hadjacent .mergeRest _ hmerge
  exact ⟨first, second, _, taken, kept, hlines, hfirst, hsecond, rfl, rfl, hend, hmerge, rfl,
    hsplit, hmerges⟩

end LineReader

end BlockLexer
