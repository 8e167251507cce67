import BlockLexer.Proofs.Block.Spans
import BlockLexer.Proofs.Line.Run

/-! # Grouping lines

The lines of a source may be taken off in groups of any size, as long as no group ends inside of a
block. Main statement: the tokens of the groups, one group after the other, are the tokens of the
source. A line that stands outside of blocks is such a group, so its tokens are those that begin on
it.
-/

namespace BlockLexer

/-- A reader hands out `units` one after the other until nothing is left. None of them ends inside
of a block, but all that is left may be taken at once whether a block is open at its end or not. -/
inductive LineReader.Grouping : LineReader → List Line → Prop
  | done {reader : LineReader} : reader.atEnd → Grouping reader []
  | look {reader : LineReader} {operation : Operation} {units : List Line} :
      (reader.apply operation).1 = none → Grouping (reader.apply operation).2 units →
        Grouping reader units
  | take {reader : LineReader} {operation : Operation} {unit : Line} {units : List Line} :
      (reader.apply operation).1 = some unit → unit.endsInBlock = false →
        Grouping (reader.apply operation).2 units → Grouping reader (unit :: units)
  | rest {reader : LineReader} {unit : Line} :
      (reader.apply .mergeRest).1 = some unit → Grouping reader [unit]

/-- The tokens of lines one after the other, up to the first error. -/
def Line.tokensOfAll (lines : List Line) : Except LexicalError (List Token) :=
  (lines.mapM tokens).map List.flatten

namespace Line

section Physicals

variable {settings : Settings} {position : Position} {offset : Nat} {texts : List Text}
  {lines front behind : List Line} {unit : Line}

theorem tokensOfAll_cons (line : Line) (following : List Line) :
    tokensOfAll (line :: following) =
      (do
        let tokens ← line.tokens
        let others ← tokensOfAll following
        .ok (tokens ++ others)) := by
  rw [tokensOfAll, List.mapM_cons]
  cases line.tokens with
  | error error => rfl
  | ok tokens =>
      rw [tokensOfAll]
      cases following.mapM Line.tokens <;> rfl

/-- What a merge of physical lines knows about its place and its text. -/
theorem IsMerge.of_physicals
    (hmerge : IsMerge (physicals settings none position offset texts) unit) :
    unit.settings = settings ∧ unit.start = position ∧ unit.startsInBlock = false ∧
      unit.text = texts.flatten ∧
      unit.endsInBlock = (texts.foldl OpenBlock.afterLine none).isSome := by
  have hbeginning := hmerge.beginning_eq
  have hending := hmerge.ending_eq
  rw [List.head?_map, Option.map_eq_some_iff] at hbeginning
  rw [List.getLast?_map, Option.map_eq_some_iff] at hending
  obtain ⟨first, hfirst, hbeginning⟩ := hbeginning
  obtain ⟨last, hlast, hending⟩ := hending
  obtain ⟨hstarts, hstart, hsettings, -⟩ := of_head?_physicals hfirst
  simp only [beginning, ending, Prod.mk.injEq] at hbeginning hending
  refine ⟨hbeginning.1.symm.trans hsettings, hbeginning.2.1.symm.trans hstart,
    hbeginning.2.2.2.symm.trans hstarts, ?_, ?_⟩
  · rw [hmerge.text_eq, map_text_physicals]
  · rw [← hending.2.2, endsInBlock_of_getLast? hlast]

/-- A merge of physical lines has the tokens of its text, unless it is skipped. -/
theorem IsMerge.tokens_eq
    (hmerge : IsMerge (physicals settings none position offset texts) unit)
    (hunit : unit.IsSound ∧ unit.endsInBlock = false ∨ unit.skipped = false ∧ unit.cache = none) :
    unit.tokens = tokenizeAt settings position texts.flatten := by
  obtain ⟨hsettings, hstart, hstarts, htext, -⟩ := hmerge.of_physicals
  rw [← hsettings, ← hstart, ← htext]
  rcases hunit with ⟨hsound, hends⟩ | ⟨hskipped, hcache⟩
  · exact hsound.tokens_eq_of_closed hstarts hends
  · exact tokens_of_not_skipped hcache hskipped

end Physicals

end Line

namespace LineReader

variable {settings : Settings} {position : Position} {offset : Nat} {text : Text}
  {reader : LineReader} {units : List Line}

/-- The lines that remain are up to their caches the lines of `text`, which begins outside of
blocks. -/
def StandsBefore (settings : Settings) (position : Position) (offset : Nat) (text : Text)
    (reader : LineReader) : Prop :=
  List.Forall₂ Line.UpToCache (Line.physicals settings none position offset (Text.lines text))
    reader.remaining

theorem StandsBefore.isSound (hstands : StandsBefore settings position offset text reader) :
    ∀ line ∈ reader.remaining, line.IsSound :=
  Line.UpToCache.isSound_all hstands (Line.forall_mem_physicals (Line.isSound_physical settings))

/-- A unit that is taken off is a merge of the first lines of the text. -/
theorem StandsBefore.take (hstands : StandsBefore settings position offset text reader)
    {operation : Operation} {unit : Line} (htake : (reader.apply operation).1 = some unit) :
    ∃ front behind, Text.lines text = front ++ behind ∧
      unit.IsMerge (Line.physicals settings none position offset front) ∧
      (unit.IsSound ∨ unit.skipped = false ∧ unit.cache = none) ∧
      (front.foldl OpenBlock.afterLine none = none →
        StandsBefore settings (position.after front.flatten)
          (offset + Text.byteLength front.flatten) behind.flatten (reader.apply operation).2) := by
  obtain ⟨taken, kept, hsplit, hkept, -, ⟨hnone, -⟩ | ⟨found, hfound, hmerge, hunit⟩⟩ :=
    reader.apply_spec operation
  · rw [htake] at hnone
    contradiction
  · obtain rfl := Option.some.inj (htake.symm.trans hfound)
    have htaken : ∀ line ∈ taken, line.IsSound := by
      intro line hline
      apply hstands.isSound line
      rw [hsplit]
      exact List.mem_append_left kept hline
    rw [StandsBefore, hsplit] at hstands
    obtain ⟨front, behind, hlines, hfront, hbehind⟩ :=
      Line.exists_of_physicals_eq_append (List.take_append_drop taken.length _).symm
    have hmerged := List.forall₂_take_append _ taken kept hstands
    have hleft := Line.UpToCache.trans_all (List.forall₂_drop_append _ taken kept hstands) hkept
    rw [hfront] at hmerged
    rw [hbehind] at hleft
    refine ⟨front, behind, hlines, hmerge.of_upToCache hmerged, hunit htaken, ?_⟩
    intro hclosed
    rw [StandsBefore, (Text.lines_flatten_of_append hlines).2.1]
    rwa [hclosed] at hleft

/-- Groups of lines that leave no block open have the tokens of the text that is left. -/
theorem Grouping.tokensOfAll_eq (hgrouping : reader.Grouping units)
    (hstands : StandsBefore settings position offset text reader) :
    Line.tokensOfAll units = tokenizeAt settings position text := by
  induction hgrouping generalizing position offset text with
  | done hend =>
      have hlength := hstands.length_eq
      rw [atEnd_iff.mp hend, Line.length_physicals, List.length_nil,
        List.length_eq_zero_iff] at hlength
      rw [← Text.flatten_lines text, hlength, List.flatten_nil, tokenizeAt, tokenizeFrom_nil]
      rfl
  | @look reader operation units hlook _ ih =>
      obtain ⟨taken, kept, hsplit, hkept, -, ⟨-, rfl⟩ | ⟨unit, hunit, -⟩⟩ :=
        reader.apply_spec operation
      · rw [StandsBefore, hsplit, List.nil_append] at hstands
        exact ih (Line.UpToCache.trans_all hstands hkept)
      · rw [hlook] at hunit
        contradiction
  | @take reader operation unit units htake hends _ ih =>
      obtain ⟨front, behind, hlines, hmerge, hunit, hbehind⟩ := hstands.take htake
      obtain ⟨-, -, -, -, hopen⟩ := hmerge.of_physicals
      have hclosed : front.foldl OpenBlock.afterLine none = none := by
        rwa [hends, eq_comm, Option.isSome_eq_false_iff, Option.isNone_iff_eq_none] at hopen
      rw [Line.tokensOfAll_cons, hmerge.tokens_eq (hunit.imp_left fun hsound => ⟨hsound, hends⟩),
        ih (hbehind hclosed), tokenizeAt_of_lines_eq_append hlines fun _ => hclosed]
  | @rest reader unit hrest =>
      obtain ⟨behind, -, -, ⟨line, following, hcons, hmerged⟩ | ⟨-, hfailed⟩⟩ :=
        reader.mergeRest_spec
      · rw [apply, hmerged] at hrest
        rw [StandsBefore, hcons] at hstands
        have hmerge := (Line.isMerge_mergeAll line following).withSkipped false
        obtain rfl := Option.some.inj hrest
        rw [Line.tokensOfAll_cons, (hmerge.of_upToCache hstands).tokens_eq (.inr ⟨rfl, rfl⟩),
          Text.flatten_lines]
        cases tokenizeAt settings position text with
        | error error => rfl
        | ok tokens => exact congrArg Except.ok (List.append_nil tokens)
      · rw [apply, hfailed] at hrest
        contradiction

theorem standsBefore_ofText (settings : Settings) (source : Text) :
    StandsBefore settings Position.start 0 source (ofText settings source) :=
  Line.UpToCache.refl_all _

/-- A condition that holds of the line behind `count` others. -/
def counting (count : Nat) (_ : Line) : Verdict Nat :=
  ⟨count = 0, false, count - 1⟩

theorem stateAfter_counting (count : Nat) (lines : List Line) :
    Line.stateAfter counting count lines = count - lines.length := by
  induction lines generalizing count with
  | nil => rfl
  | cons line following ih =>
      apply (ih (count - 1)).trans
      rw [List.length_cons]
      omega

theorem noneHolds_counting_iff {count : Nat} {lines : List Line} :
    Line.NoneHolds counting count lines ↔ lines.length ≤ count := by
  induction lines generalizing count with
  | nil => exact iff_of_true Line.noneHolds_nil (Nat.zero_le count)
  | cons line following ih =>
      rw [Line.noneHolds_cons_iff, ih, List.length_cons]
      simp only [counting, decide_eq_false_iff_not]
      omega

/-- Any number of lines can be taken as one unit. -/
theorem exists_unit_of_append {group following : List Line} (hgroup : group ≠ [])
    (hremaining : reader.remaining = group ++ following) :
    ∃ unit, (reader.apply (.mergeUntil counting (group.length - 1))).1 = some unit ∧
      unit.IsMerge group ∧
      (reader.apply (.mergeUntil counting (group.length - 1))).2.remaining = following := by
  have hpositive := List.length_pos_iff.mpr hgroup
  rcases reader.mergeUntil_spec counting (group.length - 1) with
    ⟨passed, line, rest, unit, behind, hsplit, hnone, hholds, hmerge, hbehind, -, hunit, -⟩ |
      ⟨hnone, -⟩
  · rw [noneHolds_counting_iff] at hnone
    rw [stateAfter_counting, counting, decide_eq_true_iff] at hholds
    have hsame : group ++ following = (passed ++ [line]) ++ rest := by
      rw [← hremaining, hsplit, List.append_assoc]
      rfl
    obtain ⟨rfl, rfl⟩ := List.append_inj hsame (by
      rw [List.length_append, List.length_singleton]
      omega)
    rw [apply, hmerge]
    exact ⟨unit, rfl, hunit, hbehind⟩
  · rw [noneHolds_counting_iff, hremaining, List.length_append] at hnone
    omega

/-- The lines that remain can be taken off in any groups that leave no block open. -/
theorem exists_grouping {groups : List (List Line)} (hremaining : reader.remaining = groups.flatten)
    (hgroups : ∀ group ∈ groups, group ≠ [])
    (hclosed : ∀ group ∈ groups.dropLast, ∀ last, group.getLast? = some last →
      last.endsInBlock = false) :
    ∃ units, reader.Grouping units ∧
      List.Forall₂ (fun group unit => Line.IsMerge group unit) groups units := by
  induction groups generalizing reader with
  | nil => exact ⟨[], .done (atEnd_iff.mpr hremaining), .nil⟩
  | cons group groups ih =>
      obtain ⟨hgroup, hothers⟩ := List.forall_mem_cons.mp hgroups
      by_cases hlast : groups = []
      · rw [hlast, List.flatten_singleton] at hremaining
        obtain ⟨behind, -, -, ⟨line, following, hcons, hmerge⟩ | ⟨hnil, -⟩⟩ := reader.mergeRest_spec
        · refine ⟨[(line.mergeAll following).withSkipped false], .rest ?_, ?_⟩
          · rw [apply, hmerge]
            rfl
          · rw [hlast, ← hremaining, hcons]
            exact .cons ((Line.isMerge_mergeAll line following).withSkipped false) .nil
        · exact absurd (hremaining.symm.trans hnil) hgroup
      · rw [List.dropLast_cons_of_ne_nil hlast, List.forall_mem_cons] at hclosed
        obtain ⟨unit, htake, hmerge, hbehind⟩ := exists_unit_of_append hgroup hremaining
        obtain ⟨units, hgrouping, hunits⟩ := ih hbehind hothers hclosed.2
        refine ⟨unit :: units, .take htake ?_ hgrouping, .cons hmerge hunits⟩
        have hending := hmerge.ending_eq
        rw [List.getLast?_map, Option.map_eq_some_iff] at hending
        obtain ⟨last, hfound, hsame⟩ := hending
        rw [← hclosed.1 last hfound]
        exact (congrArg (·.2.2) hsame).symm

end LineReader

section Starts

variable {settings : Settings} {position : Position} {tokens : List Token}

/-- The tokens of a text in three parts, if the second is one line, are told apart by the lines on
which they begin. -/
theorem filter_start_line {front line behind : List Token} {number : Nat}
    (hfront : ∀ token ∈ front, token.start.line < number)
    (hline : ∀ token ∈ line, token.start.line = number)
    (hbehind : ∀ token ∈ behind, number < token.start.line) :
    (front ++ (line ++ behind)).filter (fun token => token.start.line = number) = line := by
  rw [List.filter_append, List.filter_append, List.filter_eq_nil_iff.mpr,
    List.filter_eq_self.mpr, List.filter_eq_nil_iff.mpr, List.nil_append, List.append_nil]
  · intro token htoken
    have hlater := hbehind token htoken
    simp only [decide_eq_true_eq]
    omega
  · intro token htoken
    simp [hline token htoken]
  · intro token htoken
    have hearlier := hfront token htoken
    simp only [decide_eq_true_eq]
    omega

/-- The tokens of a line that stands outside of blocks are those of the text that begin on it. -/
theorem tokenizeAt_line {text line : Text} {front behind : List Text}
    (hlines : Text.lines text = front ++ line :: behind)
    (hstarts : front.foldl OpenBlock.afterLine none = none)
    (hends : OpenBlock.afterLine none line = none)
    (htokens : tokenizeAt settings position text = .ok tokens) :
    tokenizeAt settings (position.after front.flatten) line =
      .ok (tokens.filter fun token =>
        token.start.line = (position.after front.flatten).line) := by
  obtain ⟨first, later, hfirst, hlater, rfl⟩ :=
    exists_of_tokenizeAt_lines hlines (fun _ => hstarts) htokens
  obtain ⟨-, hlater', hfrontWhole⟩ := Text.lines_flatten_of_append hlines
  have hfollowing : Text.lines (line :: behind).flatten = [line] ++ behind := hlater'
  obtain ⟨middle, last, hmiddle, hlast, rfl⟩ :=
    exists_of_tokenizeAt_lines hfollowing (fun _ => hends) hlater
  rw [List.flatten_singleton] at hmiddle hlast
  have hwhole : behind ≠ [] → Text.IsWholeLines line := by
    intro hbehind
    have hwhole := (Text.lines_flatten_of_append hfollowing).2.2 hbehind
    rwa [List.flatten_singleton] at hwhole
  have hline : line ∈ Text.lines text := by
    rw [hlines]
    exact List.mem_append_right front List.mem_cons_self
  rw [hmiddle, filter_start_line]
  · exact start_line_lt_of_isWholeLines (hfrontWhole (List.cons_ne_nil _ _)) hfirst
  · intro token htoken
    have hleast := line_le_start hmiddle token htoken
    have hmost := start_line_le_lastLine hmiddle token htoken
    rw [Position.lastLine, Position.line_after_of_notMem (Text.newline_notMem_dropLast hline)]
      at hmost
    omega
  · intro token htoken
    by_cases hbehind : behind = []
    · rw [hbehind, List.flatten_nil, tokenizeAt, tokenizeFrom_nil] at hlast
      rw [← Except.ok.inj hlast] at htoken
      contradiction
    · have hbelow := line_le_start hlast token htoken
      have hbegin := (position.after front.flatten).line_le_lastLine line
      rw [Position.line_after_of_isWholeLines (hwhole hbehind) (Text.ne_nil_of_mem_lines hline)]
        at hbelow
      omega

end Starts

/-- The lines of a source may be taken off in any groups that leave no block open at their ends, the
last group excepted. However this is done, the tokens of the groups are those of the source, or its
first error. A line outside of blocks has the tokens of the source that begin on it. -/
theorem tokensOfAll_grouping (settings : Settings) (source : Text) :
    (∀ units, (LineReader.ofText settings source).Grouping units →
        Line.tokensOfAll units = tokenizeAt settings Position.start source) ∧
      (∀ groups, (LineReader.ofText settings source).takeRest.1 = groups.flatten →
        (∀ group ∈ groups, group ≠ []) →
        (∀ group ∈ groups.dropLast, ∀ last, group.getLast? = some last →
          last.endsInBlock = false) →
        ∃ units, (LineReader.ofText settings source).Grouping units ∧
          List.Forall₂ (fun group unit => Line.IsMerge group unit) groups units) ∧
      ∀ tokens, tokenizeAt settings Position.start source = .ok tokens →
        ∀ line ∈ (LineReader.ofText settings source).takeRest.1,
          line.startsInBlock = false → line.endsInBlock = false →
            line.tokens = .ok (tokens.filter fun token => token.start.line = line.start.line) := by
  refine ⟨?_, ?_, ?_⟩
  · intro units hgrouping
    exact hgrouping.tokensOfAll_eq (LineReader.standsBefore_ofText settings source)
  · intro groups hflatten hgroups hclosed
    rw [LineReader.takeRest_spec] at hflatten
    exact LineReader.exists_grouping hflatten hgroups hclosed
  · intro tokens htokens line hline hstarts hends
    have hphysical : line ∈ Line.physicals settings none Position.start 0 (Text.lines source) := by
      rwa [LineReader.takeRest_spec] at hline
    obtain ⟨before, after, hsplit⟩ := List.append_of_mem hphysical
    obtain ⟨front, texts, hlines, -, hbehind⟩ := Line.exists_of_physicals_eq_append hsplit
    cases texts with
    | nil => contradiction
    | cons text behind =>
        obtain ⟨rfl, -⟩ := List.cons.inj hbehind
        have hclosed : front.foldl OpenBlock.afterLine none = none := by
          simpa using hstarts
        have hcloses : OpenBlock.afterLine none text = none := by
          simpa [hclosed] using hends
        rw [(Line.isSound_physical _ _ _ _ _).tokens_eq_of_closed hstarts hends]
        exact tokenizeAt_line hlines hclosed hcloses htokens

/-- A block on two lines that is taken as one, and the line behind it. -/
theorem exists_grouping_block :
    ∃ groups units tokens, groups.length = 2 ∧
      (LineReader.ofText {} ['\x60', '\n', '\x60', '\n', 'c']).takeRest.1 = groups.flatten ∧
      (LineReader.ofText {} ['\x60', '\n', '\x60', '\n', 'c']).Grouping units ∧
      List.Forall₂ (fun group unit => Line.IsMerge group unit) groups units ∧
      Line.tokensOfAll units = .ok tokens ∧
      ∃ line ∈ (LineReader.ofText {} ['\x60', '\n', '\x60', '\n', 'c']).takeRest.1,
        line.startsInBlock = false ∧ line.endsInBlock = false ∧
          line.tokens = .ok (tokens.filter fun token => token.start.line = line.start.line) := by
  let opening : Line := Line.physical {} none ⟨1, 0⟩ 0 ['\x60', '\n']
  let closing : Line :=
    Line.physical {} (OpenBlock.afterLine none ['\x60', '\n']) ⟨2, 0⟩ 2 ['\x60', '\n']
  let single : Line := Line.physical {} none ⟨3, 0⟩ 4 ['c']
  have hlines : (LineReader.ofText {} ['\x60', '\n', '\x60', '\n', 'c']).takeRest.1 =
      [opening, closing, single] := by
    rw [LineReader.takeRest_spec]
    rfl
  have hends : ∀ group ∈ [[opening, closing], [single]].dropLast, ∀ last,
      group.getLast? = some last → last.endsInBlock = false := by
    intro group hgroup last hlast
    obtain rfl := List.mem_singleton.mp hgroup
    rw [← Option.some.inj hlast]
    decide
  have htokens : tokenizeAt {} Position.start ['\x60', '\n', '\x60', '\n', 'c'] =
      .ok [⟨.contentBlock, [], ⟨1, 0⟩, ⟨2, 1⟩, 0, []⟩,
        ⟨.identifier, ['c'], ⟨3, 0⟩, ⟨3, 1⟩, 0, []⟩] := by
    cbv
  have hline : single ∈
      (LineReader.ofText {} ['\x60', '\n', '\x60', '\n', 'c']).takeRest.1 := by
    rw [hlines]
    exact List.mem_cons_of_mem _ (List.mem_cons_of_mem _ List.mem_cons_self)
  obtain ⟨hjoined, hexists, hsingle⟩ :=
    tokensOfAll_grouping {} ['\x60', '\n', '\x60', '\n', 'c']
  obtain ⟨units, hgrouping, hunits⟩ := hexists [[opening, closing], [single]] hlines (by simp) hends
  exact ⟨[[opening, closing], [single]], units, _, rfl, hlines, hgrouping, hunits,
    (hjoined _ hgrouping).trans htokens, single, hline, by decide, by decide,
    hsingle _ htokens single hline (by decide) (by decide)⟩

end BlockLexer
