import BlockLexer.Proofs.Line.Tiling
import BlockLexer.Proofs.Token.Run

/-! # Reading tokens from inside a block

A token reader may take over a line reader at any place, also where a block is open. Main
statement: with block tracking it passes over the lines that begin inside a block, each for
itself, and from the first line that begins outside of blocks on it reads what tokenizing the text
from there at once would give.
-/

namespace BlockLexer

namespace Line

section Inside

variable {line : Line} {inside lines laters : List Line}

/-- With block tracking a line that begins inside a block has no tokens. -/
theorem IsSound.tokens_eq_of_startsInBlock (hsound : line.IsSound)
    (htracks : line.settings.trackBlocks) (hstarts : line.startsInBlock) :
    line.tokens = .ok [] := by
  have hskipped : line.skipped = true := by
    rw [hsound.skipped_eq, skips, htracks, hstarts, Bool.true_or, Bool.and_true]
  rw [hsound.tokens_eq, freshTokens, if_pos hskipped]

/-- Lines that begin inside a block are units of their own, even if they open a block anew. -/
theorem script_append_of_startsInBlock (hsound : ∀ line ∈ inside, line.IsSound)
    (htracks : ∀ line ∈ inside, line.settings.trackBlocks)
    (hstarts : ∀ line ∈ inside, line.startsInBlock) (lines : List Line) :
    script (inside ++ lines) = script lines := by
  induction inside with
  | nil => rfl
  | cons line following ih =>
      obtain ⟨hlineSound, hsound⟩ := List.forall_mem_cons.mp hsound
      obtain ⟨hlineTracks, htracks⟩ := List.forall_mem_cons.mp htracks
      obtain ⟨hlineStarts, hstarts⟩ := List.forall_mem_cons.mp hstarts
      have hcloses : ¬ line.opensBlock := by
        rw [opensBlock, hlineStarts]
        exact Bool.false_ne_true
      have htake : takeUnit? (line :: (following ++ lines)) = some (line, following ++ lines) := by
        rw [takeUnit?, if_neg hcloses]
      have htokens := hlineSound.tokens_eq_of_startsInBlock hlineTracks hlineStarts
      rw [List.cons_append, script_of_ok htake htokens, ih hsound htracks hstarts]
      rfl

/-- That tokens were asked for before changes nothing in what the lines are read as. -/
theorem script_congr (hlaters : List.Forall₂ UpToCache lines laters)
    (hsound : ∀ line ∈ lines, line.IsSound) : script laters = script lines := by
  rw [← script_map_uncached hsound, ← script_map_uncached (UpToCache.isSound_all hlaters hsound),
    UpToCache.map_congr hlaters fun _ => rfl]

end Inside

section Physicals

variable {settings : Settings} {opened : Option OpenBlock} {position : Position} {offset : Nat}
  {texts : List Text} {first : Line}

/-- Physical lines of which the first begins outside of blocks are read as their text. -/
theorem scriptResult_physicals_of_closed (hlines : Text.lines texts.flatten = texts)
    (hfirst : (physicals settings opened position offset texts).head? = some first)
    (hcloses : first.startsInBlock = false) :
    scriptResult (script (physicals settings opened position offset texts)) =
      tokenizeAt settings first.start texts.flatten := by
  obtain ⟨hstarts, hstart, -⟩ := of_head?_physicals hfirst
  rw [hcloses, eq_comm, Option.isSome_eq_false_iff, Option.isNone_iff_eq_none] at hstarts
  have hscript := script_physicals settings position offset texts.flatten
  rw [hlines] at hscript
  rwa [hstarts, hstart]

end Physicals

end Line

namespace LineReader

section Run

variable {settings : Settings} {cursor : Cursor} {operations : List Operation}
  {inside following : List Line} {line : Line}

theorem settings_eq_of_mem_run
    (hline : line ∈ ((ofCursor settings cursor).run operations).2.remaining) :
    line.settings = settings := by
  obtain ⟨-, hremaining, -⟩ := run_ofCursor settings cursor operations
  have hmem : line.settings ∈ _ := List.mem_map_of_mem hline
  rw [Line.UpToCache.map_congr hremaining fun _ => rfl] at hmem
  obtain ⟨physical, hphysical, hsame⟩ := List.mem_map.mp hmem
  rw [← hsame]
  exact @Line.forall_mem_physicals settings none cursor.position cursor.offset _
    (fun physical => physical.settings = settings) (fun _ _ _ _ => rfl) physical
    (List.mem_of_mem_drop hphysical)

/-- Wherever the lines left behind a run are divided, those behind are physical lines. -/
theorem exists_physicals_of_run {lines : List Line}
    (hsplit : ((ofCursor settings cursor).run operations).2.remaining = inside ++ lines) :
    ∃ opened position offset texts, Text.lines texts.flatten = texts ∧
      List.Forall₂ Line.UpToCache (Line.physicals settings opened position offset texts) lines := by
  obtain ⟨-, hremaining, -⟩ := run_ofCursor settings cursor operations
  have hdrop := List.forall₂_drop inside.length hremaining
  rw [hsplit, List.drop_left, List.drop_drop] at hdrop
  obtain ⟨front, behind, hlines, -, hbehind⟩ :=
    Line.exists_of_physicals_eq_append (List.take_append_drop _ _).symm
  rw [hbehind] at hdrop
  exact ⟨_, _, _, behind, (Text.lines_flatten_of_append hlines).2.1, hdrop⟩

/-- From a line that begins outside of blocks on, what a run has left is read as its text. -/
theorem scriptResult_run
    (hsplit : ((ofCursor settings cursor).run operations).2.remaining =
      inside ++ line :: following)
    (hcloses : line.startsInBlock = false) :
    Line.scriptResult (Line.script (line :: following)) =
      tokenizeAt settings line.start ((line :: following).map Line.text).flatten := by
  obtain ⟨opened, position, offset, texts, hlines, hphysicals⟩ := exists_physicals_of_run hsplit
  have htexts : (line :: following).map Line.text = _ :=
    Line.UpToCache.map_congr hphysicals fun _ => rfl
  rw [Line.map_text_physicals] at htexts
  have hsound := @Line.forall_mem_physicals settings opened position offset texts Line.IsSound
    (Line.isSound_physical settings)
  rw [Line.script_congr hphysicals hsound, htexts]
  generalize hlist : Line.physicals settings opened position offset texts = lines at hphysicals
  cases hphysicals with
  | @cons first _ others _ hfirst _ =>
      have hstart : line.start = first.start := hfirst.congr fun _ => rfl
      have hstarts : line.startsInBlock = first.startsInBlock := hfirst.congr fun _ => rfl
      rw [hstart, ← hlist]
      apply Line.scriptResult_physicals_of_closed hlines
      · rw [hlist, List.head?_cons]
      · rw [← hstarts, hcloses]

end Run

end LineReader

namespace TokenReader

/-- Whatever has been done with the lines behind a cursor, a token reader that takes over the lines
left passes over those that begin inside a block. It reads what tokenizing the source from the
first other line on gives, as if nothing stood in front of this line. -/
theorem resumes_outside_blocks {settings : Settings} (htracks : settings.trackBlocks)
    (source : Text) (count : Nat) (operations : List LineReader.Operation) :
    let cursor := (Cursor.ofText source).skip count
    let lines := ((LineReader.ofCursor settings cursor).run operations).2
    let result := (ofLines lines).takeRest.1.mapM id
    ((∀ line ∈ lines.takeRest.1, line.startsInBlock) → result = .ok []) ∧
      ∀ inside line following, lines.takeRest.1 = inside ++ line :: following →
        (∀ inner ∈ inside, inner.startsInBlock) → line.startsInBlock = false →
          ∃ before rest, source = before ++ rest ∧ line.StandsBehind before ∧
            rest = ((line :: following).map Line.text).flatten ∧
            result = (tokenizeAt settings line.start rest).mapError ReadError.lexical := by
  intro cursor lines result
  have hsound := (LineReader.run_ofCursor settings cursor operations).1
  have htracksAll : ∀ line ∈ lines.remaining, line.settings.trackBlocks := by
    intro line hline
    rwa [LineReader.settings_eq_of_mem_run hline]
  have hresult : result = _ := mapM_takeRest_ofLines lines
  rw [LineReader.takeRest_spec, hresult]
  constructor
  · intro hstarts
    have hscript := Line.script_append_of_startsInBlock hsound htracksAll hstarts []
    rw [List.append_nil, Line.script_nil] at hscript
    rw [hscript]
    rfl
  · intro inside line following hsplit hinside hcloses
    have hfront : ∀ inner ∈ inside, inner ∈ lines.remaining := by
      intro inner hinner
      rw [hsplit]
      exact List.mem_append_left _ hinner
    have hscript := Line.script_append_of_startsInBlock
      (fun inner hinner => hsound inner (hfront inner hinner))
      (fun inner hinner => htracksAll inner (hfront inner hinner)) hinside (line :: following)
    -- The run as a whole tiles the source, so what it has left is a suffix of it.
    have htiles :=
      LineReader.tiles_run (LineReader.tiles_ofCursor settings source count) operations
    rw [hsplit, ← List.append_assoc] at htiles
    refine ⟨_, _, ?_, htiles.standsBehind.1, rfl, ?_⟩
    · have hsource := htiles.flatten_eq
      rw [List.map_append, List.flatten_append] at hsource
      rw [List.append_assoc, hsource, List.take_append_drop]
    · rw [hsplit, hscript, LineReader.scriptResult_run hsplit hcloses]

/-- A line that closes a block and opens another is passed over like all lines up to the one that
begins outside of blocks. Where there is no such line nothing is read. -/
theorem exists_resumed_behind_reopened_block :
    let source : Text := ['\x60', '\n', '\x60', '/', '*', '\n', '*', '/', '\n', 'c']
    let lines := ((LineReader.ofCursor {} ((Cursor.ofText source).skip 0)).run [.next, .peek 1]).2
    let unclosed := ((LineReader.ofCursor {} ((Cursor.ofText ['\x60', '\n', 'c']).skip 0)).run
      [.next]).2
    (∃ reopening others, lines.takeRest.1 = reopening :: others ∧
        reopening.startsInBlock ∧ reopening.endsInBlock) ∧
      (∃ before rest, source = before ++ rest ∧ rest = ['c'] ∧
        (ofLines lines).takeRest.1.mapM id =
          (tokenizeAt {} ⟨4, 0⟩ rest).mapError ReadError.lexical) ∧
      tokenizeAt {} ⟨4, 0⟩ ['c'] = .ok [⟨.identifier, ['c'], ⟨4, 0⟩, ⟨4, 1⟩, 0, []⟩] ∧
      unclosed.takeRest.1 ≠ [] ∧ (ofLines unclosed).takeRest.1.mapM id = .ok [] := by
  intro source lines unclosed
  have htoken : tokenizeAt {} ⟨4, 0⟩ ['c'] = .ok [⟨.identifier, ['c'], ⟨4, 0⟩, ⟨4, 1⟩, 0, []⟩] := by
    cbv
  have htracks : Settings.trackBlocks {} := rfl
  let second := Line.physical {} (some (.content 0)) ⟨2, 0⟩ 2 ['\x60', '/', '*', '\n']
  let third := Line.physical {} (some .comment) ⟨3, 0⟩ 6 ['*', '/', '\n']
  let last := Line.physical {} none ⟨4, 0⟩ 9 ['c']
  let inner := Line.physical {} (some (.content 0)) ⟨2, 0⟩ 2 ['c']
  have hlines : lines.takeRest.1 = [second, third] ++ [last] := LineReader.takeRest_spec lines
  have hunclosed : unclosed.takeRest.1 = [inner] := LineReader.takeRest_spec unclosed
  obtain ⟨-, hresumes⟩ := resumes_outside_blocks htracks source 0 [.next, .peek 1]
  obtain ⟨before, rest, hsource, -, hrest, hresult⟩ :=
    hresumes [second, third] last [] hlines (by simp [second, third]) rfl
  obtain ⟨hempty, -⟩ := resumes_outside_blocks htracks ['\x60', '\n', 'c'] 0 [.next]
  refine ⟨⟨second, [third, last], hlines, rfl, rfl⟩, ⟨before, rest, hsource, hrest, hresult⟩,
    htoken, ?_, hempty ?_⟩
  · rw [hunclosed]
    exact List.cons_ne_nil _ _
  · intro line hline
    rw [hunclosed, List.mem_singleton] at hline
    rw [hline]
    rfl

end TokenReader

end BlockLexer
