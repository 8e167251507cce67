import BlockLexer.Proofs.Line.Run

/-! # Cached tokens

A line keeps its tokens once they have been asked for. A session is a line reader together with the
lines that were taken from it or copied, of which tokens may be asked at any time, also while a
condition on a merge is being asked. Main statement: whatever a line has in its cache is what its
text gives when it is tokenized anew, so that asking for tokens gives the same answer every time.
-/

namespace BlockLexer

namespace Line

/-- The line has these settings, and its cache holds nothing but what would be computed anew. -/
structure IsFresh (settings : Settings) (line : Line) : Prop where
  settings_eq : line.settings = settings
  cache_eq : ∀ tokens, line.cache = some tokens → tokens = line.freshTokens

variable {settings : Settings} {line later unit : Line} {lines laters : List Line}

namespace IsFresh

theorem tokens_eq (hfresh : line.IsFresh settings) : line.tokens = line.freshTokens :=
  tokens_eq_of_cache_eq hfresh.cache_eq

theorem of_cache_eq_none (hsettings : line.settings = settings) (hcache : line.cache = none) :
    line.IsFresh settings := by
  refine ⟨hsettings, ?_⟩
  intro tokens hfilled
  rw [hcache] at hfilled
  contradiction

/-- Asking for tokens fills the cache with what is computed, or leaves in it what was there. -/
theorem tokenized (hfresh : line.IsFresh settings) : line.tokenized.IsFresh settings := by
  refine ⟨hfresh.settings_eq, ?_⟩
  intro tokens hcache
  rw [← Option.some.inj hcache]
  exact hfresh.tokens_eq

/-- Another choice about skipping empties the cache. -/
theorem withSkipped (hfresh : line.IsFresh settings) (skipped : Bool) :
    (line.withSkipped skipped).IsFresh settings :=
  of_cache_eq_none hfresh.settings_eq rfl

/-- Lines that are the same have the same tokens, whatever has been asked of them. -/
theorem tokens_eq_of_same (hfresh : line.IsFresh settings) (hlater : later.IsFresh settings)
    (hsame : line.same later) : line.tokens = later.tokens := by
  simp only [same, Bool.and_eq_true, decide_eq_true_eq] at hsame
  obtain ⟨⟨⟨⟨hstart, -⟩, -⟩, hskipped⟩, htext⟩ := hsame
  rw [hfresh.tokens_eq, hlater.tokens_eq, freshTokens, freshTokens, hfresh.settings_eq,
    hlater.settings_eq, hstart, hskipped, htext]

end IsFresh

/-- Whenever the tokens of the line are asked for, the answer is what its text gives with these
settings, and a skipped line has no tokens. A cache that was filled before holds the same, and so
does the one that is filled then. -/
structure AnswersAnew (settings : Settings) (line : Line) : Prop where
  settings_eq : line.settings = settings
  cache_eq : ∀ found, line.cache = some found →
    found = if line.skipped then .ok [] else tokenizeAt settings line.start line.text
  tokens_eq :
    line.tokens = if line.skipped then .ok [] else tokenizeAt settings line.start line.text
  cache_tokenized_eq : line.tokenized.cache =
    some (if line.skipped then .ok [] else tokenizeAt settings line.start line.text)

theorem IsFresh.answersAnew (hfresh : line.IsFresh settings) : line.AnswersAnew settings := by
  have hanew : line.freshTokens =
      if line.skipped then .ok [] else tokenizeAt settings line.start line.text := by
    rw [freshTokens, hfresh.settings_eq]
  have htokens := hfresh.tokens_eq.trans hanew
  refine ⟨hfresh.settings_eq, ?_, htokens, congrArg some htokens⟩
  intro found hcache
  rw [hfresh.cache_eq found hcache, hanew]

/-- The line is as it was cut off the source with these settings, but for its cache. -/
def IsSoundWith (settings : Settings) (line : Line) : Prop :=
  line.IsSound ∧ line.settings = settings

theorem IsSoundWith.isFresh (hsound : line.IsSoundWith settings) : line.IsFresh settings :=
  ⟨hsound.2, hsound.1.cache_eq⟩

theorem IsSoundWith.of_upToCache (hlaters : List.Forall₂ UpToCache lines laters)
    (hsound : ∀ line ∈ lines, line.IsSoundWith settings) :
    ∀ later ∈ laters, later.IsSoundWith settings := by
  intro later hlater
  refine ⟨UpToCache.isSound_all hlaters (fun line hline => (hsound line hline).1) later hlater, ?_⟩
  have hmem : later.settings ∈ laters.map Line.settings := List.mem_map_of_mem hlater
  rw [UpToCache.map_congr hlaters fun _ => rfl] at hmem
  obtain ⟨line, hline, hsame⟩ := List.mem_map.mp hmem
  rw [← hsame]
  exact (hsound line hline).2

/-- A merge has the settings of the lines it is made of. -/
theorem IsMerge.settings_eq (hmerge : IsMerge lines unit)
    (hsettings : ∀ line ∈ lines, line.settings = settings) : unit.settings = settings := by
  obtain ⟨first, hfirst, hbeginning⟩ := List.mem_map.mp (List.mem_of_mem_head? hmerge.beginning_eq)
  have hsame : first.settings = unit.settings := congrArg Prod.fst hbeginning
  rw [← hsame]
  exact hsettings first hfirst

end Line

namespace LineReader

/-- What can be done with lines that are kept. -/
inductive Touch where
  /-- Asks for the tokens of the line. -/
  | tokenize (index : Nat)
  /-- Keeps a copy of the line. -/
  | copy (index : Nat)
  /-- Keeps a copy of the line with another choice about skipping. -/
  | copySkipped (index : Nat) (skipped : Bool)

/-- The kept lines after one of them has been touched. -/
def touch (kept : List Line) : Touch → List Line
  | .tokenize index => kept[index]?.elim kept fun line => kept.set index line.tokenized
  | .copy index => kept ++ kept[index]?.toList
  | .copySkipped index skipped => kept ++ (kept[index]?.map (·.withSkipped skipped)).toList

/-- A line reader and the lines that are kept. -/
structure Session where
  reader : LineReader
  kept : List Line

namespace Session

/-- What can be done in a session. -/
inductive Step : Type 1 where
  /-- Uses the reader, and keeps the line that it hands out. -/
  | read (operation : Operation)
  /-- Keeps a copy of the line that comes after `shift` others. -/
  | copy (shift : Nat)
  /-- Merges on a condition that may use the lines kept so far and copies of the line it is asked
  about. -/
  | mergeUntil {σ : Type} (ask : σ → List Line → Line → Verdict σ × List Touch) (state : σ)
  | touch (touch : Touch)

/-- A condition that uses kept lines, as one that remembers them. It keeps copies of the line from
before and after it has asked for the tokens. -/
def remembering {σ : Type} (ask : σ → List Line → Line → Verdict σ × List Touch)
    (memory : σ × List Line) (line : Line) : Verdict (σ × List Line) :=
  let answer := ask memory.1 memory.2 line
  let seen := if answer.1.tokenizes then line.tokenized else line
  ⟨answer.1.holds, answer.1.tokenizes,
    answer.1.state, answer.2.foldl LineReader.touch (memory.2 ++ [line, seen])⟩

/-- The session before anything is read behind a cursor. -/
def ofCursor (settings : Settings) (cursor : Cursor) : Session :=
  ⟨LineReader.ofCursor settings cursor, []⟩

/-- The session after a step. -/
def apply (session : Session) : Step → Session
  | .read operation =>
      ⟨(session.reader.apply operation).2,
        session.kept ++ (session.reader.apply operation).1.toList⟩
  | .copy shift =>
      ⟨(session.reader.peek shift).2, session.kept ++ (session.reader.peek shift).1.toOption.toList⟩
  | .mergeUntil ask state =>
      let outcome := session.reader.mergeUntil (remembering ask) (state, session.kept)
      ⟨outcome.2.2, outcome.2.1.2 ++ outcome.1.toOption.toList⟩
  | .touch touch => ⟨session.reader, LineReader.touch session.kept touch⟩

/-- The session after steps one after the other. -/
def run (session : Session) (steps : List Step) : Session :=
  steps.foldl apply session

/-- All lines that have been read and are still at hand. -/
def lines (session : Session) : List Line :=
  session.kept ++ session.reader.buffer

end Session

section Touch

variable {settings : Settings} {kept : List Line}

theorem isFresh_touch (hkept : ∀ line ∈ kept, line.IsFresh settings) (touch : Touch) :
    ∀ line ∈ LineReader.touch kept touch, line.IsFresh settings := by
  cases touch with
  | tokenize index =>
      simp only [LineReader.touch]
      cases hindex : kept[index]? with
      | none => exact hkept
      | some found =>
          intro line hline
          rcases List.mem_or_eq_of_mem_set hline with hearlier | rfl
          · exact hkept line hearlier
          · exact (hkept found (List.mem_of_getElem? hindex)).tokenized
  | copy index =>
      refine List.forall_mem_append.mpr ⟨hkept, ?_⟩
      intro line hline
      exact hkept line (List.mem_of_getElem? (Option.mem_toList.mp hline))
  | copySkipped index skipped =>
      refine List.forall_mem_append.mpr ⟨hkept, ?_⟩
      intro line hline
      obtain ⟨found, hfound, rfl⟩ := Option.map_eq_some_iff.mp (Option.mem_toList.mp hline)
      exact (hkept found (List.mem_of_getElem? hfound)).withSkipped skipped

theorem isFresh_foldl_touch (hkept : ∀ line ∈ kept, line.IsFresh settings)
    (touches : List Touch) :
    ∀ line ∈ touches.foldl LineReader.touch kept, line.IsFresh settings := by
  induction touches generalizing kept with
  | nil => exact hkept
  | cons touch following ih => exact ih (isFresh_touch hkept touch)

/-- A condition that is asked about lines of the source keeps nothing but fresh lines. -/
theorem isFresh_stateAfter {σ : Type} (ask : σ → List Line → Line → Verdict σ × List Touch)
    {memory : σ × List Line} (hkept : ∀ line ∈ memory.2, line.IsFresh settings)
    {lines : List Line} (hlines : ∀ line ∈ lines, line.IsFresh settings) :
    ∀ line ∈ (Line.stateAfter (Session.remembering ask) memory lines).2,
      line.IsFresh settings := by
  induction lines generalizing memory with
  | nil => exact hkept
  | cons line following ih =>
      obtain ⟨hline, hfollowing⟩ := List.forall_mem_cons.mp hlines
      refine ih ?_ hfollowing
      apply isFresh_foldl_touch
      refine List.forall_mem_append.mpr ⟨hkept, List.forall_mem_cons.mpr ⟨hline, ?_⟩⟩
      rw [List.forall_mem_singleton]
      split
      · exact hline.tokenized
      · exact hline

end Touch

namespace Session

/-- The reader still has its lines as they were cut off the source, and every line that is kept is
fresh. -/
structure IsFresh (settings : Settings) (session : Session) : Prop where
  remaining : ∀ line ∈ session.reader.remaining, line.IsSoundWith settings
  kept : ∀ line ∈ session.kept, line.IsFresh settings

variable {settings : Settings} {session : Session}

theorem isFresh_ofCursor (settings : Settings) (cursor : Cursor) :
    (ofCursor settings cursor).IsFresh settings where
  remaining := @Line.forall_mem_physicals settings none cursor.position cursor.offset
    (Text.lines cursor.rest) (Line.IsSoundWith settings)
    fun _ _ _ _ => ⟨Line.isSound_physical _ _ _ _ _, rfl⟩
  kept _ hline := nomatch hline

namespace IsFresh

theorem read (hfresh : session.IsFresh settings) (operation : Operation) :
    (session.apply (.read operation)).IsFresh settings := by
  obtain ⟨taken, left, hremaining, hleft, -, hunit⟩ := session.reader.apply_spec operation
  have hsound := hfresh.remaining
  rw [hremaining] at hsound
  obtain ⟨htaken, hothers⟩ := List.forall_mem_append.mp hsound
  refine ⟨Line.IsSoundWith.of_upToCache hleft hothers,
    List.forall_mem_append.mpr ⟨hfresh.kept, ?_⟩⟩
  intro line hline
  rcases hunit with ⟨hnone, -⟩ | ⟨unit, hsome, hmerge, hunitSound⟩
  · rw [hnone] at hline
    contradiction
  · obtain rfl : line = unit := by simpa [hsome] using hline
    have hsettings := hmerge.settings_eq fun line hline => (htaken line hline).2
    rcases hunitSound fun line hline => (htaken line hline).1 with hsound | ⟨-, hcache⟩
    · exact Line.IsSoundWith.isFresh ⟨hsound, hsettings⟩
    · exact .of_cache_eq_none hsettings hcache

theorem copy (hfresh : session.IsFresh settings) (shift : Nat) :
    (session.apply (.copy shift)).IsFresh settings := by
  obtain ⟨loaded, hremaining, -, ⟨found, hfound, hpeek⟩ | ⟨-, hpeek⟩⟩ :=
    session.reader.peek_spec shift
  · rw [apply, hpeek]
    refine ⟨hremaining ▸ hfresh.remaining, List.forall_mem_append.mpr ⟨hfresh.kept, ?_⟩⟩
    intro line hline
    obtain rfl : line = found := List.mem_singleton.mp hline
    exact (hfresh.remaining line (List.mem_of_getElem? hfound)).isFresh
  · rw [apply, hpeek]
    refine ⟨hremaining ▸ hfresh.remaining, ?_⟩
    exact List.forall_mem_append.mpr ⟨hfresh.kept, fun _ hline => nomatch hline⟩

theorem mergeUntil {σ : Type} (hfresh : session.IsFresh settings)
    (ask : σ → List Line → Line → Verdict σ × List Touch) (state : σ) :
    (session.apply (.mergeUntil ask state)).IsFresh settings := by
  have hlines : ∀ line ∈ session.reader.remaining, line.IsFresh settings := fun line hline =>
    (hfresh.remaining line hline).isFresh
  rcases session.reader.mergeUntil_spec (remembering ask) (state, session.kept) with
    ⟨passed, last, following, unit, behind, hsplit, -, -, hmerge, hbehind, -, hunit, hsound⟩ |
      ⟨-, behind, hmerge, hbehind, -⟩
  · -- The condition has been asked about the lines that are merged and no others.
    rw [apply, hmerge]
    have hremaining := hfresh.remaining
    have hasked : session.reader.remaining = (passed ++ [last]) ++ following := by
      rw [hsplit, List.append_assoc, List.singleton_append]
    rw [hasked] at hremaining hlines
    obtain ⟨htaken, hfollowing⟩ := List.forall_mem_append.mp hremaining
    refine ⟨hbehind ▸ hfollowing, List.forall_mem_append.mpr
      ⟨isFresh_stateAfter ask hfresh.kept (List.forall_mem_append.mp hlines).1, ?_⟩⟩
    intro line hline
    obtain rfl : line = unit := List.mem_singleton.mp hline
    exact Line.IsSoundWith.isFresh ⟨hsound (htaken last (by simp)).1,
      hunit.settings_eq fun line hline => (htaken line hline).2⟩
  · rw [apply, hmerge]
    refine ⟨Line.IsSoundWith.of_upToCache hbehind hfresh.remaining, List.forall_mem_append.mpr
      ⟨isFresh_stateAfter ask hfresh.kept hlines, fun _ hline => nomatch hline⟩⟩

theorem apply (hfresh : session.IsFresh settings) (step : Step) :
    (session.apply step).IsFresh settings := by
  cases step with
  | read operation => exact hfresh.read operation
  | copy shift => exact hfresh.copy shift
  | mergeUntil ask state => exact hfresh.mergeUntil ask state
  | touch touch => exact ⟨hfresh.remaining, isFresh_touch hfresh.kept touch⟩

theorem run (hfresh : session.IsFresh settings) (steps : List Step) :
    (session.run steps).IsFresh settings := by
  induction steps generalizing session with
  | nil => exact hfresh
  | cons step following ih => exact ih (hfresh.apply step)

theorem lines (hfresh : session.IsFresh settings) :
    ∀ line ∈ session.lines, line.IsFresh settings := by
  refine List.forall_mem_append.mpr ⟨hfresh.kept, ?_⟩
  intro line hline
  exact (hfresh.remaining line (List.mem_append_left _ hline)).isFresh

end IsFresh

theorem isFresh_of_mem_run {settings : Settings} {cursor : Cursor} {steps : List Step} {line : Line}
    (hline : line ∈ ((ofCursor settings cursor).run steps).lines) : line.IsFresh settings :=
  ((isFresh_ofCursor settings cursor).run steps).lines line hline

/-- Whatever is done with the lines behind a cursor, no line that is kept or buffered has anything
else in its cache than what its text gives. Asking for its tokens, or for those of a line ahead,
gives the same answer every time, be it an error, and so does asking any line that is the same and
was read with the same settings, from whichever source. -/
theorem run_answersAnew (settings : Settings) (cursor : Cursor) (steps : List Step) :
    let session := (ofCursor settings cursor).run steps
    (∀ line ∈ session.lines, line.AnswersAnew settings) ∧
      (∀ shift line, (session.reader.peek shift).1 = .ok line →
        (session.reader.peekTokens shift).1 =
          (if line.skipped then .ok []
            else tokenizeAt settings line.start line.text).mapError .lexical) ∧
      ∀ settings' cursor' steps', ∀ line ∈ session.lines,
        ∀ other ∈ ((ofCursor settings' cursor').run steps').lines,
          line.settings = other.settings → line.same other → line.tokens = other.tokens := by
  intro session
  have hfresh := (isFresh_ofCursor settings cursor).run steps
  refine ⟨fun line hline => (hfresh.lines line hline).answersAnew, ?_, ?_⟩
  · intro shift line hline
    obtain ⟨loaded, -, -, ⟨found, hfound, hpeek⟩ | ⟨-, hpeek⟩⟩ := session.reader.peek_spec shift
    · obtain ⟨loaded', -, -, htokens⟩ := session.reader.peekTokens_spec shift
      rw [hpeek] at hline
      obtain rfl := Except.ok.inj hline
      have hanew := (hfresh.remaining found (List.mem_of_getElem? hfound)).isFresh.answersAnew
      rw [htokens, hfound, ← hanew.tokens_eq]
      rfl
    · rw [hpeek] at hline
      contradiction
  · intro settings' cursor' steps' line hline other hother hsettings hsame
    have hfreshLine := hfresh.lines line hline
    have hfreshOther := isFresh_of_mem_run hother
    have hsettings' : settings' = settings := by
      rw [← hfreshOther.settings_eq, ← hsettings, hfreshLine.settings_eq]
    rw [hsettings'] at hfreshOther
    exact hfreshLine.tokens_eq_of_same hfreshOther hsame

/-- A condition asks for the tokens of a line that has none but an error, and the line is handed out
with the error in its cache. Without an answer in its cache the line gives the same error. -/
theorem answersAnew_of_asked_line :
    let source : Text := ['\x22', '\n', 'a']
    let asking : Step := .mergeUntil (fun () _ _ => (⟨true, true, ()⟩, [])) ()
    let session := (ofCursor {} (Cursor.ofText source)).run [asking, .touch (.copySkipped 2 true)]
    let other := (ofCursor {} (Cursor.ofText source)).run [.read .next]
    ∃ asked skipped line error, asked ∈ session.lines ∧ skipped ∈ session.lines ∧
      line ∈ other.lines ∧ asked.cache = some (.error error) ∧ line.cache = none ∧
      asked.same line ∧ error = ⟨.unterminatedString, ⟨1, 0⟩, ['\x22']⟩ ∧
      asked.tokens = line.tokens ∧ asked.AnswersAnew {} ∧ skipped.tokens = .ok [] ∧
      (session.reader.peek 0).1 = .ok (Line.physical {} none ⟨2, 0⟩ 2 ['a']) ∧
      (session.reader.peekTokens 0).1 =
        .ok [⟨.identifier, ['a'], ⟨2, 0⟩, ⟨2, 1⟩, 0, []⟩] := by
  intro source asking session other
  let line := Line.physical {} none ⟨1, 0⟩ 0 ['\x22', '\n']
  let behind : LineReader := ⟨{}, [], (Cursor.ofText source).skip 2, none⟩
  have hasking : (ofCursor {} (Cursor.ofText source)).apply asking =
      ⟨behind, [line, line.tokenized, line.tokenized]⟩ := by
    simp only [asking, apply, LineReader.mergeUntil]
    rw [LineReader.seek]
    rfl
  have hsession : session =
      ⟨behind, [line, line.tokenized, line.tokenized, line.tokenized.withSkipped true]⟩ := by
    simp only [session, run, List.foldl, hasking]
    rfl
  have herror : tokenizeAt {} ⟨1, 0⟩ ['\x22', '\n'] =
      .error ⟨.unterminatedString, ⟨1, 0⟩, ['\x22']⟩ := by
    cbv
  have hword : tokenizeAt {} ⟨2, 0⟩ ['a'] = .ok [⟨.identifier, ['a'], ⟨2, 0⟩, ⟨2, 1⟩, 0, []⟩] := by
    cbv
  have hasked : line.tokenized ∈ session.lines := by simp [hsession, lines]
  have hskipped : line.tokenized.withSkipped true ∈ session.lines := by simp [hsession, lines]
  have hline : line ∈ other.lines := List.mem_cons_self
  have hnext : (session.reader.peek 0).1 = .ok (Line.physical {} none ⟨2, 0⟩ 2 ['a']) := by
    rw [hsession]
    rfl
  obtain ⟨hanew, hahead, hsame⟩ := run_answersAnew {} (Cursor.ofText source)
    [asking, .touch (.copySkipped 2 true)]
  refine ⟨line.tokenized, _, line, _, hasked, hskipped, hline, congrArg some herror, rfl, rfl, rfl,
    ?_, hanew _ hasked, (hanew _ hskipped).tokens_eq, hnext, ?_⟩
  · exact hsame _ _ _ line.tokenized hasked line hline rfl rfl
  · exact (hahead 0 _ hnext).trans (congrArg (Except.mapError ReadError.lexical) hword)

end Session

end LineReader

end BlockLexer
