import BlockLexer.Token.Reader
import BlockLexer.Proofs.Line.Merge

/-! # Units of lines

A token reader takes the lines of a source unit by unit. `Line.takeUnit?` says on a plain list which
lines form the next unit, and `TokenReader.nextUnit` takes off just that one. A unit that begins
outside of blocks ends outside of blocks, unless it is the last, and its tokens are those of its
text.
-/

namespace BlockLexer

namespace Line

/-- The lines `taken` are read as `unit` when `rest` follows them. -/
inductive IsUnit : List Line → Line → List Line → Prop
  | single {line : Line} {rest : List Line} : ¬ line.opensBlock → IsUnit [line] line rest
  | block {line closing : Line} {middle rest : List Line} :
      line.opensBlock → (∀ inner ∈ middle, inner.endsInBlock) → ¬ closing.endsInBlock →
        IsUnit (line :: (middle ++ [closing])) (line.mergeAll (middle ++ [closing])) rest
  | unclosed {line : Line} {following : List Line} :
      line.opensBlock → (∀ inner ∈ following, inner.endsInBlock) →
        IsUnit (line :: following) ((line.mergeAll following).withSkipped false) []

/-- The first unit of a list of lines, and the lines behind it. -/
def takeUnit? : List Line → Option (Line × List Line)
  | [] => none
  | line :: following =>
      if line.opensBlock then
        match following.dropWhile endsInBlock with
        | [] => some ((line.mergeAll following).withSkipped false, [])
        | closing :: rest =>
            some (line.mergeAll (following.takeWhile endsInBlock ++ [closing]), rest)
      else some (line, following)

theorem takeUnit?_eq_none_iff {lines : List Line} : takeUnit? lines = none ↔ lines = [] := by
  cases lines with
  | nil => simp [takeUnit?]
  | cons line following =>
      simp only [takeUnit?, reduceCtorEq, iff_false]
      split
      · split <;> exact Option.some_ne_none _
      · exact Option.some_ne_none _

theorem exists_isUnit_of_takeUnit? {lines rest : List Line} {unit : Line}
    (htake : takeUnit? lines = some (unit, rest)) :
    ∃ taken, lines = taken ++ rest ∧ IsUnit taken unit rest := by
  cases lines with
  | nil => contradiction
  | cons line following =>
      have hmiddle : ∀ inner ∈ following.takeWhile endsInBlock, inner.endsInBlock := by
        intro inner hinner
        exact List.mem_takeWhile_imp hinner
      have happend := @List.takeWhile_append_dropWhile Line endsInBlock following
      rw [takeUnit?] at htake
      split at htake
      · next hopens =>
        split at htake
        · next hdrop =>
          obtain ⟨rfl, rfl⟩ := Prod.mk.inj (Option.some.inj htake)
          rw [hdrop, List.append_nil] at happend
          rw [happend] at hmiddle
          exact ⟨line :: following, (List.append_nil _).symm, .unclosed hopens hmiddle⟩
        · next closing after hdrop =>
          obtain ⟨rfl, rfl⟩ := Prod.mk.inj (Option.some.inj htake)
          have hclosing := List.head?_dropWhile_not endsInBlock following
          rw [hdrop] at happend hclosing
          refine ⟨line :: (following.takeWhile endsInBlock ++ [closing]), ?_,
            .block hopens hmiddle (by simpa using hclosing)⟩
          rw [List.cons_append, List.append_assoc, List.singleton_append, happend]
      · next hopens =>
        obtain ⟨rfl, rfl⟩ := Prod.mk.inj (Option.some.inj htake)
        exact ⟨[line], rfl, .single hopens⟩

theorem length_of_takeUnit? {lines rest : List Line} {unit : Line}
    (htake : takeUnit? lines = some (unit, rest)) : rest.length < lines.length := by
  obtain ⟨taken, rfl, hunit⟩ := exists_isUnit_of_takeUnit? htake
  have htaken : taken ≠ [] := by cases hunit <;> exact List.cons_ne_nil _ _
  have hpositive := List.length_pos_iff.mpr htaken
  rw [List.length_append]
  omega

/-- Merging up to the first line that does not end in a block. -/
theorem seek_endsInBlock (passed lines : List Line) :
    seek (fun () line => ⟨!line.endsInBlock, false, ()⟩) () passed lines =
      match lines.dropWhile endsInBlock with
      | [] => (none, (), passed ++ lines)
      | closing :: rest =>
          (some (LineReader.joined (passed ++ lines.takeWhile endsInBlock) closing), (), rest) := by
  induction lines generalizing passed with
  | nil => simp [seek]
  | cons line following ih =>
      cases hends : line.endsInBlock with
      | false => simp [seek, hends]
      | true =>
          simp only [seek, hends, Bool.not_true, Bool.false_eq_true, if_false, ih,
            List.dropWhile_cons_of_pos, List.takeWhile_cons_of_pos, List.append_assoc,
            List.singleton_append]

section Physical

variable {settings : Settings} {position : Position} {offset : Nat} {texts : List Text}
  {unit : Line} {rest : List Line}

/-- A unit of physical lines leaves no block open, unless nothing follows it. -/
theorem IsUnit.closed
    (hunit : IsUnit (physicals settings none position offset texts) unit rest)
    (hrest : rest ≠ []) : texts.foldl OpenBlock.afterLine none = none := by
  generalize htaken : physicals settings none position offset texts = taken at hunit
  cases hunit with
  | single hopens =>
      have hends := endsInBlock_of_getLast? (htaken ▸ List.getLast?_singleton)
      obtain ⟨hstarts, -⟩ := of_head?_physicals (htaken ▸ List.head?_cons)
      simpa [opensBlock, hstarts, hends] using hopens
  | @block line closing middle _ hopens hmiddle hcloses =>
      have hlast := @List.getLast?_concat _ (line :: middle) closing
      rw [List.cons_append, ← htaken] at hlast
      have hends := endsInBlock_of_getLast? hlast
      simpa [hends] using hcloses
  | unclosed => contradiction

/-- A unit of physical lines has the tokens of its text. -/
theorem IsUnit.tokens_eq
    (hunit : IsUnit (physicals settings none position offset texts) unit rest) :
    unit.tokens = tokenizeAt settings position texts.flatten := by
  have hmap := map_text_physicals settings none position offset texts
  generalize htaken : physicals settings none position offset texts = taken at hunit hmap
  cases hunit with
  | single hopens =>
      obtain ⟨hstarts, hstart, hsettings, hcache, hskipped⟩ :=
        of_head?_physicals (htaken ▸ List.head?_cons)
      have hends : unit.endsInBlock = false := by simpa [opensBlock, hstarts] using hopens
      rw [tokens_of_not_skipped hcache (by simp [hskipped, skips, hstarts, hends]), hstart,
        hsettings, ← hmap]
      simp
  | @block line closing middle _ hopens hmiddle hcloses =>
      -- The merged line is no longer skipped: the last line is the first that ends outside.
      obtain ⟨hstarts, hstart, hsettings, -⟩ := of_head?_physicals (htaken ▸ List.head?_cons)
      have hskipped : (line.mergeAll (middle ++ [closing])).skipped = false := by
        rw [mergeAll_concat, merge, startsInBlock_mergeAll, hstarts]
        simpa [skips] using fun _ => hcloses
      rw [tokens_of_not_skipped (by rw [mergeAll_concat]; rfl) hskipped, start_mergeAll,
        settings_mergeAll, text_mergeAll, hstart, hsettings, ← hmap]
      simp
  | @unclosed line following hopens hfollowing =>
      obtain ⟨-, hstart, hsettings, -⟩ := of_head?_physicals (htaken ▸ List.head?_cons)
      rw [tokens_of_not_skipped rfl rfl, ← hmap]
      simp [withSkipped, start_mergeAll, settings_mergeAll, text_mergeAll, hstart, hsettings]

end Physical

end Line

namespace TokenReader

/-- A merge up to the end of a block takes the unit off, or nothing if the block never ends. -/
theorem mergeUntilLine_spec {lines : LineReader} {line : Line} {following : List Line}
    (hremaining : lines.remaining = line :: following) (hopens : line.opensBlock) :
    ∃ behind : LineReader, behind.stop = lines.stop ∧
      ((∃ unit, Line.takeUnit? lines.remaining = some (unit, behind.remaining) ∧
          lines.mergeUntilLine (fun line => !line.endsInBlock) = (.ok unit, behind)) ∨
        Line.takeUnit? lines.remaining = some ((line.mergeAll following).withSkipped false, []) ∧
          behind.remaining = lines.remaining ∧
          lines.mergeUntilLine (fun line => !line.endsInBlock) =
            (.error (.endOfInput lines.stop), behind)) := by
  have hends : line.endsInBlock = true := (Bool.and_eq_true_iff.mp hopens).2
  obtain ⟨behind, hbehind, hstop, houtcome⟩ := lines.seek_spec
    (fun () line => ⟨!line.endsInBlock, false, ()⟩) () []
  refine ⟨behind, hstop, ?_⟩
  rw [Line.seek_endsInBlock, hremaining, List.dropWhile_cons_of_pos hends,
    List.takeWhile_cons_of_pos hends] at hbehind houtcome
  rw [hremaining, Line.takeUnit?, if_pos hopens]
  simp only [LineReader.mergeUntilLine, LineReader.mergeUntil]
  -- `takeUnit?` and the merge part at the same line, or both find none.
  cases hdrop : following.dropWhile Line.endsInBlock with
  | nil =>
      rw [hdrop] at hbehind houtcome
      rcases houtcome with ⟨unit, ⟨⟩, -⟩ | ⟨-, hseek⟩
      exact .inr ⟨rfl, hbehind, by rw [hseek]⟩
  | cons closing rest =>
      rw [hdrop] at hbehind houtcome
      rcases houtcome with ⟨unit, hunit, hseek⟩ | ⟨⟨⟩, -⟩
      refine .inl ⟨unit, ?_, by rw [hseek]⟩
      dsimp only at hbehind hunit ⊢
      rw [hbehind, ← Option.some.inj hunit]
      rfl

/-- The next unit is the first unit of the lines that remain. -/
theorem nextUnit_spec (lines : LineReader) :
    ∃ behind : LineReader, behind.stop = lines.stop ∧
      ((∃ unit, Line.takeUnit? lines.remaining = some (unit, behind.remaining) ∧
          nextUnit lines = (.ok unit, behind)) ∨
        lines.remaining = [] ∧ nextUnit lines = (.error (.endOfInput lines.stop), behind)) := by
  obtain ⟨loaded, hloaded, hstop, ⟨line, hline, hpeek⟩ | ⟨hnone, hpeek⟩⟩ := lines.peek_spec 0
  · obtain ⟨following, hremaining⟩ : ∃ following, lines.remaining = line :: following :=
      List.head?_eq_some_iff.mp (List.head?_eq_getElem?.trans hline)
    rw [nextUnit, hpeek, ← hstop]
    rw [← hloaded] at hremaining ⊢
    by_cases hopens : line.opensBlock
    · simp only [if_pos hopens]
      obtain ⟨behind, hbehindStop, hmerged⟩ := mergeUntilLine_spec hremaining hopens
      rcases hmerged with ⟨unit, htake, hmerge⟩ | ⟨htake, hbehind, hmerge⟩
      · exact ⟨behind, hbehindStop, .inl ⟨unit, htake, by rw [hmerge]⟩⟩
      · -- The block never ends: the reader has given the lines back and merges them all.
        obtain ⟨after, hafter, hafterStop, ⟨first, others, hfirst, hrest⟩ | ⟨hnil, -⟩⟩ :=
          behind.mergeRest_spec
        · obtain ⟨rfl, rfl⟩ := List.cons.inj (hremaining.symm.trans (hbehind.symm.trans hfirst))
          refine ⟨after, hafterStop.trans hbehindStop, .inl ⟨_, ?_, by rw [hmerge]; exact hrest⟩⟩
          rw [htake, hafter]
        · rw [hbehind, hremaining] at hnil
          contradiction
    · simp only [if_neg hopens]
      rcases loaded.next_spec with ⟨first, behind, hfirst, hbehindStop, hnext⟩ | ⟨hnil, -⟩
      · obtain ⟨rfl, hbehind⟩ := List.cons.inj (hremaining.symm.trans hfirst)
        refine ⟨behind, hbehindStop, .inl ⟨line, ?_, by rw [hnext]⟩⟩
        rw [hremaining, Line.takeUnit?, if_neg hopens, hbehind]
      · rw [hremaining] at hnil
        contradiction
  · refine ⟨loaded, hstop, .inr ⟨?_, by rw [nextUnit, hpeek]⟩⟩
    rwa [← List.head?_eq_getElem?, List.head?_eq_none_iff] at hnone

end TokenReader

end BlockLexer
