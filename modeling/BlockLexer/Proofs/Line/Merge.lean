import Mathlib.Data.List.Forall2
import BlockLexer.Proofs.Line.Reader

/-! # Merged lines

A merge of consecutive lines begins like the first of them, ends like the last and holds the text
of all. That tokens of a line were asked for before shows in its cache alone, which never changes
what the tokens are. A condition that lines are merged on is asked about one after the other, up to
the first that satisfies it.
-/

namespace BlockLexer.Line

section Cache

/-- `later` is `line`, whose tokens may have been asked for meanwhile. -/
def UpToCache (line later : Line) : Prop :=
  later = line ∨ later = line.tokenized

/-- The line as if its tokens had never been asked for. -/
def uncached (line : Line) : Line :=
  { line with cache := none }

/-- The cache holds nothing but what would be computed anew, and the line is skipped exactly if
block tracking says so. -/
structure IsSound (line : Line) : Prop where
  cache_eq : ∀ tokens, line.cache = some tokens → tokens = line.freshTokens
  skipped_eq : line.skipped = skips line.settings line.startsInBlock line.endsInBlock

variable {line later last : Line} {lines laters : List Line}

theorem tokenized_tokenized (line : Line) : line.tokenized.tokenized = line.tokenized := rfl

/-- A cache that holds what would be computed anew makes no difference to the tokens. -/
theorem tokens_eq_of_cache_eq
    (hfresh : ∀ tokens, line.cache = some tokens → tokens = line.freshTokens) :
    line.tokens = line.freshTokens := by
  rw [tokens]
  cases hcache : line.cache with
  | none => rfl
  | some found => exact hfresh found hcache

theorem IsSound.tokens_eq (hsound : line.IsSound) : line.tokens = line.freshTokens :=
  tokens_eq_of_cache_eq hsound.cache_eq

namespace UpToCache

theorem refl (line : Line) : UpToCache line line := .inl rfl

theorem trans (hlater : UpToCache line later) (hlast : UpToCache later last) :
    UpToCache line last := by
  rcases hlater with rfl | rfl
  · exact hlast
  · exact .inr (hlast.elim id fun htwice => htwice.trans line.tokenized_tokenized)

/-- Whatever asking for tokens leaves alone is the same in both. -/
theorem congr (hlater : UpToCache line later) {α : Type} {view : Line → α}
    (hview : ∀ line : Line, view line.tokenized = view line) : view later = view line := by
  rcases hlater with rfl | rfl
  · rfl
  · exact hview line

theorem map_congr (hlaters : List.Forall₂ UpToCache lines laters) {α : Type} {view : Line → α}
    (hview : ∀ line : Line, view line.tokenized = view line) :
    laters.map view = lines.map view := by
  induction hlaters with
  | nil => rfl
  | cons hfirst _ ih => rw [List.map_cons, List.map_cons, hfirst.congr hview, ih]

theorem refl_all (lines : List Line) : List.Forall₂ UpToCache lines lines :=
  List.forall₂_same.mpr fun line _ => refl line

theorem trans_all {lasts : List Line} (hlaters : List.Forall₂ UpToCache lines laters)
    (hlasts : List.Forall₂ UpToCache laters lasts) : List.Forall₂ UpToCache lines lasts := by
  induction hlaters generalizing lasts with
  | nil => exact hlasts
  | cons hfirst _ ih =>
      cases hlasts with
      | cons hlast hothers => exact .cons (hfirst.trans hlast) (ih hothers)

theorem isSound (hlater : UpToCache line later) (hsound : line.IsSound) : later.IsSound := by
  rcases hlater with rfl | rfl
  · exact hsound
  · refine ⟨?_, hsound.skipped_eq⟩
    intro tokens hcache
    rw [← Option.some.inj hcache]
    exact hsound.tokens_eq

theorem isSound_all (hlaters : List.Forall₂ UpToCache lines laters)
    (hsound : ∀ line ∈ lines, line.IsSound) : ∀ later ∈ laters, later.IsSound := by
  induction hlaters with
  | nil => simp
  | cons hfirst _ ih =>
      obtain ⟨hline, hothers⟩ := List.forall_mem_cons.mp hsound
      exact List.forall_mem_cons.mpr ⟨hfirst.isSound hline, ih hothers⟩

end UpToCache

theorem tokens_of_not_skipped (hcache : line.cache = none)
    (hskipped : line.skipped = false) :
    line.tokens = tokenizeAt line.settings line.start line.text := by
  simp [tokens, freshTokens, hcache, hskipped]

/-- A line outside of blocks has the tokens of its text. -/
theorem IsSound.tokens_eq_of_closed (hsound : line.IsSound) (hstarts : line.startsInBlock = false)
    (hends : line.endsInBlock = false) :
    line.tokens = tokenizeAt line.settings line.start line.text := by
  have hskipped : line.skipped = false := by
    rw [hsound.skipped_eq, hstarts, hends, skips, Bool.or_false, Bool.and_false]
  rw [hsound.tokens_eq, freshTokens, hskipped, if_neg Bool.false_ne_true]

theorem isSound_physical (settings : Settings) (before : Option OpenBlock) (position : Position)
    (offset : Nat) (text : Text) : (physical settings before position offset text).IsSound :=
  ⟨fun _ hcache => (nomatch hcache), rfl⟩

end Cache

section Physicals

variable {settings : Settings} {before : Option OpenBlock} {position : Position} {offset : Nat}
  {texts : List Text}

/-- What holds of every physical line holds of consecutive ones. -/
theorem forall_mem_physicals {holds : Line → Prop}
    (hholds : ∀ before position offset text,
      holds (physical settings before position offset text)) :
    ∀ line ∈ physicals settings before position offset texts, holds line := by
  induction texts generalizing before position offset with
  | nil => simp [physicals]
  | cons text following ih => exact List.forall_mem_cons.mpr ⟨hholds _ _ _ _, ih⟩

end Physicals

section Merge

/-- What a merge takes over from its first line. -/
def beginning (line : Line) : Settings × Position × Nat × Bool :=
  (line.settings, line.start, line.offset, line.startsInBlock)

/-- What a merge takes over from its last line. -/
def ending (line : Line) : Position × Nat × Bool :=
  (line.final, line.stopOffset, line.endsInBlock)

/-- Number of physical lines that these lines are made of. -/
def totalSpan (lines : List Line) : Nat :=
  (lines.map span).foldr (· + ·) 0

/-- `unit` is one line made of the consecutive lines `lines`. Whether it is skipped is left open. -/
structure IsMerge (lines : List Line) (unit : Line) : Prop where
  text_eq : unit.text = (lines.map text).flatten
  span_eq : unit.span = totalSpan lines
  beginning_eq : (lines.map beginning).head? = some unit.beginning
  ending_eq : (lines.map ending).getLast? = some unit.ending

variable {line : Line} {lines laters following : List Line} {unit : Line}

theorem totalSpan_append (lines following : List Line) :
    totalSpan (lines ++ following) = totalSpan lines + totalSpan following := by
  induction lines with
  | nil => exact (Nat.zero_add _).symm
  | cons line others ih =>
      apply (congrArg (line.span + ·) ih).trans
      exact (Nat.add_assoc line.span (totalSpan others) (totalSpan following)).symm

theorem totalSpan_of_forall (hspan : ∀ line ∈ lines, line.span = 1) :
    totalSpan lines = lines.length := by
  induction lines with
  | nil => rfl
  | cons line others ih =>
      obtain ⟨hline, hothers⟩ := List.forall_mem_cons.mp hspan
      apply (congrArg (line.span + ·) (ih hothers)).trans
      rw [hline, List.length_cons, Nat.add_comm]

theorem isMerge_singleton (line : Line) : IsMerge [line] line where
  text_eq := (List.append_nil _).symm
  span_eq := rfl
  beginning_eq := rfl
  ending_eq := rfl

theorem IsMerge.concat (hmerge : IsMerge lines unit) (last : Line) :
    IsMerge (lines ++ [last]) (unit.merge last) where
  text_eq := by simp [hmerge.text_eq, merge]
  span_eq := by
    rw [totalSpan_append, ← hmerge.span_eq]
    rfl
  beginning_eq := by
    rw [List.map_append, List.head?_append, hmerge.beginning_eq]
    rfl
  ending_eq := by
    rw [List.map_append, List.getLast?_append]
    rfl

theorem isMerge_mergeAll (line : Line) (following : List Line) :
    IsMerge (line :: following) (line.mergeAll following) := by
  induction following using List.reverseRecOn with
  | nil => exact isMerge_singleton line
  | append_singleton following last ih =>
      rw [mergeAll_concat]
      exact ih.concat last

/-- A merge does not depend on what has been asked of the lines before. -/
theorem IsMerge.of_upToCache (hmerge : IsMerge laters unit)
    (hlaters : List.Forall₂ UpToCache lines laters) : IsMerge lines unit where
  text_eq := by
    rw [← UpToCache.map_congr hlaters fun _ => rfl]
    exact hmerge.text_eq
  span_eq := by
    rw [totalSpan, ← UpToCache.map_congr hlaters fun _ => rfl]
    exact hmerge.span_eq
  beginning_eq := by
    rw [← UpToCache.map_congr hlaters fun _ => rfl]
    exact hmerge.beginning_eq
  ending_eq := by
    rw [← UpToCache.map_congr hlaters fun _ => rfl]
    exact hmerge.ending_eq

theorem IsMerge.withSkipped (hmerge : IsMerge lines unit) (skipped : Bool) :
    IsMerge lines (unit.withSkipped skipped) :=
  ⟨hmerge.text_eq, hmerge.span_eq, hmerge.beginning_eq, hmerge.ending_eq⟩

theorem isMerge_joined (passed : List Line) (line : Line) :
    IsMerge (passed ++ [line]) (LineReader.joined passed line) := by
  cases passed with
  | nil => exact isMerge_singleton line
  | cons first following => exact isMerge_mergeAll first (following ++ [line])

theorem isSound_joined {passed : List Line} (hline : line.IsSound) :
    (LineReader.joined passed line).IsSound := by
  cases passed with
  | nil => exact hline
  | cons first following =>
      rw [LineReader.joined, mergeAll_concat]
      exact ⟨fun _ hcache => (nomatch hcache), rfl⟩

end Merge

section Seek

variable {σ : Type} {ask : σ → Line → Verdict σ} {state : σ} {line : Line} {lines : List Line}

/-- What a condition remembers after it has been asked about these lines in order. -/
def stateAfter (ask : σ → Line → Verdict σ) (state : σ) (lines : List Line) : σ :=
  lines.foldl (fun state line => (ask state line).state) state

/-- Asked about these lines in order, the condition holds of none. -/
def NoneHolds (ask : σ → Line → Verdict σ) (state : σ) (lines : List Line) : Prop :=
  ∀ front line behind, lines = front ++ line :: behind →
    (ask (stateAfter ask state front) line).holds = false

theorem noneHolds_nil : NoneHolds ask state [] := by
  intro front line behind hsplit
  simp at hsplit

theorem noneHolds_cons_iff :
    NoneHolds ask state (line :: lines) ↔
      (ask state line).holds = false ∧ NoneHolds ask (ask state line).state lines := by
  constructor
  · intro hnone
    refine ⟨hnone [] line lines rfl, ?_⟩
    intro front inner behind hsplit
    apply hnone (line :: front) inner behind
    rw [hsplit, List.cons_append]
  · intro hboth front inner behind hsplit
    rcases List.cons_eq_append_iff.mp hsplit with ⟨rfl, heq⟩ | ⟨tail, rfl, hlines⟩
    · rw [(List.cons.inj heq).1]
      exact hboth.1
    · exact hboth.2 tail inner behind hlines

/-- The merge takes the lines up to the first that satisfies the condition, or there is no such
line and all of them are given back. -/
theorem seek_cases (ask : σ → Line → Verdict σ) (state : σ) (passed lines : List Line) :
    (∃ front line following kept seen, lines = front ++ line :: following ∧
        NoneHolds ask state front ∧ (ask (stateAfter ask state front) line).holds ∧
        List.Forall₂ UpToCache front kept ∧ UpToCache line seen ∧
        seek ask state passed lines =
          (some (LineReader.joined (passed ++ kept) seen), stateAfter ask state (front ++ [line]),
            following)) ∨
      NoneHolds ask state lines ∧ ∃ kept, List.Forall₂ UpToCache lines kept ∧
        seek ask state passed lines = (none, stateAfter ask state lines, passed ++ kept) := by
  induction lines generalizing state passed with
  | nil => exact .inr ⟨noneHolds_nil, [], .nil, by simp [seek, stateAfter]⟩
  | cons line following ih =>
      have hseen :
          UpToCache line (if (ask state line).tokenizes then line.tokenized else line) := by
        split
        · exact .inr rfl
        · exact .inl rfl
      cases hholds : (ask state line).holds with
      | true =>
          refine .inl ⟨[], line, following, [], _, rfl, noneHolds_nil, hholds, .nil, hseen, ?_⟩
          simp [seek, hholds, stateAfter]
      | false =>
          rw [seek]
          simp only [hholds, Bool.false_eq_true, if_false]
          rcases ih (ask state line).state (passed ++ [_]) with
            ⟨front, last, rest, kept, seen, rfl, hnone, hlast, hkept, hlastSeen, hseek⟩ |
              ⟨hnone, kept, hkept, hseek⟩
          · refine .inl ⟨line :: front, last, rest, _ :: kept, seen, rfl,
              noneHolds_cons_iff.mpr ⟨hholds, hnone⟩, hlast, .cons hseen hkept, hlastSeen, ?_⟩
            rw [hseek, List.append_assoc]
            rfl
          · refine .inr ⟨noneHolds_cons_iff.mpr ⟨hholds, hnone⟩, _ :: kept, .cons hseen hkept, ?_⟩
            rw [hseek, List.append_assoc]
            rfl

end Seek

end BlockLexer.Line
