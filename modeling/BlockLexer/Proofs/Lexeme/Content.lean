import BlockLexer.Lexeme.Content
import BlockLexer.Proofs.Text.Lines

/-! # Where a content block ends

The end of a content block in terms of lines alone. A backtick may close the block if the line it
stands on is indented no deeper than the line of the opening backtick; a later line that is not
blank and is indented less ends the search. The block is decided at the first of these places, and
the three outcomes of the search say exactly which of them comes first, if any.
-/

namespace BlockLexer.Lexeme

/-- The line at the beginning of `text` may not stand inside a block opened on a line with
indentation `opener`. -/
def IsShallow (opener : Nat) (text : Text) : Prop :=
  Text.indentation text < opener ∧ ¬ Text.isBlank (Text.firstLine text)

theorem isShallow_nil {opener : Nat} : ¬ IsShallow opener [] := by
  intro hshallow
  exact hshallow.2 rfl

theorem isShallow_append_of_mem {opener : Nat} {text : Text} (hline : '\n' ∈ text) (rest : Text) :
    IsShallow opener (text ++ rest) ↔ IsShallow opener text := by
  rw [IsShallow, IsShallow, Text.indentation_append_of_mem hline,
    Text.firstLine_append_of_mem hline]

/-- A backtick is visible on its line. -/
theorem not_isBlank_append_backtick {text : Text} (hline : '\n' ∉ text) (rest : Text) :
    ¬ Text.isBlank (Text.firstLine (text ++ backtick :: rest)) := by
  intro hblank
  rw [Text.firstLine_append_of_notMem hline, Text.isBlank, List.all_append] at hblank
  have hlast := (Bool.and_eq_true_iff.mp hblank).2
  rw [Text.firstLine, List.takeWhile_cons_of_pos (by decide), List.all_cons] at hlast
  exact absurd (Bool.and_eq_true_iff.mp hlast).1 (by decide)

/-- Up to its first backtick a line shows whether it is shallow. -/
theorem isShallow_append_backtick {opener : Nat} (text rest rest' : Text) :
    IsShallow opener (text ++ backtick :: rest) ↔ IsShallow opener (text ++ backtick :: rest') := by
  by_cases hline : '\n' ∈ text
  · rw [isShallow_append_of_mem hline, isShallow_append_of_mem hline]
  · rw [IsShallow, IsShallow, Text.indentation_append_cons (by decide),
      Text.indentation_append_cons (by decide)]
    exact and_congr_right fun _ => iff_of_true (not_isBlank_append_backtick hline rest)
      (not_isBlank_append_backtick hline rest')

/-- No place in `text` decides a block opened on a line with indentation `opener`: neither a
backtick that closes it nor the end of a line before a shallow one. The text begins on a line with
indentation `current`, and `rest` follows it. -/
structure PassesOver (opener current : Nat) (text rest : Text) : Prop where
  backtick_deep : ∀ front after, text = front ++ backtick :: after →
    opener < Text.levelAfter current front (backtick :: (after ++ rest))
  line_not_shallow : ∀ front after, text = front ++ '\n' :: after →
    ¬ IsShallow opener (after ++ rest)

namespace PassesOver

theorem nil (opener current : Nat) (rest : Text) : PassesOver opener current [] rest where
  backtick_deep front after hsplit := by simp at hsplit
  line_not_shallow front after hsplit := by simp at hsplit

/-- A search goes on character by character. -/
theorem cons_iff {opener current : Nat} {c : Char} {text rest : Text} :
    PassesOver opener current (c :: text) rest ↔
      (c = backtick → opener < current) ∧ (c = '\n' → ¬ IsShallow opener (text ++ rest)) ∧
      PassesOver opener (if c = '\n' then Text.indentation (text ++ rest) else current) text
        rest := by
  have hlevel : ∀ front after, text = front ++ backtick :: after →
      Text.levelAfter current (c :: front) (backtick :: (after ++ rest)) =
        Text.levelAfter (if c = '\n' then Text.indentation (text ++ rest) else current) front
          (backtick :: (after ++ rest)) := by
    intro front after hsplit
    by_cases hc : c = '\n'
    · rw [hc, Text.levelAfter_cons_newline, if_pos rfl, hsplit, List.append_assoc,
        List.cons_append]
    · rw [Text.levelAfter_cons_of_ne hc, if_neg hc]
  constructor
  · intro hpasses
    refine ⟨?_, ?_, ⟨?_, ?_⟩⟩
    · intro hbacktick
      rw [hbacktick] at hpasses
      exact hpasses.backtick_deep [] text rfl
    · intro hline
      rw [hline] at hpasses
      exact hpasses.line_not_shallow [] text rfl
    · intro front after hsplit
      rw [← hlevel front after hsplit]
      apply hpasses.backtick_deep (c :: front) after
      rw [hsplit, List.cons_append]
    · intro front after hsplit
      apply hpasses.line_not_shallow (c :: front) after
      rw [hsplit, List.cons_append]
  · intro hparts
    obtain ⟨hbacktick, hline, htail⟩ := hparts
    refine ⟨?_, ?_⟩
    · intro front after hsplit
      rcases List.cons_eq_append_iff.mp hsplit with ⟨rfl, heq⟩ | ⟨front, rfl, htext⟩
      · exact hbacktick (List.cons.inj heq).1.symm
      · rw [hlevel front after htext]
        exact htail.backtick_deep front after htext
    · intro front after hsplit
      rcases List.cons_eq_append_iff.mp hsplit with ⟨rfl, heq⟩ | ⟨front, rfl, htext⟩
      · obtain ⟨hc, rfl⟩ := List.cons.inj heq
        exact hline hc.symm
      · exact htail.line_not_shallow front after htext

theorem append_iff {opener current : Nat} {front text rest : Text} :
    PassesOver opener current (front ++ text) rest ↔
      PassesOver opener current front (text ++ rest) ∧
        PassesOver opener (Text.levelAfter current front (text ++ rest)) text rest := by
  induction front generalizing current with
  | nil => exact (and_iff_right (nil opener current _)).symm
  | cons c tail ih =>
      have hlevel : Text.levelAfter current (c :: tail) (text ++ rest) =
          Text.levelAfter (if c = '\n' then Text.indentation (tail ++ (text ++ rest)) else current)
            tail (text ++ rest) := by
        by_cases hc : c = '\n'
        · rw [hc, Text.levelAfter_cons_newline, if_pos rfl]
        · rw [Text.levelAfter_cons_of_ne hc, if_neg hc]
      rw [List.cons_append, cons_iff, cons_iff, List.append_assoc, ih, hlevel, and_assoc, and_assoc]

/-- What follows matters only where it can make a line shallow. -/
theorem congr {opener current : Nat} {text rest rest' : Text}
    (hpasses : PassesOver opener current text rest)
    (hshallow : ∀ front after, text = front ++ '\n' :: after →
      IsShallow opener (after ++ rest') → IsShallow opener (after ++ rest)) :
    PassesOver opener current text rest' where
  backtick_deep front after hsplit := by
    rw [Text.levelAfter_cons_congr (by decide) current front _ (after ++ rest)]
    exact hpasses.backtick_deep front after hsplit
  line_not_shallow front after hsplit :=
    mt (hshallow front after hsplit) (hpasses.line_not_shallow front after hsplit)

theorem backtick_congr {opener current : Nat} {text rest : Text}
    (hpasses : PassesOver opener current text (backtick :: rest)) (rest' : Text) :
    PassesOver opener current text (backtick :: rest') :=
  hpasses.congr fun _ after _ => (isShallow_append_backtick after rest' rest).mp

/-- Whole lines that are passed over are passed over on their own. -/
theorem of_isWholeLines {opener current : Nat} {text rest : Text}
    (hpasses : PassesOver opener current text rest) (hwhole : Text.IsWholeLines text) :
    PassesOver opener current text [] := by
  apply hpasses.congr
  intro front after hsplit hshallow
  rw [List.append_nil] at hshallow
  have hafter : Text.IsWholeLines after := by
    rw [hsplit, ← List.singleton_append, ← List.append_assoc] at hwhole
    exact hwhole.of_append
  by_cases hnil : after = []
  · exact absurd (hnil ▸ hshallow) isShallow_nil
  · exact (isShallow_append_of_mem (hafter.newline_mem hnil) rest).mpr hshallow

end PassesOver

/-- What an outcome of the search says about the text behind the opening backtick. -/
def ContentEnd.Describes (opener current : Nat) (text : Text) : ContentEnd → Prop
  | .closed body rest =>
      text = body ++ backtick :: rest ∧ PassesOver opener current body (backtick :: rest) ∧
        Text.levelAfter current body (backtick :: rest) ≤ opener
  | .shallow lead line =>
      ∃ front after, text = front ++ '\n' :: after ∧
        PassesOver opener current front ('\n' :: after) ∧
        IsShallow opener after ∧ lead = front ++ ['\n'] ∧ line = Text.firstLine after
  | .never => PassesOver opener current text []

namespace ContentEnd

variable {opener current : Nat} {c : Char} {text : Text} {found : ContentEnd}

theorem describes_nil : found.Describes opener current [] ↔ found = .never := by
  cases found with
  | closed body rest => simp [Describes]
  | shallow lead line => simp [Describes]
  | never => simpa [Describes] using PassesOver.nil opener current []

theorem describes_shallow (hshallow : IsShallow opener text) :
    found.Describes opener current ('\n' :: text) ↔
      found = .shallow ['\n'] (Text.firstLine text) := by
  constructor
  · intro hfound
    cases found with
    | closed body rest =>
        obtain ⟨htext, hpasses, -⟩ := hfound
        rcases List.cons_eq_append_iff.mp htext with ⟨-, heq⟩ | ⟨tail, rfl, rfl⟩
        · exact absurd (List.cons.inj heq).1 (by decide)
        · exact absurd hshallow ((PassesOver.cons_iff.mp hpasses).2.1 rfl)
    | shallow lead line =>
        obtain ⟨front, after, htext, hpasses, -, rfl, rfl⟩ := hfound
        rcases List.cons_eq_append_iff.mp htext with ⟨rfl, heq⟩ | ⟨tail, rfl, rfl⟩
        · rw [(List.cons.inj heq).2]
          rfl
        · exact absurd hshallow ((PassesOver.cons_iff.mp hpasses).2.1 rfl)
    | never =>
        have hpasses := (PassesOver.cons_iff.mp hfound).2.1 rfl
        rw [List.append_nil] at hpasses
        exact absurd hshallow hpasses
  · intro heq
    rw [heq]
    exact ⟨[], text, rfl, PassesOver.nil _ _ _, hshallow, rfl, rfl⟩

theorem describes_closing (hlevel : current ≤ opener) :
    found.Describes opener current (backtick :: text) ↔ found = .closed [] text := by
  constructor
  · intro hfound
    cases found with
    | closed body rest =>
        obtain ⟨htext, hpasses, -⟩ := hfound
        rcases List.cons_eq_append_iff.mp htext with ⟨rfl, heq⟩ | ⟨tail, rfl, rfl⟩
        · rw [(List.cons.inj heq).2]
        · have hdeep := (PassesOver.cons_iff.mp hpasses).1 rfl
          omega
    | shallow lead line =>
        obtain ⟨front, after, htext, hpasses, -, rfl, rfl⟩ := hfound
        rcases List.cons_eq_append_iff.mp htext with ⟨rfl, heq⟩ | ⟨tail, rfl, rfl⟩
        · exact absurd (List.cons.inj heq).1 (by decide)
        · have hdeep := (PassesOver.cons_iff.mp hpasses).1 rfl
          omega
    | never =>
        have hdeep := (PassesOver.cons_iff.mp hfound).1 rfl
        omega
  · intro heq
    rw [heq]
    exact ⟨rfl, PassesOver.nil _ _ _, hlevel⟩

/-- At a character that decides nothing, the outcome is that of the search behind it. -/
theorem describes_push (hbacktick : c = backtick → opener < current)
    (hline : c = '\n' → ¬ IsShallow opener text) :
    found.Describes opener current (c :: text) ↔
      ∃ behind : ContentEnd,
        behind.Describes opener (if c = '\n' then Text.indentation text else current) text ∧
        found = behind.push c := by
  have hlevel : ∀ body rest, text = body ++ backtick :: rest →
      Text.levelAfter current (c :: body) (backtick :: rest) =
        Text.levelAfter (if c = '\n' then Text.indentation text else current) body
          (backtick :: rest) := by
    intro body rest hsplit
    by_cases hc : c = '\n'
    · rw [hc, Text.levelAfter_cons_newline, if_pos rfl, hsplit]
    · rw [Text.levelAfter_cons_of_ne hc, if_neg hc]
  constructor
  · intro hfound
    cases found with
    | closed body rest =>
        obtain ⟨htext, hpasses, hcloses⟩ := hfound
        rcases List.cons_eq_append_iff.mp htext with ⟨rfl, heq⟩ | ⟨tail, rfl, htail⟩
        · have hdeep := hbacktick (List.cons.inj heq).1.symm
          rw [Text.levelAfter_nil] at hcloses
          omega
        · refine ⟨.closed tail rest, ⟨htail, ?_, ?_⟩, rfl⟩
          · rw [htail]
            exact (PassesOver.cons_iff.mp hpasses).2.2
          · rwa [← hlevel tail rest htail]
    | shallow lead line =>
        obtain ⟨front, after, htext, hpasses, hshallow, rfl, rfl⟩ := hfound
        rcases List.cons_eq_append_iff.mp htext with ⟨rfl, heq⟩ | ⟨tail, rfl, htail⟩
        · obtain ⟨hc, rfl⟩ := List.cons.inj heq
          exact absurd hshallow (hline hc.symm)
        · refine ⟨.shallow (tail ++ ['\n']) (Text.firstLine after),
            ⟨tail, after, htail, ?_, hshallow, rfl, rfl⟩, rfl⟩
          rw [htail]
          exact (PassesOver.cons_iff.mp hpasses).2.2
    | never =>
        have hpasses := (PassesOver.cons_iff.mp hfound).2.2
        rw [List.append_nil] at hpasses
        exact ⟨.never, hpasses, rfl⟩
  · intro hexists
    obtain ⟨behind, hbehind, rfl⟩ := hexists
    cases behind with
    | closed body rest =>
        obtain ⟨htext, hpasses, hcloses⟩ := hbehind
        refine ⟨by rw [htext, List.cons_append], ?_, by rwa [hlevel body rest htext]⟩
        rw [PassesOver.cons_iff, ← htext]
        exact ⟨hbacktick, hline, hpasses⟩
    | shallow lead line =>
        obtain ⟨front, after, htext, hpasses, hshallow, rfl, rfl⟩ := hbehind
        refine ⟨c :: front, after, by rw [htext, List.cons_append], ?_, hshallow, rfl, rfl⟩
        rw [PassesOver.cons_iff, ← htext]
        exact ⟨hbacktick, hline, hpasses⟩
    | never =>
        rw [push, Describes, PassesOver.cons_iff, List.append_nil]
        exact ⟨hbacktick, hline, hbehind⟩

end ContentEnd

/-- The search returns the one outcome that describes the text. -/
theorem closeContent_eq_iff {opener current : Nat} {text : Text} {found : ContentEnd} :
    closeContent opener current text = found ↔ found.Describes opener current text := by
  -- `current` changes at each line feed; what is found grows by each character passed over.
  induction text generalizing current found with
  | nil =>
      rw [ContentEnd.describes_nil]
      exact eq_comm
  | cons c rest ih =>
      rw [closeContent]
      by_cases hc : c = '\n'
      · subst hc
        rw [if_pos rfl]
        by_cases hshallow : IsShallow opener rest
        · rw [if_pos (by exact hshallow), ContentEnd.describes_shallow hshallow]
          exact eq_comm
        · have hdeep : '\n' = backtick → opener < current := fun heq => absurd heq (by decide)
          rw [if_neg (by exact hshallow), ContentEnd.describes_push hdeep (fun _ => hshallow),
            if_pos rfl]
          simp only [← ih, exists_eq_left']
          exact eq_comm
      · rw [if_neg hc]
        by_cases hcloses : c = backtick ∧ current ≤ opener
        · obtain ⟨rfl, hlevel⟩ := hcloses
          rw [if_pos ⟨rfl, hlevel⟩, ContentEnd.describes_closing hlevel]
          exact eq_comm
        · have hdeep : c = backtick → opener < current := by
            intro hbacktick
            apply Nat.lt_of_not_le
            intro hlevel
            exact hcloses ⟨hbacktick, hlevel⟩
          rw [if_neg hcloses, ContentEnd.describes_push hdeep (fun hline => absurd hline hc),
            if_neg hc]
          simp only [← ih, exists_eq_left']
          exact eq_comm

/-- A block that is closed stays so, whatever is appended. -/
theorem closeContent_append_of_closed {opener current : Nat} {text body rest : Text}
    (hclosed : closeContent opener current text = .closed body rest) (more : Text) :
    closeContent opener current (text ++ more) = .closed body (rest ++ more) := by
  rw [closeContent_eq_iff] at hclosed ⊢
  obtain ⟨rfl, hpasses, hcloses⟩ := hclosed
  refine ⟨by rw [List.append_assoc]; rfl, hpasses.backtick_congr _, ?_⟩
  rwa [Text.levelAfter_cons_congr (by decide) current body _ rest]

/-- A shallow line that has ended is found, whatever is appended. -/
theorem closeContent_append_of_shallow {opener current : Nat} {text lead line : Text}
    (hwhole : Text.IsWholeLines text)
    (hfound : closeContent opener current text = .shallow lead line) (more : Text) :
    closeContent opener current (text ++ more) = .shallow lead line := by
  rw [closeContent_eq_iff] at hfound ⊢
  obtain ⟨front, after, rfl, hpasses, hshallow, rfl, rfl⟩ := hfound
  have hafter : Text.IsWholeLines after := by
    rw [← List.singleton_append, ← List.append_assoc] at hwhole
    exact hwhole.of_append
  have hline : '\n' ∈ after := by
    apply hafter.newline_mem
    intro hnil
    rw [hnil] at hshallow
    exact isShallow_nil hshallow
  refine ⟨front, after ++ more, by rw [List.append_assoc]; rfl, ?_,
    (isShallow_append_of_mem hline more).mpr hshallow, rfl, ?_⟩
  · apply hpasses.congr
    intro _ inner _ hinner
    rw [← List.singleton_append, ← List.append_assoc, isShallow_append_of_mem (by simp)] at hinner
    rw [← List.singleton_append, ← List.append_assoc, isShallow_append_of_mem (by simp)]
    exact hinner
  · exact (Text.firstLine_append_of_mem hline more).symm

end BlockLexer.Lexeme
