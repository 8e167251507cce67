import BlockLexer.Line.Basic
import BlockLexer.Proofs.Position
import BlockLexer.Proofs.Block.Follow

/-! # The physical lines of a text as lines

What a line knows about its place follows from the text in front of it: its position, its byte
offset and the block that is open there. Merging consecutive lines gives the line of their joined
text.
-/

namespace BlockLexer

namespace Line

/-- The physical line `text` at a place where the block `before` is open. -/
def physical (settings : Settings) (before : Option OpenBlock) (position : Position) (offset : Nat)
    (text : Text) : Line :=
  (single settings text position (position.after text.dropLast) offset
    (offset + Text.byteLength text)).withBlocks
      before.isSome (OpenBlock.afterLine before text).isSome

/-- Consecutive physical lines, the first of them at a place where the block `before` is open. -/
def physicals (settings : Settings) : Option OpenBlock → Position → Nat → List Text → List Line
  | _, _, _, [] => []
  | before, position, offset, text :: following =>
      physical settings before position offset text ::
        physicals settings (OpenBlock.afterLine before text) (position.after text)
          (offset + Text.byteLength text) following

section Physical

variable (settings : Settings) (before : Option OpenBlock) (position : Position) (offset : Nat)
  (text : Text)

@[simp]
theorem text_physical : (physical settings before position offset text).text = text := rfl

@[simp]
theorem span_physical : (physical settings before position offset text).span = 1 := rfl

@[simp]
theorem startsInBlock_physical :
    (physical settings before position offset text).startsInBlock = before.isSome := rfl

@[simp]
theorem endsInBlock_physical :
    (physical settings before position offset text).endsInBlock =
      (OpenBlock.afterLine before text).isSome := rfl

end Physical

section Physicals

variable {settings : Settings} {before : Option OpenBlock} {position : Position} {offset : Nat}
  {texts : List Text}

@[simp]
theorem length_physicals :
    (physicals settings before position offset texts).length = texts.length := by
  induction texts generalizing before position offset with
  | nil => rfl
  | cons text following ih => rw [physicals, List.length_cons, List.length_cons, ih]

/-- The lines behind others stand where the text of the others ends. -/
theorem physicals_append (texts following : List Text) :
    physicals settings before position offset (texts ++ following) =
      physicals settings before position offset texts ++
        physicals settings (texts.foldl OpenBlock.afterLine before)
          (position.after texts.flatten) (offset + Text.byteLength texts.flatten) following := by
  induction texts generalizing before position offset with
  | nil => rfl
  | cons text rest ih =>
      simp only [List.cons_append, physicals, ih, List.foldl_cons, List.flatten_cons,
        Position.after_append, Text.byteLength_append, Nat.add_assoc]

/-- Wherever the lines are divided, their texts are divided. -/
theorem exists_of_physicals_eq_append {front behind : List Line}
    (hsplit : physicals settings before position offset texts = front ++ behind) :
    ∃ frontTexts behindTexts : List Text, texts = frontTexts ++ behindTexts ∧
      front = physicals settings before position offset frontTexts ∧
      behind = physicals settings (frontTexts.foldl OpenBlock.afterLine before)
        (position.after frontTexts.flatten) (offset + Text.byteLength frontTexts.flatten)
        behindTexts := by
  -- One line for each text, so `front` is made of as many texts as it has lines.
  refine ⟨texts.take front.length, texts.drop front.length,
    (List.take_append_drop front.length texts).symm, ?_⟩
  have hlength := congrArg List.length hsplit
  rw [length_physicals, List.length_append] at hlength
  rw [← List.take_append_drop front.length texts, physicals_append] at hsplit
  obtain ⟨hfront, hbehind⟩ := List.append_inj hsplit.symm (by
    rw [length_physicals, List.length_take]
    omega)
  exact ⟨hfront, hbehind⟩

/-- What the first line is told about its place. -/
theorem of_head?_physicals {first : Line}
    (hfirst : (physicals settings before position offset texts).head? = some first) :
    first.startsInBlock = before.isSome ∧ first.start = position ∧ first.settings = settings ∧
      first.cache = none ∧
      first.skipped = skips settings first.startsInBlock first.endsInBlock := by
  cases texts with
  | nil => contradiction
  | cons text following =>
      obtain rfl := Option.some.inj hfirst
      exact ⟨rfl, rfl, rfl, rfl, rfl⟩

/-- The last line ends in a block if one is open after all lines. -/
theorem endsInBlock_of_getLast? {last : Line}
    (hlast : (physicals settings before position offset texts).getLast? = some last) :
    last.endsInBlock = (texts.foldl OpenBlock.afterLine before).isSome := by
  obtain ⟨front, hfront⟩ := List.getLast?_eq_some_iff.mp hlast
  obtain ⟨frontTexts, behindTexts, rfl, rfl, hbehind⟩ := exists_of_physicals_eq_append hfront
  cases behindTexts with
  | nil => contradiction
  | cons text following =>
      obtain ⟨rfl, hfollowing⟩ := List.cons.inj hbehind
      obtain rfl : following = [] := by
        cases following with
        | nil => rfl
        | cons _ _ => contradiction
      rw [List.foldl_append]
      rfl

end Physicals

section Merge

theorem mergeAll_concat (line last : Line) (following : List Line) :
    line.mergeAll (following ++ [last]) = (line.mergeAll following).merge last := by
  rw [mergeAll, List.foldl_append]
  rfl

theorem mergeAll_cons (line next : Line) (following : List Line) :
    line.mergeAll (next :: following) = (line.merge next).mergeAll following := rfl

@[simp]
theorem start_mergeAll (line : Line) (following : List Line) :
    (line.mergeAll following).start = line.start := by
  induction following generalizing line with
  | nil => rfl
  | cons next rest ih => exact ih (line.merge next)

@[simp]
theorem settings_mergeAll (line : Line) (following : List Line) :
    (line.mergeAll following).settings = line.settings := by
  induction following generalizing line with
  | nil => rfl
  | cons next rest ih => exact ih (line.merge next)

@[simp]
theorem startsInBlock_mergeAll (line : Line) (following : List Line) :
    (line.mergeAll following).startsInBlock = line.startsInBlock := by
  induction following generalizing line with
  | nil => rfl
  | cons next rest ih => exact ih (line.merge next)

theorem text_mergeAll (line : Line) (following : List Line) :
    (line.mergeAll following).text = line.text ++ (following.map Line.text).flatten := by
  induction following generalizing line with
  | nil => exact (List.append_nil _).symm
  | cons next rest ih =>
      rw [mergeAll_cons, ih, List.map_cons, List.flatten_cons, ← List.append_assoc]
      rfl

theorem map_text_physicals (settings : Settings) (before : Option OpenBlock) (position : Position)
    (offset : Nat) (texts : List Text) :
    (physicals settings before position offset texts).map Line.text = texts := by
  induction texts generalizing before position offset with
  | nil => rfl
  | cons text following ih => rw [physicals, List.map_cons, ih]; rfl

end Merge

end Line

end BlockLexer
