import BlockLexer.Proofs.Position

/-! # The order of positions

Whatever is read leads to a later position, so that the positions of a text are ordered as its
beginnings are by length. Main statement: a position counts the lines and columns of the text that
leads to it, and no two places of a text have the same position.
-/

namespace BlockLexer.Position

variable {position other : Position}

theorem lt_iff : position < other ↔
    position.line < other.line ∨ position.line = other.line ∧ position.column < other.column :=
  Iff.rfl

theorem lt_asymm (hlt : position < other) : ¬ other < position := by
  rw [lt_iff] at hlt ⊢
  omega

theorem lt_irrefl (position : Position) : ¬ position < position :=
  fun hlt => lt_asymm hlt hlt

/-- A text that is not empty leads to a later position: to a later line, or further in the same. -/
theorem lt_after {text : Text} (htext : text ≠ []) (position : Position) :
    position < position.after text := by
  by_cases hline : '\n' ∈ text
  · left
    have hcount := List.count_pos_iff.mpr hline
    rw [line_after]
    omega
  · right
    have hlength := List.length_pos_iff.mpr htext
    rw [after_of_notMem hline]
    exact ⟨rfl, Nat.lt_add_of_pos_right hlength⟩

section Prefix

variable {text front behind : Text}

theorem not_after_lt_of_isPrefix (hfront : front <+: behind) (base : Position) :
    ¬ base.after behind < base.after front := by
  obtain ⟨between, rfl⟩ := hfront
  rw [after_append]
  rcases eq_or_ne between [] with rfl | hbetween
  · exact lt_irrefl _
  · exact lt_asymm (lt_after hbetween _)

/-- Of two beginnings of a text the shorter leads to the earlier position. -/
theorem after_lt_after_iff (hfront : front <+: text) (hbehind : behind <+: text)
    (base : Position) : base.after front < base.after behind ↔ front.length < behind.length := by
  constructor
  · intro hlt
    by_contra hlength
    have hprefix := List.prefix_of_prefix_length_le hbehind hfront (Nat.le_of_not_lt hlength)
    exact not_after_lt_of_isPrefix hprefix base hlt
  · intro hlength
    obtain ⟨between, rfl⟩ := List.prefix_of_prefix_length_le hfront hbehind hlength.le
    have hbetween : between ≠ [] := by
      rintro rfl
      rw [List.append_nil] at hlength
      exact Nat.lt_irrefl _ hlength
    rw [after_append]
    exact lt_after hbetween _

/-- Beginnings of one text are told apart by their lengths. -/
theorem length_eq_length_iff (hfront : front <+: text) (hbehind : behind <+: text) :
    front.length = behind.length ↔ front = behind := by
  constructor
  · intro hlength
    exact (List.prefix_of_prefix_length_le hfront hbehind hlength.le).eq_of_length hlength
  · exact congrArg List.length

/-- A position tells which beginning of a text leads to it. -/
theorem after_eq_after_iff (hfront : front <+: text) (hbehind : behind <+: text)
    (base : Position) : base.after front = base.after behind ↔ front = behind := by
  constructor
  · intro heq
    rw [← length_eq_length_iff hfront hbehind]
    apply Nat.le_antisymm
    · rw [← Nat.not_lt, ← after_lt_after_iff hbehind hfront base, heq]
      exact lt_irrefl _
    · rw [← Nat.not_lt, ← after_lt_after_iff hfront hbehind base, heq]
      exact lt_irrefl _
  · exact congrArg base.after

theorem compare_after (hfront : front <+: text) (hbehind : behind <+: text) (base : Position) :
    compare (base.after front) (base.after behind) = compare front.length behind.length := by
  simp only [compare, compareOfLessAndEq, after_lt_after_iff hfront hbehind base,
    after_eq_after_iff hfront hbehind base, length_eq_length_iff hfront hbehind]

end Prefix

/-- A position moves through a text piece by piece. Its line counts the line feeds, and its column
the characters behind the last of them, or goes on counting where there is none. Of two places in a
text the one behind fewer characters has the smaller position, and different places have different
positions. -/
theorem after_orders_prefixes (base : Position) :
    (∀ front text, base.after (front ++ text) = (base.after front).after text) ∧
      (∀ text, (base.after text).line = base.line + text.count '\n' ∧
        (base.after text).column =
          if '\n' ∈ text then (Text.lastLine text).length else base.column + text.length) ∧
      ∀ text front behind, front <+: text → behind <+: text →
        (base.after front < base.after behind ↔ front.length < behind.length) ∧
          compare (base.after front) (base.after behind) = compare front.length behind.length ∧
          (base.after front = base.after behind ↔ front = behind) := by
  refine ⟨base.after_append, ?_, ?_⟩
  · intro text
    refine ⟨base.line_after text, ?_⟩
    split
    · next hline => exact column_after_of_mem hline base
    · next hline => rw [after_of_notMem hline]
  · intro text front behind hfront hbehind
    exact ⟨after_lt_after_iff hfront hbehind base, compare_after hfront hbehind base,
      after_eq_after_iff hfront hbehind base⟩

/-- A place on the next line comes later, though its column is smaller. -/
theorem after_line_feed_later :
    let text : Text := ['é', 'a', '\n', 'b', 'c']
    let front : Text := ['é', 'a']
    let behind : Text := ['é', 'a', '\n', 'b']
    front <+: text ∧ behind <+: text ∧ (⟨3, 5⟩ : Position).after front = ⟨3, 7⟩ ∧
      (⟨3, 5⟩ : Position).after behind = ⟨4, 1⟩ ∧ (⟨3, 7⟩ : Position) < ⟨4, 1⟩ ∧
      compare (⟨3, 7⟩ : Position) ⟨4, 1⟩ = .lt := by
  intro text front behind
  have hfront : front <+: text := ⟨['\n', 'b', 'c'], rfl⟩
  have hbehind : behind <+: text := ⟨['c'], rfl⟩
  obtain ⟨-, -, hplaces⟩ := after_orders_prefixes ⟨3, 5⟩
  obtain ⟨hlt, hcompare, -⟩ := hplaces text front behind hfront hbehind
  exact ⟨hfront, hbehind, rfl, rfl, hlt.mpr (by decide), hcompare⟩

end BlockLexer.Position
