import Mathlib.Data.List.TakeWhile
import BlockLexer.Text

/-! # Physical lines of a text

A text is the concatenation of its physical lines. The functions that look at one line (its blank
check, its indentation) see the same whether the line feed and the following lines are there or
not. `Text.levelAfter` follows the indentation of the current line through a piece of text.
-/

namespace BlockLexer.Text

/-- The first physical line, with the line feed that ends it. -/
def physicalLine : Text → Text
  | [] => []
  | c :: rest => if c = '\n' then [c] else c :: physicalLine rest

/-- The text behind the first physical line. -/
def behindLine : Text → Text
  | [] => []
  | c :: rest => if c = '\n' then rest else behindLine rest

/-- The physical lines of a text, in order. -/
def lines : Text → List Text
  | [] => []
  | c :: rest =>
      if c = '\n' then [c] :: lines rest
      else
        match lines rest with
        | [] => [[c]]
        | line :: following => (c :: line) :: following

/-- The text is empty or ends in a line feed. -/
def IsWholeLines (text : Text) : Prop :=
  ∀ c, text.getLast? = some c → c = '\n'

/-- Indentation of the line reached behind `text`, when `text` begins on a line with indentation
`level` and `rest` follows it. -/
def levelAfter (level : Nat) (text rest : Text) : Nat :=
  if '\n' ∈ text then indentation (lastLine text ++ rest) else level

/-- The line on which the place between `before` and `after` lies. -/
def lineAround (before after : Text) : Text :=
  lastLine before ++ firstLine after

section PhysicalLine

theorem byteLength_append (front text : Text) :
    byteLength (front ++ text) = byteLength front + byteLength text := by
  induction front with
  | nil => exact (Nat.zero_add _).symm
  | cons c rest ih =>
      rw [List.cons_append, byteLength, byteLength, ih]
      exact (Nat.add_assoc _ _ _).symm

/-- Only the empty text has no physical line. -/
theorem physicalLine_eq_nil_iff {text : Text} : physicalLine text = [] ↔ text = [] := by
  cases text with
  | nil => simp [physicalLine]
  | cons c rest => simp only [physicalLine]; split <;> simp

@[simp]
theorem physicalLine_newline (rest : Text) : physicalLine ('\n' :: rest) = ['\n'] := rfl

@[simp]
theorem behindLine_newline (rest : Text) : behindLine ('\n' :: rest) = rest := rfl

@[simp]
theorem head?_physicalLine (text : Text) : (physicalLine text).head? = text.head? := by
  cases text with
  | nil => rfl
  | cons c rest =>
      rw [physicalLine]
      split <;> rfl

theorem physicalLine_append_behindLine (text : Text) :
    physicalLine text ++ behindLine text = text := by
  induction text with
  | nil => rfl
  | cons c rest ih =>
      by_cases hc : c = '\n'
      · simp [hc]
      · simp [physicalLine, behindLine, hc, ih]

theorem physicalLine_append {text : Text} (hline : '\n' ∉ text) (rest : Text) :
    physicalLine (text ++ rest) = text ++ physicalLine rest := by
  induction text with
  | nil => rfl
  | cons c tail ih =>
      obtain ⟨hc, htail⟩ := List.ne_and_not_mem_of_not_mem_cons hline
      simp [physicalLine, Ne.symm hc, ih htail]

theorem behindLine_append {text : Text} (hline : '\n' ∉ text) (rest : Text) :
    behindLine (text ++ rest) = behindLine rest := by
  induction text with
  | nil => rfl
  | cons c tail ih =>
      obtain ⟨hc, htail⟩ := List.ne_and_not_mem_of_not_mem_cons hline
      simp [behindLine, Ne.symm hc, ih htail]

theorem take_length_physicalLine (text : Text) :
    text.take (physicalLine text).length = physicalLine text := by
  have hleft := @List.take_left Char (physicalLine text) (behindLine text)
  rwa [physicalLine_append_behindLine] at hleft

theorem drop_length_physicalLine (text : Text) :
    text.drop (physicalLine text).length = behindLine text := by
  have hleft := @List.drop_left Char (physicalLine text) (behindLine text)
  rwa [physicalLine_append_behindLine] at hleft

/-- The line feed that ends a physical line hides nothing from the indentation. -/
@[simp]
theorem indentation_physicalLine (text : Text) :
    indentation (physicalLine text) = indentation text := by
  induction text with
  | nil => rfl
  | cons c rest ih =>
      by_cases hc : c = '\n'
      · subst hc
        rfl
      · by_cases htab : c = '\t'
        · simpa [physicalLine, hc, indentation, htab] using ih
        · simp [physicalLine, hc, indentation, htab]

theorem isBlank_physicalLine (text : Text) :
    isBlank (physicalLine text) = isBlank (firstLine text) := by
  induction text with
  | nil => rfl
  | cons c rest ih =>
      by_cases hc : c = '\n'
      · subst hc
        rfl
      · simp only [isBlank, firstLine] at ih
        simp [physicalLine, hc, isBlank, firstLine, ih]

end PhysicalLine

section Lines

@[simp]
theorem lines_nil : lines [] = [] := rfl

/-- The lines of a text are its first physical line and the lines behind it. -/
theorem lines_eq_cons {text : Text} (htext : text ≠ []) :
    lines text = physicalLine text :: lines (behindLine text) := by
  induction text with
  | nil => contradiction
  | cons c rest ih =>
      by_cases hc : c = '\n'
      · simp [lines, hc]
      · cases rest with
        | nil => simp [lines, physicalLine, behindLine, hc]
        | cons d tail =>
            rw [lines, if_neg hc, ih (List.cons_ne_nil d tail)]
            simp [physicalLine, behindLine, hc]

theorem flatten_lines (text : Text) : (lines text).flatten = text := by
  induction text with
  | nil => rfl
  | cons c rest ih =>
      by_cases hc : c = '\n'
      · simp [lines, hc, ih]
      · cases hlines : lines rest with
        | nil => simp_all [lines]
        | cons line following => simp_all [lines]

theorem length_lines_le (text : Text) : (lines text).length ≤ text.length := by
  induction text with
  | nil => exact Nat.le_refl 0
  | cons c rest ih =>
      by_cases hc : c = '\n'
      · simp only [lines, hc, if_true, List.length_cons]
        omega
      · cases hlines : lines rest with
        | nil => simp [lines, hc, hlines]
        | cons line following =>
            rw [hlines] at ih
            simp only [lines, hc, if_false, hlines, List.length_cons] at ih ⊢
            omega

theorem ne_nil_of_mem_lines {text line : Text} (hline : line ∈ lines text) : line ≠ [] := by
  induction text generalizing line with
  | nil => simp at hline
  | cons c rest ih =>
      by_cases hc : c = '\n'
      · simp only [lines, hc, if_true, List.mem_cons] at hline
        rcases hline with rfl | hline
        · simp
        · exact ih hline
      · -- `c` joins the first line behind it, if there is one.
        cases hlines : lines rest with
        | nil => simp_all [lines]
        | cons first following =>
            simp only [lines, hc, if_false, hlines, List.mem_cons] at hline
            rcases hline with rfl | hline
            · simp
            · apply ih
              simp [hlines, hline]

/-- A line feed can only be the last character of a line. -/
theorem newline_notMem_dropLast {text line : Text} (hline : line ∈ lines text) :
    '\n' ∉ line.dropLast := by
  induction text generalizing line with
  | nil => simp at hline
  | cons c rest ih =>
      by_cases hc : c = '\n'
      · simp only [lines, hc, if_true, List.mem_cons] at hline
        rcases hline with rfl | hline
        · simp
        · exact ih hline
      · cases hlines : lines rest with
        | nil => simp_all [lines]
        | cons first following =>
            have hfirst : first ∈ lines rest := by simp [hlines]
            simp only [lines, hc, if_false, hlines, List.mem_cons] at hline
            rcases hline with rfl | hline
            · rw [List.dropLast_cons_of_ne_nil (ne_nil_of_mem_lines hfirst), List.mem_cons, not_or]
              exact ⟨Ne.symm hc, ih hfirst⟩
            · apply ih
              simp [hlines, hline]

end Lines

section IsWholeLines

theorem isWholeLines_nil : IsWholeLines [] := by
  intro c hlast
  simp at hlast

theorem isWholeLines_concat (text : Text) : IsWholeLines (text ++ ['\n']) := by
  intro c hlast
  simpa using hlast.symm

theorem IsWholeLines.of_append {front text : Text} (hwhole : IsWholeLines (front ++ text)) :
    IsWholeLines text := by
  intro c hlast
  apply hwhole
  rw [List.getLast?_append, hlast]
  rfl

theorem IsWholeLines.append {front text : Text} (hfront : IsWholeLines front)
    (htext : IsWholeLines text) : IsWholeLines (front ++ text) := by
  intro c hlast
  rw [List.getLast?_append, Option.or_eq_some_iff] at hlast
  rcases hlast with hlast | ⟨-, hlast⟩
  · exact htext c hlast
  · exact hfront c hlast

theorem IsWholeLines.newline_mem {text : Text} (hwhole : IsWholeLines text) (htext : text ≠ []) :
    '\n' ∈ text := by
  have hlast := List.getLast?_eq_some_getLast htext
  rw [← hwhole _ hlast]
  exact List.getLast_mem htext

theorem IsWholeLines.exists_concat {text : Text} (hwhole : IsWholeLines text)
    (htext : text ≠ []) : ∃ front, text = front ++ ['\n'] := by
  refine ⟨text.dropLast, ?_⟩
  have hlast := hwhole _ (List.getLast?_eq_some_getLast htext)
  rw [← hlast, List.dropLast_concat_getLast]

/-- Whole lines that begin a delimited text end within it. -/
theorem IsWholeLines.exists_of_append_eq {front inner lead body back : Text}
    (hwhole : IsWholeLines front) (hfront : front ≠ []) (hlead : '\n' ∉ lead) (hback : '\n' ∉ back)
    (happend : front ++ inner = lead ++ body ++ back) :
    ∃ start more, front = lead ++ start ∧ body = start ++ more := by
  have hline := hwhole.newline_mem hfront
  rw [List.append_assoc] at happend
  rcases List.append_eq_append_iff.mp happend with ⟨more, rfl, -⟩ | ⟨start, rfl, htail⟩
  · exact absurd (List.mem_append_left more hline) hlead
  rcases List.append_eq_append_iff.mp htail with ⟨more, rfl, rfl⟩ | ⟨more, rfl, -⟩
  · -- The front cannot reach into `back`, which holds no line end for it.
    have hmore : more = [] := by
      by_contra hne
      apply hback
      exact List.mem_append_left inner (hwhole.of_append.of_append.newline_mem hne)
    exact ⟨_, [], rfl, by rw [hmore, List.append_nil, List.append_nil]⟩
  · exact ⟨start, more, rfl, rfl⟩

/-- A physical line with something behind it ends in a line feed. -/
theorem isWholeLines_physicalLine {text : Text} (hbehind : behindLine text ≠ []) :
    IsWholeLines (physicalLine text) := by
  induction text with
  | nil => exact isWholeLines_nil
  | cons c rest ih =>
      by_cases hc : c = '\n'
      · rw [hc]
        exact isWholeLines_concat []
      · simp only [behindLine, hc, if_false] at hbehind
        have hrest := ih hbehind
        have hline : physicalLine rest ≠ [] := by
          rw [Ne, physicalLine_eq_nil_iff]
          intro hnil
          rw [hnil] at hbehind
          contradiction
        intro last hlast
        simp only [physicalLine, hc, if_false] at hlast
        rw [List.getLast?_cons_of_ne_nil hline] at hlast
        exact hrest last hlast

theorem lines_physicalLine {text : Text} (htext : text ≠ []) :
    lines (physicalLine text) = [physicalLine text] := by
  induction text with
  | nil => contradiction
  | cons c rest ih =>
      by_cases hc : c = '\n'
      · simp [lines, hc]
      · cases rest with
        | nil => simp [lines, physicalLine, hc]
        | cons d tail =>
            have htail := ih (List.cons_ne_nil d tail)
            simp only [physicalLine, hc, if_false, lines] at htail ⊢
            rw [htail]

/-- Cutting into lines at a line end cuts both parts as if they stood alone. -/
theorem lines_append {front : Text} (hfront : IsWholeLines front) (text : Text) :
    lines (front ++ text) = lines front ++ lines text := by
  induction front with
  | nil => rfl
  | cons c rest ih =>
      have htail := ih (@IsWholeLines.of_append [c] rest hfront)
      by_cases hc : c = '\n'
      · simp [lines, hc, htail]
      · cases rest with
        | nil => exact absurd (hfront c rfl) hc
        | cons d tail =>
            rw [List.cons_append, lines, if_neg hc, htail, lines_eq_cons (List.cons_ne_nil c _),
              lines_eq_cons (List.cons_ne_nil d tail)]
            simp [physicalLine, behindLine, hc]

/-- Wherever the lines of a text are divided, both parts are the lines of a text. -/
theorem lines_flatten_of_append {text : Text} {front behind : List Text}
    (hlines : lines text = front ++ behind) :
    lines front.flatten = front ∧ lines behind.flatten = behind ∧
      (behind ≠ [] → IsWholeLines front.flatten) := by
  induction front generalizing text with
  | nil =>
      rw [List.nil_append] at hlines
      rw [← hlines, flatten_lines]
      exact ⟨rfl, rfl, fun _ => isWholeLines_nil⟩
  | cons line following ih =>
      have htext : text ≠ [] := by
        intro hnil
        rw [hnil] at hlines
        contradiction
      rw [lines_eq_cons htext, List.cons_append] at hlines
      obtain ⟨rfl, htail⟩ := List.cons.inj hlines
      obtain ⟨hfollowing, hbehind, hwhole⟩ := ih htail
      rw [List.flatten_cons]
      -- Only a line that is not the last one is sure to end in a line feed.
      by_cases hlast : behindLine text = []
      · rw [hlast, lines_nil, eq_comm, List.append_eq_nil_iff] at htail
        rw [htail.1, htail.2]
        refine ⟨?_, rfl, fun hne => absurd rfl hne⟩
        rw [List.flatten_nil, List.append_nil]
        exact lines_physicalLine htext
      · have hline := isWholeLines_physicalLine hlast
        rw [lines_append hline, lines_physicalLine htext, hfollowing]
        exact ⟨rfl, hbehind, fun hne => hline.append (hwhole hne)⟩

end IsWholeLines

section Indentation

theorem indentation_cons_of_ne {c : Char} (hc : c ≠ '\t') (rest : Text) :
    indentation (c :: rest) = 0 := by
  simp [indentation, hc]

/-- What follows a character other than a tab does not indent. -/
theorem indentation_append_cons {c : Char} (hc : c ≠ '\t') (text rest : Text) :
    indentation (text ++ c :: rest) = indentation text := by
  induction text with
  | nil => exact indentation_cons_of_ne hc rest
  | cons d tail ih =>
      by_cases hd : d = '\t'
      · simpa [indentation, hd] using ih
      · simp [indentation, hd]

theorem indentation_append_firstLine (text rest : Text) :
    indentation (text ++ firstLine rest) = indentation (text ++ rest) := by
  induction text with
  | nil =>
      rw [List.nil_append, List.nil_append]
      induction rest with
      | nil => rfl
      | cons c tail ih =>
          by_cases hc : c = '\t'
          · simpa [indentation, firstLine, hc] using ih
          · by_cases hline : c = '\n'
            · simp [indentation, firstLine, hline]
            · simp [indentation, firstLine, hc, hline]
  | cons d tail ih =>
      by_cases hd : d = '\t'
      · simpa [indentation, hd] using ih
      · simp [indentation, hd]

theorem indentation_append_of_mem {text : Text} (hline : '\n' ∈ text) (rest : Text) :
    indentation (text ++ rest) = indentation text := by
  obtain ⟨front, after, rfl⟩ := List.append_of_mem hline
  rw [List.append_assoc, List.cons_append, indentation_append_cons (by decide),
    indentation_append_cons (by decide)]

theorem firstLine_append_of_mem {text : Text} (hline : '\n' ∈ text) (rest : Text) :
    firstLine (text ++ rest) = firstLine text := by
  induction text with
  | nil => simp at hline
  | cons c tail ih =>
      by_cases hc : c = '\n'
      · simp [firstLine, hc]
      · have htail := ih ((List.mem_cons.mp hline).resolve_left (Ne.symm hc))
        simpa [firstLine, hc] using htail

theorem firstLine_append_of_notMem {text : Text} (hline : '\n' ∉ text) (rest : Text) :
    firstLine (text ++ rest) = text ++ firstLine rest := by
  apply List.takeWhile_append_of_pos
  intro c hc
  rw [decide_eq_true_eq]
  intro heq
  rw [heq] at hc
  exact hline hc

theorem afterFirstLine?_newline (rest : Text) : afterFirstLine? ('\n' :: rest) = some rest := rfl

theorem afterFirstLine?_cons_of_ne {c : Char} (hc : c ≠ '\n') (rest : Text) :
    afterFirstLine? (c :: rest) = afterFirstLine? rest := by
  rw [afterFirstLine?, List.dropWhile_cons_of_pos (by simpa using hc)]
  rfl

theorem afterFirstLine?_eq_none_iff {text : Text} : afterFirstLine? text = none ↔ '\n' ∉ text := by
  induction text with
  | nil => simp [afterFirstLine?]
  | cons c rest ih =>
      by_cases hc : c = '\n'
      · rw [hc, afterFirstLine?_newline]
        simp
      · rw [afterFirstLine?_cons_of_ne hc, ih]
        simp [Ne.symm hc]

/-- The first line feed stands between the first line and the rest. -/
theorem eq_of_afterFirstLine? {text after : Text} (hafter : afterFirstLine? text = some after) :
    text = firstLine text ++ '\n' :: after := by
  induction text with
  | nil => simp [afterFirstLine?] at hafter
  | cons c rest ih =>
      by_cases hc : c = '\n'
      · rw [hc, afterFirstLine?_newline] at hafter
        rw [hc, Option.some.inj hafter]
        rfl
      · rw [afterFirstLine?_cons_of_ne hc] at hafter
        rw [firstLine, List.takeWhile_cons_of_pos (by simpa using hc), List.cons_append]
        exact congrArg (c :: ·) (ih hafter)

theorem afterFirstLine?_append_newline {line : Text} (hline : '\n' ∉ line) (rest : Text) :
    afterFirstLine? (line ++ '\n' :: rest) = some rest := by
  induction line with
  | nil => rfl
  | cons c tail ih =>
      have hc := List.ne_of_not_mem_cons hline
      have htail := List.not_mem_of_not_mem_cons hline
      rw [List.cons_append, afterFirstLine?_cons_of_ne (Ne.symm hc), ih htail]

theorem newline_notMem_firstLine (text : Text) : '\n' ∉ firstLine text := by
  intro hline
  simpa using List.mem_takeWhile_imp hline

theorem lastLine_append_of_mem {text : Text} (hline : '\n' ∈ text) (front : Text) :
    lastLine (front ++ text) = lastLine text := by
  have hreverse : '\n' ∈ text.reverse := List.mem_reverse.mpr hline
  have hfirst := firstLine_append_of_mem hreverse front.reverse
  rw [← List.reverse_append] at hfirst
  exact congrArg List.reverse hfirst

theorem lastLine_append_of_notMem {text : Text} (hline : '\n' ∉ text) (front : Text) :
    lastLine (front ++ text) = lastLine front ++ text := by
  have hreverse : '\n' ∉ text.reverse := mt List.mem_reverse.mp hline
  have hfirst := firstLine_append_of_notMem hreverse front.reverse
  rw [lastLine, List.reverse_append]
  have hlast := congrArg List.reverse hfirst
  rwa [List.reverse_append, List.reverse_reverse] at hlast

theorem lastLine_of_isWholeLines {text : Text} (hwhole : IsWholeLines text) :
    lastLine text = [] := by
  by_cases htext : text = []
  · rw [htext]
    rfl
  · obtain ⟨front, rfl⟩ := hwhole.exists_concat htext
    rw [lastLine_append_of_mem (List.mem_singleton.mpr rfl)]
    rfl

theorem newline_notMem_lastLine (text : Text) : '\n' ∉ lastLine text :=
  mt List.mem_reverse.mp (newline_notMem_firstLine text.reverse)

/-- The last line feed stands in front of the last line. -/
theorem exists_eq_append_lastLine {text : Text} (hline : '\n' ∈ text) :
    ∃ front, text = front ++ '\n' :: lastLine text := by
  cases hafter : afterFirstLine? text.reverse with
  | none =>
      have hnone := afterFirstLine?_eq_none_iff.mp hafter
      exact absurd (List.mem_reverse.mpr hline) hnone
  | some after =>
      refine ⟨after.reverse, ?_⟩
      have hreverse := congrArg List.reverse (eq_of_afterFirstLine? hafter)
      simpa [lastLine, firstLine] using hreverse

/-- Whole lines stand in front of the last line. -/
theorem exists_isWholeLines_append_lastLine (text : Text) :
    ∃ front, IsWholeLines front ∧ text = front ++ lastLine text := by
  by_cases hline : '\n' ∈ text
  · obtain ⟨front, hfront⟩ := exists_eq_append_lastLine hline
    exact ⟨front ++ ['\n'], isWholeLines_concat front, by simpa using hfront⟩
  · exact ⟨[], isWholeLines_nil, (lastLine_append_of_notMem hline []).symm⟩

end Indentation

section LevelAfter

@[simp]
theorem levelAfter_nil (level : Nat) (rest : Text) : levelAfter level [] rest = level := rfl

theorem levelAfter_of_notMem {text : Text} (hline : '\n' ∉ text) (level : Nat) (rest : Text) :
    levelAfter level text rest = level :=
  if_neg hline

theorem levelAfter_of_mem {text : Text} (hline : '\n' ∈ text) (level : Nat) (rest : Text) :
    levelAfter level text rest = indentation (lastLine text ++ rest) :=
  if_pos hline

/-- The indentation is followed piece by piece. -/
theorem levelAfter_append (level : Nat) (front text rest : Text) :
    levelAfter level (front ++ text) rest =
      levelAfter (levelAfter level front (text ++ rest)) text rest := by
  by_cases htext : '\n' ∈ text
  · rw [levelAfter_of_mem htext, levelAfter_of_mem (List.mem_append_right front htext),
      lastLine_append_of_mem htext]
  · rw [levelAfter_of_notMem htext]
    by_cases hfront : '\n' ∈ front
    · rw [levelAfter_of_mem (List.mem_append_left text hfront), levelAfter_of_mem hfront,
        lastLine_append_of_notMem htext, List.append_assoc]
    · have hboth : '\n' ∉ front ++ text := by simp [hfront, htext]
      rw [levelAfter_of_notMem hboth, levelAfter_of_notMem hfront]

theorem levelAfter_cons_newline (level : Nat) (text rest : Text) :
    levelAfter level ('\n' :: text) rest = levelAfter (indentation (text ++ rest)) text rest :=
  levelAfter_append level ['\n'] text rest

theorem levelAfter_cons_of_ne {c : Char} (hc : c ≠ '\n') (level : Nat) (text rest : Text) :
    levelAfter level (c :: text) rest = levelAfter level text rest := by
  have happend := levelAfter_append level [c] text rest
  rwa [levelAfter_of_notMem (mt List.mem_singleton.mp hc.symm), List.singleton_append] at happend

theorem levelAfter_delimited {front back : Text} (hfront : '\n' ∉ front) (hback : '\n' ∉ back)
    (level : Nat) (text rest : Text) :
    levelAfter level (front ++ text ++ back) rest = levelAfter level text (back ++ rest) := by
  rw [levelAfter_append, levelAfter_of_notMem hback, levelAfter_append, levelAfter_of_notMem hfront]

theorem levelAfter_of_isWholeLines {text : Text} (hwhole : IsWholeLines text) (htext : text ≠ [])
    (level : Nat) (rest : Text) : levelAfter level text rest = indentation rest := by
  rw [levelAfter_of_mem (hwhole.newline_mem htext), lastLine_of_isWholeLines hwhole,
    List.nil_append]

theorem indentation_lineAround (before after : Text) :
    indentation (lineAround before after) = indentation (lastLine before ++ after) :=
  indentation_append_firstLine (lastLine before) after

/-- Followed from one place to another, it is the indentation of the line of the second place. -/
theorem levelAfter_lineAround (before text rest : Text) :
    levelAfter (indentation (lineAround before (text ++ rest))) text rest =
      indentation (lineAround (before ++ text) rest) := by
  rw [indentation_lineAround, indentation_lineAround]
  by_cases hline : '\n' ∈ text
  · rw [levelAfter_of_mem hline, lastLine_append_of_mem hline]
  · rw [levelAfter_of_notMem hline, lastLine_append_of_notMem hline, List.append_assoc]

/-- Only the tabs that end a text can be continued by what follows. -/
theorem levelAfter_cons_congr {c : Char} (hc : c ≠ '\t') (level : Nat) (text rest rest' : Text) :
    levelAfter level text (c :: rest) = levelAfter level text (c :: rest') := by
  by_cases hline : '\n' ∈ text
  · rw [levelAfter_of_mem hline, levelAfter_of_mem hline, indentation_append_cons hc,
      indentation_append_cons hc]
  · rw [levelAfter_of_notMem hline, levelAfter_of_notMem hline]

end LevelAfter

end BlockLexer.Text
