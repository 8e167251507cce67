import Mathlib.Data.List.TakeWhile
import BlockLexer.Lexeme.Number

/-! # Runs and numbers

A run of characters of one class goes as far as it can. A number literal is the longest one that
the text begins with: digits, then any number of groups of digits with a separator before each.
-/

namespace BlockLexer.Lexeme

/-- A run of characters in `p` cannot go on into `rest`. -/
def StopsAt (p : Char → Bool) (rest : Text) : Prop :=
  ∀ c, rest.head? = some c → p c = false

/-- Digits in groups, with a separator between one group and the next. -/
inductive IsNumberLiteral : Text → Prop
  | digits {run : Text} : run ≠ [] → (∀ c ∈ run, c.isDigit) → IsNumberLiteral run
  | group {run : Text} {separator : Char} {literal : Text} :
      run ≠ [] → (∀ c ∈ run, c.isDigit) → NumberFormat.isSeparator separator →
        IsNumberLiteral literal → IsNumberLiteral (run ++ separator :: literal)

/-- No longer literal begins a text that begins with `literal` and goes on with `rest`. -/
structure IsLongestLiteral (literal rest : Text) : Prop where
  is_literal : IsNumberLiteral literal
  longest : ∀ more, more ≠ [] → more <+: rest → ¬ IsNumberLiteral (literal ++ more)

section Run

variable {p : Char → Bool}

theorem stopsAt_nil : StopsAt p [] := by
  intro c hhead
  simp at hhead

theorem stopsAt_cons {c : Char} {rest : Text} : StopsAt p (c :: rest) ↔ p c = false := by
  simp [StopsAt]

theorem StopsAt.of_append {rest more : Text} (hstops : StopsAt p (rest ++ more)) :
    StopsAt p rest := by
  intro c hhead
  apply hstops
  rw [List.head?_append, hhead]
  rfl

theorem StopsAt.append_cons {stop : Char} {rest : Text} (hstops : StopsAt p rest)
    (hstop : p stop = false) (more : Text) : StopsAt p (rest ++ stop :: more) := by
  cases rest with
  | nil => exact stopsAt_cons.mpr hstop
  | cons c tail => exact stopsAt_cons.mpr (stopsAt_cons.mp hstops)

theorem stopsAt_dropWhile (text : Text) : StopsAt p (text.dropWhile p) := by
  intro c hhead
  have hrejected := List.head?_dropWhile_not p text
  rw [hhead] at hrejected
  exact hrejected

theorem takeWhile_eq_nil_iff {rest : Text} : rest.takeWhile p = [] ↔ StopsAt p rest := by
  cases rest with
  | nil => exact iff_of_true rfl stopsAt_nil
  | cons c tail =>
      rw [stopsAt_cons]
      cases hc : p c <;> simp [hc]

theorem takeWhile_append {run rest : Text} (hrun : ∀ c ∈ run, p c) (hstops : StopsAt p rest) :
    (run ++ rest).takeWhile p = run := by
  rw [List.takeWhile_append_of_pos hrun, takeWhile_eq_nil_iff.mpr hstops, List.append_nil]

theorem dropWhile_append {run rest : Text} (hrun : ∀ c ∈ run, p c) (hstops : StopsAt p rest) :
    (run ++ rest).dropWhile p = rest := by
  rw [List.dropWhile_append_of_pos hrun]
  cases rest with
  | nil => rfl
  | cons c tail =>
      apply List.dropWhile_cons_of_neg
      simp [stopsAt_cons.mp hstops]

/-- A run that has stopped is not continued by what is appended. -/
theorem takeWhile_append_of_stop {text : Text} {stop : Char} (hmem : stop ∈ text)
    (hstop : p stop = false) (more : Text) : (text ++ more).takeWhile p = text.takeWhile p := by
  induction text with
  | nil => simp at hmem
  | cons c rest ih =>
      cases hc : p c with
      | false => simp [hc]
      | true =>
          have hne : stop ≠ c := by
            intro heq
            rw [heq, hc] at hstop
            contradiction
          simp [hc, ih ((List.mem_cons.mp hmem).resolve_left hne)]

theorem dropWhile_append_of_stop {text : Text} {stop : Char} (hmem : stop ∈ text)
    (hstop : p stop = false) (more : Text) :
    (text ++ more).dropWhile p = text.dropWhile p ++ more := by
  induction text with
  | nil => simp at hmem
  | cons c rest ih =>
      cases hc : p c with
      | false => simp [hc]
      | true =>
          have hne : stop ≠ c := by
            intro heq
            rw [heq, hc] at hstop
            contradiction
          simp [hc, ih ((List.mem_cons.mp hmem).resolve_left hne)]

end Run

section Literal

/-- `c` continues a literal that goes on with `rest`. -/
def LinksTo (c : Char) (rest : Text) : Prop :=
  c.isDigit ∨ NumberFormat.isSeparator c ∧ rest.head?.any Char.isDigit

/-- Every character continues a literal. -/
def IsLinked : Text → Prop
  | [] => True
  | c :: rest => LinksTo c rest ∧ IsLinked rest

theorem LinksTo.append {c : Char} {rest : Text} (hlinks : LinksTo c rest) (more : Text) :
    LinksTo c (rest ++ more) := by
  apply hlinks.imp_right
  intro hpair
  refine ⟨hpair.1, ?_⟩
  cases rest with
  | nil => simpa using hpair.2
  | cons d tail => exact hpair.2

theorem IsLinked.of_append {front text : Text} (hlinked : IsLinked (front ++ text)) :
    IsLinked text := by
  induction front with
  | nil => exact hlinked
  | cons c tail ih => exact ih hlinked.2

theorem IsLinked.append {front text : Text} (hfront : IsLinked front) (htext : IsLinked text) :
    IsLinked (front ++ text) := by
  induction front with
  | nil => exact htext
  | cons c tail ih => exact ⟨hfront.1.append text, ih hfront.2⟩

theorem IsLinked.isDigit_or_isSeparator {text : Text} (hlinked : IsLinked text) :
    ∀ c ∈ text, c.isDigit ∨ NumberFormat.isSeparator c := by
  intro c hmem
  obtain ⟨front, after, rfl⟩ := List.append_of_mem hmem
  exact hlinked.of_append.1.imp_right And.left

theorem isLinked_of_digits {run : Text} (hrun : ∀ c ∈ run, c.isDigit) : IsLinked run := by
  induction run with
  | nil => trivial
  | cons c tail ih =>
      exact ⟨.inl (hrun c List.mem_cons_self), ih fun d hd => hrun d (List.mem_cons_of_mem c hd)⟩

theorem IsNumberLiteral.cons_digit {c : Char} {literal : Text} (hc : c.isDigit)
    (hliteral : IsNumberLiteral literal) : IsNumberLiteral (c :: literal) := by
  cases hliteral with
  | digits hrun hdigits =>
      exact .digits (List.cons_ne_nil c _) (List.forall_mem_cons.mpr ⟨hc, hdigits⟩)
  | group hrun hdigits hseparator hrest =>
      exact .group (List.cons_ne_nil c _) (List.forall_mem_cons.mpr ⟨hc, hdigits⟩) hseparator hrest

theorem IsNumberLiteral.exists_cons {literal : Text} (hliteral : IsNumberLiteral literal) :
    ∃ c tail, literal = c :: tail ∧ c.isDigit := by
  cases hliteral with
  | digits hrun hdigits =>
      obtain ⟨c, tail, rfl⟩ := List.exists_cons_of_ne_nil hrun
      exact ⟨c, tail, rfl, hdigits c List.mem_cons_self⟩
  | group hrun hdigits hseparator hrest =>
      obtain ⟨c, tail, rfl⟩ := List.exists_cons_of_ne_nil hrun
      exact ⟨c, _, rfl, hdigits c List.mem_cons_self⟩

theorem IsNumberLiteral.isLinked {literal : Text} (hliteral : IsNumberLiteral literal) :
    IsLinked literal := by
  induction hliteral with
  | digits hrun hdigits => exact isLinked_of_digits hdigits
  | group hrun hdigits hseparator hrest ih =>
      refine (isLinked_of_digits hdigits).append ⟨.inr ⟨hseparator, ?_⟩, ih⟩
      obtain ⟨c, tail, rfl, hc⟩ := hrest.exists_cons
      exact hc

/-- A literal is recognised character by character. -/
theorem isNumberLiteral_of_isLinked {c : Char} {tail : Text} (hc : c.isDigit)
    (hlinked : IsLinked tail) : IsNumberLiteral (c :: tail) := by
  match tail, hlinked with
  | [], _ => exact .digits (List.cons_ne_nil c []) (by simpa using hc)
  | d :: rest, ⟨.inl hd, hrest⟩ => exact (isNumberLiteral_of_isLinked hd hrest).cons_digit hc
  | [_], ⟨.inr ⟨_, hhead⟩, _⟩ => simp at hhead
  | d :: e :: rest, ⟨.inr ⟨hseparator, hhead⟩, ⟨_, hrest⟩⟩ =>
      have he : e.isDigit := hhead
      exact .group (List.cons_ne_nil c []) (by simpa using hc) hseparator
        (isNumberLiteral_of_isLinked he hrest)
termination_by tail.length

theorem spanLiteral_cons_of_linksTo {c : Char} {rest : Text} (hlinks : LinksTo c rest) :
    spanLiteral (c :: rest) = (spanLiteral rest).map (c :: ·) id := by
  rw [spanLiteral, if_pos (by simpa [LinksTo] using hlinks)]

theorem spanLiteral_cons_of_not_linksTo {c : Char} {rest : Text} (hlinks : ¬ LinksTo c rest) :
    spanLiteral (c :: rest) = ([], c :: rest) := by
  rw [spanLiteral, if_neg (by simpa [LinksTo] using hlinks)]

theorem isLinked_spanLiteral (text : Text) : IsLinked (spanLiteral text).1 := by
  induction text with
  | nil => trivial
  | cons c rest ih =>
      by_cases hlinks : LinksTo c rest
      · rw [spanLiteral_cons_of_linksTo hlinks]
        refine ⟨?_, ih⟩
        -- A separator has a digit behind it, which then is in the span as well.
        apply hlinks.imp_right
        intro hpair
        refine ⟨hpair.1, ?_⟩
        cases rest with
        | nil => simpa using hpair.2
        | cons d tail =>
            have hd : d.isDigit := hpair.2
            rw [spanLiteral_cons_of_linksTo (.inl hd)]
            exact hd
      · rw [spanLiteral_cons_of_not_linksTo hlinks]
        trivial

theorem not_linksTo_of_spanLiteral {text literal rest : Text} {c : Char}
    (hspan : spanLiteral text = (literal, c :: rest)) : ¬ LinksTo c rest := by
  induction text generalizing literal with
  | nil => simp [spanLiteral] at hspan
  | cons d tail ih =>
      by_cases hlinks : LinksTo d tail
      · rw [spanLiteral_cons_of_linksTo hlinks] at hspan
        exact @ih (spanLiteral tail).1 (Prod.ext rfl (Prod.mk.inj hspan).2)
      · rw [spanLiteral_cons_of_not_linksTo hlinks] at hspan
        obtain ⟨rfl, rfl⟩ := List.cons.inj (Prod.mk.inj hspan).2
        exact hlinks

theorem isLongestLiteral_of_spanLiteral {c : Char} {text literal rest : Text} (hc : c.isDigit)
    (hspan : spanLiteral (c :: text) = (literal, rest)) : IsLongestLiteral literal rest where
  is_literal := by
    rw [spanLiteral_cons_of_linksTo (.inl hc)] at hspan
    rw [← (Prod.mk.inj hspan).1]
    exact isNumberLiteral_of_isLinked hc (isLinked_spanLiteral text)
  longest := by
    intro more hmore hleading hlonger
    obtain ⟨after, rfl⟩ := hleading
    obtain ⟨d, tail, rfl⟩ := List.exists_cons_of_ne_nil hmore
    -- The first character of a longer literal would have been in the span.
    have hlinks : LinksTo d tail := hlonger.isLinked.of_append.1
    exact not_linksTo_of_spanLiteral hspan (hlinks.append after)

/-- The span is the one cut after a longest literal. -/
theorem spanLiteral_eq_iff {c : Char} {text literal rest : Text} (hc : c.isDigit) :
    spanLiteral (c :: text) = (literal, rest) ↔
      literal ++ rest = c :: text ∧ IsLongestLiteral literal rest := by
  constructor
  · intro hspan
    refine ⟨?_, isLongestLiteral_of_spanLiteral hc hspan⟩
    rw [← spanLiteral_append (c :: text), hspan]
  · intro hparts
    obtain ⟨htext, hlongest⟩ := hparts
    obtain ⟨found, after, hspan⟩ : ∃ found after, spanLiteral (c :: text) = (found, after) :=
      ⟨_, _, rfl⟩
    -- Of two literals that begin the text one continues the other, so neither can be longer.
    have hfound := isLongestLiteral_of_spanLiteral hc hspan
    have happend := spanLiteral_append (c :: text)
    rw [hspan, ← htext] at happend
    rcases List.append_eq_append_iff.mp happend with ⟨more, rfl, rfl⟩ | ⟨more, rfl, rfl⟩
    · by_cases hmore : more = []
      · rw [hspan, hmore, List.append_nil, List.nil_append]
      · exact absurd hlongest.is_literal (hfound.longest more hmore (List.prefix_append more rest))
    · by_cases hmore : more = []
      · rw [hspan, hmore, List.append_nil, List.nil_append]
      · exact absurd hfound.is_literal (hlongest.longest more hmore (List.prefix_append more after))

/-- No literal goes on behind a line feed. -/
theorem IsLongestLiteral.append_newline {literal rest : Text}
    (hlongest : IsLongestLiteral literal rest) (more : Text) :
    IsLongestLiteral literal (rest ++ '\n' :: more) where
  is_literal := hlongest.is_literal
  longest := by
    intro longer hne hleading hliteral
    have hline : '\n' ∉ longer := by
      intro hmem
      rcases hliteral.isLinked.isDigit_or_isSeparator '\n' (List.mem_append_right literal hmem)
        with hdigit | hseparator <;> contradiction
    rcases List.prefix_or_prefix_of_prefix hleading (List.prefix_append rest _) with hwithin | hall
    · exact hlongest.longest longer hne hwithin hliteral
    · obtain ⟨behind, rfl⟩ := hall
      have hbehind := (List.prefix_append_right_inj rest).mp hleading
      cases behind with
      | nil =>
          rw [List.append_nil] at hne hliteral
          exact hlongest.longest rest hne List.prefix_rfl hliteral
      | cons c tail =>
          obtain ⟨rfl, -⟩ := List.cons_prefix_cons.mp hbehind
          simp at hline

/-- A literal ends before a line feed, whatever is appended behind it. -/
theorem spanLiteral_append_of_newline {text : Text} (hline : '\n' ∈ text) (more : Text) :
    spanLiteral (text ++ more) = (spanLiteral text).map id (· ++ more) := by
  induction text with
  | nil => simp at hline
  | cons c rest ih =>
      by_cases hlinks : LinksTo c rest
      · have hne : '\n' ≠ c := by
          intro heq
          rw [← heq] at hlinks
          rcases hlinks with hdigit | ⟨hseparator, -⟩ <;> contradiction
        rw [List.cons_append, spanLiteral_cons_of_linksTo hlinks,
          spanLiteral_cons_of_linksTo (hlinks.append more),
          ih ((List.mem_cons.mp hline).resolve_left hne)]
        rfl
      · have hstill : ¬ LinksTo c (rest ++ more) := by
          intro hlonger
          rcases hlonger with hdigit | ⟨hseparator, hhead⟩
          · exact hlinks (.inl hdigit)
          · cases rest with
            | nil =>
                rw [← List.mem_singleton.mp hline] at hseparator
                contradiction
            | cons d tail => exact hlinks (.inr ⟨hseparator, hhead⟩)
        rw [List.cons_append, spanLiteral_cons_of_not_linksTo hlinks,
          spanLiteral_cons_of_not_linksTo hstill]
        rfl

end Literal

theorem cutNumber_eq_ok_iff {text rest : Text} {lexeme : Lexeme} :
    cutNumber text = .ok (lexeme, rest) ↔
      ∃ format literal, lexeme = .number format literal ∧ spanLiteral text = (literal, rest) ∧
        NumberFormat.ofLiteral? literal = some format ∧ StopsAt isGlue rest := by
  obtain ⟨literal, after, hspan⟩ : ∃ literal after, spanLiteral text = (literal, after) :=
    ⟨_, _, rfl⟩
  simp only [cutNumber, hspan]
  constructor
  · intro hcut
    split at hcut
    · next format hformat hglued =>
      obtain ⟨rfl, rfl⟩ := Prod.mk.inj (Except.ok.inj hcut)
      exact ⟨format, literal, rfl, rfl, hformat, takeWhile_eq_nil_iff.mp hglued⟩
    · contradiction
  · intro hexists
    obtain ⟨format, literal', rfl, hsame, hformat, hstops⟩ := hexists
    obtain ⟨rfl, rfl⟩ := Prod.mk.inj hsame
    rw [hformat, takeWhile_eq_nil_iff.mpr hstops]

end BlockLexer.Lexeme
