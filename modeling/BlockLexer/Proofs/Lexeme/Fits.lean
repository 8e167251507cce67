import BlockLexer.Lexeme.Cut
import BlockLexer.Proofs.Lexeme.Content
import BlockLexer.Proofs.Lexeme.Delimited
import BlockLexer.Proofs.Lexeme.Number

/-! # The lexical rules

`Lexeme.Fits` states the rule of every kind of lexeme without saying how a lexeme is found: which
characters it holds, and what may follow it. Main statement: `Lexeme.cut` cuts off exactly the
lexeme that fits, so at each place at most one does.
-/

namespace BlockLexer.Lexeme

/-- A letter followed by letters, numerals and underscores. -/
def IsWord (name : Text) : Prop :=
  ∃ first run, name = first :: run ∧ Unicode.isLetter first ∧ ∀ c ∈ run, isWordPart c

/-- The pairs of characters that are read together wherever they stand outside other lexemes. -/
def pairs : List (Char × Char) :=
  [('/', '/'), ('/', '*'), ('>', '='), ('<', '=')]

/-- The rule for a lexeme that stands on a line with indentation `level` and is followed by `rest`.
-/
def Fits (level : Nat) (rest : Text) : Lexeme → Prop
  | .spacing run => run ≠ [] ∧ (∀ c ∈ run, isSpacing c) ∧ StopsAt isSpacing rest
  | .newline => True
  | .lineComment body => '\n' ∉ body ∧ StopsAt (· ≠ '\n') rest
  | .blockComment body => ¬ commentClose <:+: body
  | .greaterOrEquals => True
  | .lessOrEquals => True
  | .word name => IsWord name ∧ StopsAt isWordPart rest
  | .number format literal =>
      IsLongestLiteral literal rest ∧ NumberFormat.ofLiteral? literal = some format ∧
        StopsAt isGlue rest
  | .quoted quote body => IsQuotedBody quote.char body
  | .content body =>
      PassesOver level level body (backtick :: rest) ∧
        Text.levelAfter level body (backtick :: rest) ≤ level
  | .symbol sign => ∀ next, rest.head? = some next → (sign.char, next) ∉ pairs

section Sound

variable {level : Nat} {c : Char} {text rest : Text} {lexeme : Lexeme}

theorem fits_of_cutNumber (hc : c.isDigit) (hcut : cutNumber (c :: text) = .ok (lexeme, rest)) :
    lexeme.Fits level rest := by
  obtain ⟨format, literal, rfl, hspan, hformat, hstops⟩ := cutNumber_eq_ok_iff.mp hcut
  exact ⟨isLongestLiteral_of_spanLiteral hc hspan, hformat, hstops⟩

theorem fits_of_cutString {quote : Quote} (hcut : cutString quote text = .ok (lexeme, rest)) :
    lexeme.Fits level rest := by
  unfold cutString at hcut
  split at hcut
  · next body after hclosed =>
    obtain ⟨rfl, rfl⟩ := Prod.mk.inj (Except.ok.inj hcut)
    exact (closeQuote_eq_ok_iff.mp hclosed).2
  · contradiction

theorem fits_of_cutComment (hcut : cutComment text = .ok (lexeme, rest)) :
    lexeme.Fits level rest := by
  unfold cutComment at hcut
  split at hcut
  · next body after hclosed =>
    obtain ⟨rfl, rfl⟩ := Prod.mk.inj (Except.ok.inj hcut)
    exact (closeComment?_eq_some_iff.mp hclosed).2
  · contradiction

theorem fits_of_cutContent (hcut : cutContent level text = .ok (lexeme, rest)) :
    lexeme.Fits level rest := by
  unfold cutContent at hcut
  split at hcut
  · next body after hclosed =>
    obtain ⟨rfl, rfl⟩ := Prod.mk.inj (Except.ok.inj hcut)
    exact (closeContent_eq_iff.mp hclosed).2
  · contradiction
  · contradiction

theorem fits_of_cutPunctuation (hcut : cutPunctuation c text = .ok (lexeme, rest)) :
    lexeme.Fits level rest := by
  unfold cutPunctuation at hcut
  split at hcut
  · next tail =>
    obtain ⟨rfl, rfl⟩ := Prod.mk.inj (Except.ok.inj hcut)
    exact ⟨Text.newline_notMem_firstLine tail, stopsAt_dropWhile tail⟩
  · exact fits_of_cutComment hcut
  · cases hcut
    trivial
  · cases hcut
    trivial
  · -- No pair was recognised, so the symbol begins none.
    next hslashes hcomment hgreater hless =>
    split at hcut
    · next sign hsign =>
      obtain ⟨rfl, rfl⟩ := Prod.mk.inj (Except.ok.inj hcut)
      intro next hhead hpair
      obtain ⟨tail, rfl⟩ := List.head?_eq_some_iff.mp hhead
      rw [Symbol.char_of_ofChar? hsign] at hpair
      simp only [pairs, List.mem_cons, Prod.mk.injEq, List.not_mem_nil, or_false] at hpair
      rcases hpair with ⟨rfl, rfl⟩ | ⟨rfl, rfl⟩ | ⟨rfl, rfl⟩ | ⟨rfl, rfl⟩
      · exact hslashes tail rfl rfl
      · exact hcomment tail rfl rfl
      · exact hgreater tail rfl rfl
      · exact hless tail rfl rfl
    · contradiction

/-- What is cut off obeys the rule for its kind. -/
theorem fits_of_cut (hcut : cut level c text = .ok (lexeme, rest)) : lexeme.Fits level rest := by
  unfold cut at hcut
  split at hcut
  · next hc =>
    obtain ⟨rfl, rfl⟩ := Prod.mk.inj (Except.ok.inj hcut)
    refine ⟨List.cons_ne_nil c _, ?_, stopsAt_dropWhile text⟩
    exact List.forall_mem_cons.mpr ⟨hc, fun d hd => List.mem_takeWhile_imp hd⟩
  split at hcut
  · cases hcut
    trivial
  split at hcut
  · next hc =>
    obtain ⟨rfl, rfl⟩ := Prod.mk.inj (Except.ok.inj hcut)
    exact ⟨⟨c, _, rfl, hc, fun d hd => List.mem_takeWhile_imp hd⟩, stopsAt_dropWhile text⟩
  split at hcut
  · next hc => exact fits_of_cutNumber hc hcut
  split at hcut
  · exact fits_of_cutContent hcut
  split at hcut
  · exact fits_of_cutString hcut
  · exact fits_of_cutPunctuation hcut

end Sound

section Complete

/-- The classes of visible characters have none of the characters between lexemes. -/
theorem isSpacing_eq_false {p : Char → Bool} (hblank : [' ', '\t', '\r'].any p = false) {c : Char}
    (hc : p c) : isSpacing c = false := by
  apply eq_false_of_ne_true
  intro hspacing
  have hmem : c ∈ [' ', '\t', '\r'] := by
    simpa [isSpacing, or_assoc] using hspacing
  exact List.any_eq_false.mp hblank c hmem hc

theorem ne_newline {p : Char → Bool} (hnewline : p '\n' = false) {c : Char} (hc : p c) :
    c ≠ '\n' := by
  intro heq
  rw [heq, hnewline] at hc
  contradiction

/-- ASCII digits come before all letters. -/
theorem isLetter_of_isDigit {c : Char} (hc : c.isDigit) : Unicode.isLetter c = false := by
  have hletters : ∀ range ∈ Unicode.letters.bounds, 0x39 < range.1 := by
    decide +kernel
  simp only [Char.isDigit, Bool.and_eq_true, decide_eq_true_eq] at hc
  have hnine : c.toNat ≤ 0x39 := hc.2
  rw [Unicode.isLetter, ← Bool.not_eq_true, Unicode.Ranges.contains_iff]
  rintro ⟨range, hrange, hfirst, -⟩
  have hbehind := hletters range hrange
  omega

theorem cut_digit {level : Nat} {c : Char} (hc : c.isDigit) (text : Text) :
    cut level c text = cutNumber (c :: text) := by
  have hspacing := @isSpacing_eq_false Char.isDigit rfl c hc
  have hne := @ne_newline Char.isDigit rfl c hc
  simp [cut, hspacing, hne, isLetter_of_isDigit hc, hc]

theorem cut_backtick (level : Nat) (text : Text) :
    cut level backtick text = cutContent level text := by
  rfl

theorem cut_of_ne_backtick {c : Char} (hc : c ≠ backtick) (level level' : Nat) (text : Text) :
    cut level c text = cut level' c text := by
  simp only [cut, if_neg hc]

theorem cut_quote (level : Nat) (quote : Quote) (text : Text) :
    cut level quote.char text = cutString quote text := by
  cases quote <;> rfl

theorem cut_symbol (level : Nat) (sign : Symbol) (text : Text) :
    cut level sign.char text = cutPunctuation sign.char text := by
  cases sign <;> rfl

theorem cutPunctuation_symbol {sign : Symbol} {text : Text}
    (hpair : ∀ next, text.head? = some next → (sign.char, next) ∉ pairs) :
    cutPunctuation sign.char text = .ok (.symbol sign, text) := by
  unfold cutPunctuation
  split
  · next heq => exact absurd (by rw [heq]; decide) (hpair '/' rfl)
  · next heq => exact absurd (by rw [heq]; decide) (hpair '*' rfl)
  · next heq => exact absurd (by rw [heq]; decide) (hpair '=' rfl)
  · next heq => exact absurd (by rw [heq]; decide) (hpair '=' rfl)
  · rw [Symbol.ofChar?_char]

/-- Whatever obeys the rule for its kind is cut off. -/
theorem cut_of_fits {level : Nat} {c : Char} {text rest : Text} {lexeme : Lexeme}
    (hspell : lexeme.spell ++ rest = c :: text) (hfits : lexeme.Fits level rest) :
    cut level c text = .ok (lexeme, rest) := by
  cases lexeme with
  | spacing run =>
      obtain ⟨hrun, hall, hstops⟩ := hfits
      obtain ⟨d, tail, rfl⟩ := List.exists_cons_of_ne_nil hrun
      rw [spell, List.cons_append] at hspell
      obtain ⟨rfl, rfl⟩ := List.cons.inj hspell
      obtain ⟨hd, htail⟩ := List.forall_mem_cons.mp hall
      rw [cut, if_pos hd, takeWhile_append htail hstops, dropWhile_append htail hstops]
  | newline =>
      obtain ⟨rfl, rfl⟩ := List.cons.inj hspell
      rfl
  | lineComment body =>
      rw [spell, List.append_assoc] at hspell
      obtain ⟨rfl, rfl⟩ := List.cons.inj hspell
      obtain ⟨hline, hstops⟩ := hfits
      have hbody : ∀ d ∈ body, decide (d ≠ '\n') = true := by
        intro d hd
        rw [decide_eq_true_eq]
        intro heq
        rw [heq] at hd
        exact hline hd
      apply (cut_symbol level .slash _).trans
      change Except.ok (Lexeme.lineComment (Text.firstLine (body ++ rest)),
        (body ++ rest).dropWhile (· ≠ '\n')) = _
      rw [Text.firstLine, takeWhile_append hbody hstops, dropWhile_append hbody hstops]
  | blockComment body =>
      have hclosed : closeComment? (body ++ '*' :: '/' :: rest) = some (body, rest) :=
        closeComment?_eq_some_iff.mpr ⟨rfl, hfits⟩
      rw [spell, List.append_assoc, List.append_assoc] at hspell
      obtain ⟨rfl, rfl⟩ := List.cons.inj hspell
      apply (cut_symbol level .slash _).trans
      change cutComment (body ++ '*' :: '/' :: rest) = _
      rw [cutComment, hclosed]
  | greaterOrEquals =>
      obtain ⟨rfl, rfl⟩ := List.cons.inj hspell
      rfl
  | lessOrEquals =>
      obtain ⟨rfl, rfl⟩ := List.cons.inj hspell
      rfl
  | word name =>
      obtain ⟨⟨d, tail, rfl, hd, htail⟩, hstops⟩ := hfits
      rw [spell, List.cons_append] at hspell
      obtain ⟨rfl, rfl⟩ := List.cons.inj hspell
      rw [cut, isSpacing_eq_false rfl hd, if_neg Bool.false_ne_true, if_neg (ne_newline rfl hd),
        if_pos hd, takeWhile_append htail hstops, dropWhile_append htail hstops]
  | number format literal =>
      obtain ⟨hlongest, hformat, hstops⟩ := hfits
      obtain ⟨d, tail, rfl, hd⟩ := hlongest.is_literal.exists_cons
      obtain ⟨rfl, rfl⟩ := List.cons.inj hspell
      rw [cut_digit hd, cutNumber_eq_ok_iff]
      exact ⟨format, _, rfl, (spanLiteral_eq_iff hd).mpr ⟨rfl, hlongest⟩, hformat, hstops⟩
  | quoted quote body =>
      rw [spell, List.append_assoc, List.append_assoc] at hspell
      obtain ⟨rfl, rfl⟩ := List.cons.inj hspell
      have hclosed : closeQuote quote.char (body ++ quote.char :: rest) = .ok (body, rest) :=
        closeQuote_eq_ok_iff.mpr ⟨rfl, hfits⟩
      apply (cut_quote level quote _).trans
      change cutString quote (body ++ quote.char :: rest) = _
      rw [cutString, hclosed]
  | content body =>
      rw [spell, List.append_assoc, List.append_assoc] at hspell
      obtain ⟨rfl, rfl⟩ := List.cons.inj hspell
      have hclosed : closeContent level level (body ++ backtick :: rest) = .closed body rest :=
        closeContent_eq_iff.mpr ⟨rfl, hfits⟩
      apply (cut_backtick level _).trans
      change cutContent level (body ++ backtick :: rest) = _
      rw [cutContent, hclosed]
  | symbol sign =>
      obtain ⟨rfl, rfl⟩ := List.cons.inj hspell
      rw [cut_symbol]
      exact cutPunctuation_symbol hfits

end Complete

/-- The lexeme cut off is the one that spells the beginning of the text and fits there. -/
theorem cut_eq_ok_iff {level : Nat} {c : Char} {text rest : Text} {lexeme : Lexeme} :
    cut level c text = .ok (lexeme, rest) ↔
      lexeme.spell ++ rest = c :: text ∧ lexeme.Fits level rest :=
  ⟨fun hcut => ⟨cut_spell hcut, fits_of_cut hcut⟩, fun ⟨hspell, hfits⟩ => cut_of_fits hspell hfits⟩

theorem Fits.spell_ne_nil {level : Nat} {rest : Text} {lexeme : Lexeme}
    (hfits : lexeme.Fits level rest) : lexeme.spell ≠ [] := by
  cases lexeme with
  | spacing run => exact hfits.1
  | word name =>
      obtain ⟨⟨first, run, rfl, -⟩, -⟩ := hfits
      exact List.cons_ne_nil first run
  | number format literal =>
      obtain ⟨c, tail, rfl, -⟩ := hfits.1.is_literal.exists_cons
      exact List.cons_ne_nil c tail
  | newline | greaterOrEquals | lessOrEquals | lineComment | blockComment | quoted | content
  | symbol => exact List.cons_ne_nil _ _

/-- The indentation of the line matters to content blocks alone. -/
theorem Fits.of_backtick_notMem {level : Nat} {rest : Text} {lexeme : Lexeme}
    (hfits : lexeme.Fits level rest) (hspell : backtick ∉ lexeme.spell) (level' : Nat) :
    lexeme.Fits level' rest := by
  cases lexeme with
  | content body => exact absurd List.mem_cons_self hspell
  | spacing | newline | lineComment | blockComment | greaterOrEquals | lessOrEquals | word | number
  | quoted | symbol => exact hfits

/-- Only a content block has an opening line, and it ends at the first line feed of the block. -/
theorem opening?_eq_some_iff {lexeme : Lexeme} {opening : Text} :
    lexeme.opening? = some opening ↔
      ∃ value, lexeme = .content (opening ++ '\n' :: value) ∧ '\n' ∉ opening := by
  constructor
  · intro hopening
    cases lexeme with
    | content body =>
        obtain ⟨value, hvalue, rfl⟩ := Option.map_eq_some_iff.mp hopening
        exact ⟨value, congrArg _ (Text.eq_of_afterFirstLine? hvalue),
          Text.newline_notMem_firstLine body⟩
    | spacing | newline | lineComment | blockComment | greaterOrEquals | lessOrEquals | word
    | number | quoted | symbol => contradiction
  · intro hcontent
    obtain ⟨value, rfl, hline⟩ := hcontent
    rw [opening?, Text.afterFirstLine?_append_newline hline, Option.map_some,
      Text.firstLine_append_of_notMem hline]
    exact congrArg some (List.append_nil opening)

/-- A backtick on the opening line would have closed the block. -/
theorem Fits.backtick_notMem_opening {level : Nat} {rest opening : Text} {lexeme : Lexeme}
    (hfits : lexeme.Fits level rest) (hopening : lexeme.opening? = some opening) :
    backtick ∉ opening := by
  obtain ⟨value, rfl, hline⟩ := opening?_eq_some_iff.mp hopening
  intro hmem
  obtain ⟨front, behind, rfl⟩ := List.append_of_mem hmem
  have hdeep := hfits.1.backtick_deep front (behind ++ '\n' :: value) (List.append_assoc _ _ _)
  rw [Text.levelAfter_of_notMem (mt (List.mem_append_left _) hline)] at hdeep
  exact Nat.lt_irrefl level hdeep

end BlockLexer.Lexeme
