import BlockLexer.Block
import BlockLexer.Proofs.Lexeme.Extension

/-! # The block tracker follows the lexemes

The tracker reads one line at a time and knows only which block is open at its beginning; the
lexical rules cut lexemes that may run across many lines. `OpenBlock.follow` lets the tracker go on
from the middle of a line to the end of a text. Main statement: from the beginning of a lexeme and
from its end the tracker comes to the same result, whatever the kind of the lexeme.
-/

namespace BlockLexer

/-- What the tracker does on a line with indentation `level`: it reads a piece of one or two
characters, seeing the character behind it, and goes over to another surrounding. -/
inductive Surrounding.Reads (level : Nat) : Surrounding → Text → Option Char → Surrounding → Prop
  | code {c : Char} {next? : Option Char} :
      (c = '/' → next? ≠ some '/' ∧ next? ≠ some '*') →
        Reads level .code [c] next? (.enter level c)
  | openComment {next? : Option Char} : Reads level .code ['/', '*'] next? (.block .comment)
  | escaped {mark c : Char} {next? : Option Char} :
      Reads level (.string mark) ['\\', c] next? (.string mark)
  | quoted {mark c : Char} {next? : Option Char} :
      c ≠ '\\' → Reads level (.string mark) [c] next?
        (if c = mark ∨ c = '\n' then .code else .string mark)
  | closeComment {next? : Option Char} : Reads level (.block .comment) ['*', '/'] next? .code
  | comment {c : Char} {next? : Option Char} :
      (c = '*' → next? ≠ some '/') → Reads level (.block .comment) [c] next? (.block .comment)
  | content {opener : Nat} {c : Char} {next? : Option Char} :
      Reads level (.block (.content opener)) [c] next?
        (if c = backtick ∧ level ≤ opener then .code else .block (.content opener))

namespace OpenBlock

/-- The block open after all lines of a text, when `before` is the one open before it. -/
def afterLines (before : Option OpenBlock) (text : Text) : Option OpenBlock :=
  (Text.lines text).foldl afterLine before

/-- The block open after a text that begins within a line with indentation `level`. -/
def follow (level : Nat) (surrounding : Surrounding) (text : Text) : Option OpenBlock :=
  afterLines (scan level surrounding (Text.physicalLine text)) (Text.behindLine text)

section Step

variable {level : Nat} {surrounding surrounding' : Surrounding} {c : Char} {rest : Text}

theorem afterLines_of_ne_nil {text : Text} (htext : text ≠ []) (before : Option OpenBlock) :
    afterLines before text =
      afterLines (afterLine before (Text.physicalLine text)) (Text.behindLine text) := by
  rw [afterLines, Text.lines_eq_cons htext, List.foldl_cons]
  rfl

@[simp]
theorem follow_nil (level : Nat) (surrounding : Surrounding) :
    follow level surrounding [] = surrounding.open? := by
  cases surrounding <;> rfl

/-- A line that does not cut the open block off is followed from its beginning. -/
theorem afterLines_eq_follow {before : Option OpenBlock} {text : Text}
    (hgoes : isCutOff before (Text.physicalLine text) = false) :
    afterLines before text = follow (Text.indentation text) (.ofOpen before) text := by
  by_cases htext : text = []
  · rw [htext, follow_nil]
    cases before <;> rfl
  · rw [afterLines_of_ne_nil htext, afterLine, hgoes, Text.indentation_physicalLine]
    rfl

theorem afterLines_none (text : Text) :
    afterLines none text = follow (Text.indentation text) .code text :=
  afterLines_eq_follow rfl

theorem afterLines_comment (text : Text) :
    afterLines (some .comment) text = follow (Text.indentation text) (.block .comment) text :=
  afterLines_eq_follow rfl

/-- The tracker leaves a content block exactly at the lines that the lexical rules call shallow. -/
theorem isCutOff_physicalLine {opener : Nat} {text : Text} :
    isCutOff (some (.content opener)) (Text.physicalLine text) ↔ Lexeme.IsShallow opener text := by
  rw [isCutOff, Text.indentation_physicalLine, Text.isBlank_physicalLine, Lexeme.IsShallow,
    Bool.and_eq_true, decide_eq_true_eq, Bool.not_eq_true', Bool.not_eq_true]

theorem afterLines_content {opener : Nat} {text : Text} (hgoes : ¬ Lexeme.IsShallow opener text) :
    afterLines (some (.content opener)) text =
      follow (Text.indentation text) (.block (.content opener)) text :=
  afterLines_eq_follow (eq_false_of_ne_true (mt isCutOff_physicalLine.mp hgoes))

/-- The tracker does what it reads, however the line goes on. -/
theorem scan_of_reads {piece line : Text}
    (hreads : surrounding.Reads level piece line.head? surrounding') :
    scan level surrounding (piece ++ line) = scan level surrounding' line := by
  generalize hnext : line.head? = next? at hreads
  cases hreads with
  | code hslash =>
      rw [List.singleton_append, scan]
      · intro after hc hline
        rw [hline] at hnext
        exact (hslash hc).1 hnext.symm
      · intro after hc hline
        rw [hline] at hnext
        exact (hslash hc).2 hnext.symm
  | openComment => rw [List.cons_append, List.singleton_append, scan]
  | escaped => rw [List.cons_append, List.singleton_append, scan]
  | quoted hescape =>
      rw [List.singleton_append, scan]
      intro _ after hc
      exact absurd hc hescape
  | closeComment => rw [List.cons_append, List.singleton_append, scan]
  | comment hstar =>
      rw [List.singleton_append, scan]
      intro after hc hline
      rw [hline] at hnext
      exact hstar hc hnext.symm
  | content => rw [List.singleton_append, scan]

theorem follow_of_reads {piece : Text} (hline : '\n' ∉ piece)
    (hreads : surrounding.Reads level piece rest.head? surrounding') :
    follow level surrounding (piece ++ rest) = follow level surrounding' rest := by
  rw [← Text.head?_physicalLine] at hreads
  rw [follow, Text.physicalLine_append hline, Text.behindLine_append hline, scan_of_reads hreads]
  rfl

theorem follow_cons (hc : c ≠ '\n')
    (hreads : surrounding.Reads level [c] rest.head? surrounding') :
    follow level surrounding (c :: rest) = follow level surrounding' rest :=
  follow_of_reads (mt List.mem_singleton.mp hc.symm) hreads

/-- At a line feed the tracker goes on to the next line. -/
theorem follow_newline (level : Nat) (surrounding : Surrounding) (rest : Text) :
    follow level surrounding ('\n' :: rest) = afterLines surrounding.open? rest := by
  have hscan : scan level surrounding ['\n'] = surrounding.open? := by
    cases surrounding with
    | code => rfl
    | string mark =>
        have hreads := @scan_of_reads level (.string mark) _ ['\n'] [] (.quoted (by decide))
        rwa [if_pos (.inr rfl)] at hreads
    | block opened =>
        cases opened with
        | content opener => rfl
        | comment => rfl
  rw [follow, Text.physicalLine_newline, Text.behindLine_newline, hscan]

end Step

section Code

variable {level : Nat} {rest : Text}

/-- The characters that the tracker may react to outside strings and blocks. -/
def special : List Char :=
  ['\n', '/', backtick, '\x27', '\x22']

theorem follow_enter {c : Char} (hline : c ≠ '\n') (hslash : c ≠ '/') :
    follow level .code (c :: rest) = follow level (.enter level c) rest :=
  follow_cons hline (.code fun heq => absurd heq hslash)

theorem follow_slash (hsingle : ∀ next, rest.head? = some next → ('/', next) ∉ Lexeme.pairs) :
    follow level .code ('/' :: rest) = follow level .code rest := by
  apply follow_cons (by decide)
  apply Surrounding.Reads.code
  intro _
  refine ⟨?_, ?_⟩
  · intro hhead
    exact hsingle '/' hhead (by decide)
  · intro hhead
    exact hsingle '*' hhead (by decide)

theorem follow_plain {run : Text} (hrun : ∀ c ∈ run, c ∉ special) :
    follow level .code (run ++ rest) = follow level .code rest := by
  induction run with
  | nil => rfl
  | cons c tail ih =>
      obtain ⟨hc, htail⟩ := List.forall_mem_cons.mp hrun
      simp only [special, List.mem_cons, List.not_mem_nil, or_false, not_or] at hc
      obtain ⟨hline, hslash, hbacktick, hsingle, hdouble⟩ := hc
      have henter : Surrounding.enter level c = .code := by
        simp [Surrounding.enter, Quote.ofChar?, hbacktick, hsingle, hdouble]
      rw [List.cons_append, follow_enter hline hslash, henter, ih htail]

theorem follow_lineComment {body : Text} (hbody : '\n' ∉ body)
    (hstops : Lexeme.StopsAt (· ≠ '\n') rest) :
    follow level .code ('/' :: '/' :: (body ++ rest)) = follow level .code rest := by
  -- The tracker skips the rest of the line at once, and so leaves out its line feed too.
  have hskip : follow level .code ('/' :: '/' :: (body ++ rest)) =
      afterLines none (Text.behindLine rest) := by
    have hline : Text.behindLine ('/' :: '/' :: (body ++ rest)) = Text.behindLine rest :=
      @Text.behindLine_append ('/' :: '/' :: body) (by simp [hbody]) rest
    rw [follow, hline]
    rfl
  rw [hskip]
  cases rest with
  | nil => rfl
  | cons c tail =>
      obtain rfl : c = '\n' := by simpa using Lexeme.stopsAt_cons.mp hstops
      rw [follow_newline]
      rfl

end Code

section Block

variable {level : Nat} {rest : Text}

theorem follow_string_enter (quote : Quote) :
    follow level .code (quote.char :: rest) = follow level (.string quote.char) rest := by
  cases quote <;> exact follow_enter (by decide) (by decide)

theorem follow_comment_enter :
    follow level .code ('/' :: '*' :: rest) = follow level (.block .comment) rest :=
  @follow_of_reads level _ _ rest ['/', '*'] (by decide) .openComment

theorem follow_content_enter :
    follow level .code (backtick :: rest) = follow level (.block (.content level)) rest :=
  follow_enter (by decide) (by decide)

theorem follow_string_plain {mark c : Char} (hline : c ≠ '\n') (hescape : c ≠ '\\')
    (hmark : c ≠ mark) :
    follow level (.string mark) (c :: rest) = follow level (.string mark) rest := by
  rw [follow_cons hline (.quoted hescape), if_neg (by simp [hline, hmark])]

theorem follow_string_escaped {mark c : Char} (hline : c ≠ '\n') :
    follow level (.string mark) ('\\' :: c :: rest) = follow level (.string mark) rest :=
  @follow_of_reads level _ _ rest ['\\', c] (by simp [hline.symm]) .escaped

theorem follow_string_mark (quote : Quote) :
    follow level (.string quote.char) (quote.char :: rest) = follow level .code rest := by
  have hline : quote.char ≠ '\n' := by cases quote <;> decide
  have hescape : quote.char ≠ '\\' := by cases quote <;> decide
  rw [follow_cons hline (.quoted hescape), if_pos (.inl rfl)]

/-- A string is left behind at the quote that closes it. -/
theorem follow_string (quote : Quote) {body : Text} (hbody : Lexeme.IsQuotedBody quote.char body) :
    follow level (.string quote.char) (body ++ quote.char :: rest) = follow level .code rest := by
  induction hbody with
  | nil => exact follow_string_mark quote
  | escaped hline _ ih => rw [List.cons_append, List.cons_append, follow_string_escaped hline, ih]
  | plain hline hescape hmark _ ih =>
      rw [List.cons_append, follow_string_plain hline hescape hmark, ih]

theorem follow_comment_close :
    follow level (.block .comment) ('*' :: '/' :: rest) = follow level .code rest :=
  @follow_of_reads level _ _ rest ['*', '/'] (by decide) .closeComment

theorem follow_comment_cons {c : Char} (hline : c ≠ '\n')
    (hopen : ¬ (c = '*' ∧ rest.head? = some '/')) :
    follow level (.block .comment) (c :: rest) = follow level (.block .comment) rest :=
  follow_cons hline (.comment fun hstar hhead => hopen ⟨hstar, hhead⟩)

/-- The tracker does not leave a block comment before its delimiter. -/
theorem follow_comment_body {body : Text} (hbody : ¬ Lexeme.commentClose <:+: body)
    (hjoin : ¬ (body.getLast? = some '*' ∧ rest.head? = some '/')) :
    follow level (.block .comment) (body ++ rest) =
      follow (Text.levelAfter level body rest) (.block .comment) rest := by
  -- `hjoin` is what keeps the end of the body and the rest from closing the comment together.
  induction body generalizing level with
  | nil => rfl
  | cons c tail ih =>
      rw [Lexeme.commentClose_infix_cons, not_or] at hbody
      have hnext : ¬ (c = '*' ∧ (tail ++ rest).head? = some '/') := by
        cases tail with
        | nil =>
            intro hcloses
            apply hjoin
            exact ⟨congrArg some hcloses.1, hcloses.2⟩
        | cons d after => exact hbody.1
      have hlast : ¬ (tail.getLast? = some '*' ∧ rest.head? = some '/') := by
        intro hcloses
        apply hjoin
        refine ⟨?_, hcloses.2⟩
        rw [List.getLast?_cons, hcloses.1]
        rfl
      by_cases hc : c = '\n'
      · rw [hc, List.cons_append, follow_newline, Surrounding.open?, afterLines_comment,
          ih hbody.2 hlast, Text.levelAfter_cons_newline]
      · rw [List.cons_append, follow_comment_cons hc hnext, ih hbody.2 hlast,
          Text.levelAfter_cons_of_ne hc]

theorem follow_comment {body : Text} (hbody : ¬ Lexeme.commentClose <:+: body) :
    follow level (.block .comment) (body ++ '*' :: '/' :: rest) =
      follow (Text.levelAfter level body ('*' :: '/' :: rest)) .code rest := by
  rw [follow_comment_body hbody (by simp), follow_comment_close]

theorem follow_comment_open {body : Text} (hbody : ¬ Lexeme.commentClose <:+: body) :
    follow level (.block .comment) body = some .comment := by
  have hfollow := @follow_comment_body level [] body hbody (by simp)
  rwa [List.append_nil] at hfollow

theorem follow_content_cons {opener : Nat} {c : Char} (hline : c ≠ '\n')
    (hdeep : c = backtick → opener < level) :
    follow level (.block (.content opener)) (c :: rest) =
      follow level (.block (.content opener)) rest := by
  rw [follow_cons hline .content, if_neg]
  intro hcloses
  exact Nat.not_lt.mpr hcloses.2 (hdeep hcloses.1)

theorem follow_content_close {opener : Nat} (hlevel : level ≤ opener) :
    follow level (.block (.content opener)) (backtick :: rest) = follow level .code rest := by
  rw [follow_cons (by decide) .content, if_pos ⟨rfl, hlevel⟩]

/-- The tracker does not leave a content block before the place that decides it. -/
theorem follow_content_body {opener : Nat} {body : Text}
    (hpasses : Lexeme.PassesOver opener level body rest) :
    follow level (.block (.content opener)) (body ++ rest) =
      follow (Text.levelAfter level body rest) (.block (.content opener)) rest := by
  induction body generalizing level with
  | nil => rfl
  | cons c tail ih =>
      obtain ⟨hdeep, hshallow, htail⟩ := Lexeme.PassesOver.cons_iff.mp hpasses
      by_cases hc : c = '\n'
      · rw [if_pos hc] at htail
        rw [hc, List.cons_append, follow_newline, Surrounding.open?,
          afterLines_content (hshallow hc), ih htail, Text.levelAfter_cons_newline]
      · rw [if_neg hc] at htail
        rw [List.cons_append, follow_content_cons hc hdeep, ih htail,
          Text.levelAfter_cons_of_ne hc]

theorem follow_content {opener : Nat} {body : Text}
    (hpasses : Lexeme.PassesOver opener level body (backtick :: rest))
    (hcloses : Text.levelAfter level body (backtick :: rest) ≤ opener) :
    follow level (.block (.content opener)) (body ++ backtick :: rest) =
      follow (Text.levelAfter level body (backtick :: rest)) .code rest := by
  rw [follow_content_body hpasses, follow_content_close hcloses]

theorem follow_content_open {opener : Nat} {body : Text}
    (hpasses : Lexeme.PassesOver opener level body []) :
    follow level (.block (.content opener)) body = some (.content opener) := by
  have hfollow := follow_content_body hpasses
  rwa [List.append_nil] at hfollow

end Block

section Lexeme

open Lexeme

variable {level : Nat} {rest : Text}

theorem isWordPart_of_isLetter {c : Char} (hc : Unicode.isLetter c) : isWordPart c := by
  simp [isWordPart, hc]

theorem notMem_special {p : Char → Bool} (hspecial : special.any p = false) {c : Char}
    (hc : p c) : c ∉ special := by
  intro hmem
  have hnot := List.any_eq_false.mp hspecial c hmem
  exact hnot hc

theorem follow_plain_spell {lexeme : Lexeme} (hspell : ∀ c ∈ lexeme.spell, c ∉ special) :
    follow level .code (lexeme.spell ++ rest) =
      follow (lexeme.levelAfter level rest) .code rest := by
  have hline : '\n' ∉ lexeme.spell := fun hmem => hspell '\n' hmem (by decide)
  rw [follow_plain hspell, Lexeme.levelAfter, if_neg hline]

/-- Whether it starts at a lexeme or behind it, the tracker finds the same block open in the end. -/
theorem follow_spell {lexeme : Lexeme} (hfits : lexeme.Fits level rest) :
    follow level .code (lexeme.spell ++ rest) =
      follow (lexeme.levelAfter level rest) .code rest := by
  cases lexeme with
  | spacing run =>
      apply follow_plain_spell
      intro c hc
      exact notMem_special rfl (hfits.2.1 c hc)
  | newline => exact (follow_newline level .code rest).trans (afterLines_none rest)
  | lineComment body =>
      obtain ⟨hline, hstops⟩ := hfits
      rw [Lexeme.levelAfter, if_neg (by simpa [spell] using hline)]
      exact follow_lineComment hline hstops
  | blockComment body =>
      have hspell : (Lexeme.blockComment body).spell ++ rest =
          '/' :: '*' :: (body ++ '*' :: '/' :: rest) := by
        simp [spell]
      have hlevel : (Lexeme.blockComment body).levelAfter level rest =
          Text.levelAfter level body ('*' :: '/' :: rest) :=
        @Text.levelAfter_delimited ['/', '*'] ['*', '/'] (by decide) (by decide) level body rest
      rw [hspell, hlevel, follow_comment_enter, follow_comment hfits]
  | greaterOrEquals =>
      apply follow_plain_spell
      exact List.forall_mem_cons.mpr ⟨by decide, List.forall_mem_singleton.mpr (by decide)⟩
  | lessOrEquals =>
      apply follow_plain_spell
      exact List.forall_mem_cons.mpr ⟨by decide, List.forall_mem_singleton.mpr (by decide)⟩
  | word name =>
      obtain ⟨⟨first, run, rfl, hfirst, hrun⟩, -⟩ := hfits
      have hname : ∀ c ∈ first :: run, isWordPart c :=
        List.forall_mem_cons.mpr ⟨isWordPart_of_isLetter hfirst, hrun⟩
      apply follow_plain_spell
      intro c hc
      exact notMem_special rfl (hname c hc)
  | number format literal =>
      have hliteral := hfits.1.is_literal.isLinked.isDigit_or_isSeparator
      apply follow_plain_spell
      intro c hc
      exact @notMem_special (fun c => c.isDigit || NumberFormat.isSeparator c) rfl c
        (Bool.or_eq_true_iff.mpr (hliteral c hc))
  | quoted quote body =>
      have hspell : (Lexeme.quoted quote body).spell ++ rest =
          quote.char :: (body ++ quote.char :: rest) := by
        simp [spell]
      have hline : '\n' ∉ (Lexeme.quoted quote body).spell := by
        cases quote <;> simp [spell, hfits.newline_notMem, Quote.char]
      rw [Lexeme.levelAfter, if_neg hline, hspell, follow_string_enter, follow_string quote hfits]
  | content body =>
      have hspell : (Lexeme.content body).spell ++ rest =
          backtick :: (body ++ backtick :: rest) := by
        simp [spell]
      have hlevel : (Lexeme.content body).levelAfter level rest =
          Text.levelAfter level body (backtick :: rest) :=
        @Text.levelAfter_delimited [backtick] [backtick] (by decide) (by decide) level body rest
      rw [hspell, hlevel, follow_content_enter, follow_content hfits.1 hfits.2]
  | symbol sign =>
      by_cases hslash : sign = .slash
      · -- A lone slash opens nothing, as no slash or star stands behind it.
        rw [hslash] at hfits ⊢
        exact follow_slash hfits
      · apply follow_plain_spell
        intro c hc
        rw [List.mem_singleton.mp hc]
        revert hslash
        cases sign <;> decide

/-- A block that the lexical rules never close is open in the end. -/
theorem follow_of_isUnclosed {c : Char} {text : Text} (hunclosed : IsUnclosed level c text) :
    (follow level .code (c :: text)).isSome := by
  rcases hunclosed with ⟨rfl, hnever⟩ | ⟨inner, rfl, rfl, hnone⟩
  · rw [closeContent_eq_iff] at hnever
    rw [follow_content_enter, follow_content_open hnever]
    rfl
  · rw [closeComment?_eq_none_iff] at hnone
    rw [follow_comment_enter, follow_comment_open hnone]
    rfl

end Lexeme

end OpenBlock

end BlockLexer
