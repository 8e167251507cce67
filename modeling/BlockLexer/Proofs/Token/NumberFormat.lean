import BlockLexer.Proofs.Token.Nesting

/-! # Separators in order

The format of a literal depends on its points and commas alone, which are met one after the other.
What has been met describes the separators up to there, and still does after one more. Main
statement: there is a format if and only if the separators are some of one kind and then at most one
of the other, and the two kinds are those of the format. Every number among the tokens of a text
carries the format of its value.
-/

namespace BlockLexer

namespace NumberFormat

/-- The two characters of the format are the two separators. -/
def IsProper (format : NumberFormat) : Prop :=
  format.thousands = '.' ∧ format.decimal = ',' ∨ format.thousands = ',' ∧ format.decimal = '.'

/-- The separators of a literal as the format has them: none at all, which counts as points between
the digits, or one or more between groups of digits, then at most one in front of the decimals. -/
def Separates (format : NumberFormat) (separators : Text) : Prop :=
  separators = [] ∧ format.thousands = '.' ∨
    ∃ count, 0 < count ∧
      (separators = List.replicate count format.thousands ∨
        separators = List.replicate count format.thousands ++ [format.decimal])

namespace IsProper

variable {format : NumberFormat}

theorem decimal_ne_thousands (hproper : format.IsProper) : format.decimal ≠ format.thousands := by
  rcases hproper with ⟨hthousands, hdecimal⟩ | ⟨hthousands, hdecimal⟩ <;>
    rw [hthousands, hdecimal] <;> decide

/-- The separator between groups determines the format. -/
theorem format_groups (hproper : format.IsProper) :
    Separators.format ⟨some format.thousands, none⟩ = format := by
  obtain ⟨decimal, thousands⟩ := format
  rcases hproper with ⟨rfl, rfl⟩ | ⟨rfl, rfl⟩ <;> rfl

end IsProper

namespace Separators

theorem meet?_groups (c : Char) : meet? ⟨some c, none⟩ c = some ⟨some c, none⟩ :=
  if_neg (not_not.mpr rfl)

theorem meet?_groups_of_ne {c other : Char} (hne : c ≠ other) :
    meet? ⟨some c, none⟩ other = some ⟨some c, some other⟩ :=
  if_pos hne

/-- What has been met in a run of separators: nothing, a number of equal ones, or these and behind
them a different one. -/
inductive Describes : Separators → Text → Prop
  | nothing : Describes .initial []
  | groups (c : Char) (count : Nat) : Describes ⟨some c, none⟩ (List.replicate (count + 1) c)
  | decimals {c other : Char} (hne : c ≠ other) (count : Nat) :
      Describes ⟨some c, some other⟩ (List.replicate (count + 1) c ++ [other])

namespace Describes

variable {met : Separators} {separators : Text}

/-- What has been met after one more separator describes the run with it. -/
theorem meet? {next : Separators} {c : Char} (hmet : Describes met separators)
    (hnext : met.meet? c = some next) : Describes next (separators ++ [c]) := by
  cases hmet with
  | nothing =>
      obtain rfl := Option.some.inj hnext
      exact .groups c 0
  | groups first count =>
      rcases eq_or_ne first c with rfl | hne
      · rw [meet?_groups] at hnext
        obtain rfl := Option.some.inj hnext
        rw [← List.replicate_succ']
        exact .groups first (count + 1)
      · rw [meet?_groups_of_ne hne] at hnext
        obtain rfl := Option.some.inj hnext
        exact .decimals hne count
  | decimals => contradiction

/-- However many separators follow, what has been met in the end describes them all. -/
theorem foldlM {following : Text} {last : Separators} (hmet : Describes met separators)
    (hlast : following.foldlM Separators.meet? met = some last) :
    Describes last (separators ++ following) := by
  induction following generalizing met separators with
  | nil =>
      obtain rfl := Option.some.inj hlast
      rwa [List.append_nil]
  | cons c rest ih =>
      rw [List.foldlM_cons] at hlast
      obtain ⟨next, hnext, hrest⟩ := Option.bind_eq_some_iff.mp hlast
      have hbehind := ih (hmet.meet? hnext) hrest
      rwa [List.append_assoc] at hbehind

end Describes

/-- Repetitions of the first separator change nothing. -/
theorem foldlM_replicate (c : Char) (count : Nat) :
    (List.replicate count c).foldlM meet? ⟨some c, none⟩ = some ⟨some c, none⟩ := by
  induction count with
  | zero => rfl
  | succ count ih =>
      rw [List.replicate_succ, List.foldlM_cons, meet?_groups]
      exact ih

/-- A run of separators is gone through if and only if it can be described. -/
theorem foldlM_eq_some_iff {met : Separators} {separators : Text} :
    separators.foldlM meet? initial = some met ↔ Describes met separators := by
  constructor
  · exact Describes.nothing.foldlM
  · intro hmet
    cases hmet with
    | nothing => rfl
    | groups c count => exact foldlM_replicate c count
    | @decimals c other hne count =>
        have hgroups : (List.replicate (count + 1) c).foldlM meet? initial = some ⟨some c, none⟩ :=
          foldlM_replicate c count
        rw [List.foldlM_append, hgroups]
        simp [meet?_groups_of_ne hne]

/-- The format of what has been met is that of the run. -/
theorem Describes.separates {met : Separators} {separators : Text}
    (hmet : Describes met separators) (hall : ∀ c ∈ separators, isSeparator c) :
    met.format.IsProper ∧ met.format.Separates separators := by
  simp only [isSeparator, Bool.or_eq_true, decide_eq_true_eq] at hall
  cases hmet with
  | nothing => exact ⟨.inl ⟨rfl, rfl⟩, .inl ⟨rfl, rfl⟩⟩
  | groups c count =>
      rcases hall c List.mem_cons_self with rfl | rfl
      · exact ⟨.inl ⟨rfl, rfl⟩, .inr ⟨count + 1, count.succ_pos, .inl rfl⟩⟩
      · exact ⟨.inr ⟨rfl, rfl⟩, .inr ⟨count + 1, count.succ_pos, .inl rfl⟩⟩
  | @decimals c other hne count =>
      refine ⟨?_, .inr ⟨count + 1, count.succ_pos, .inr rfl⟩⟩
      -- Of two different separators one is the point and the other the comma.
      rcases hall c (by simp) with rfl | rfl <;> rcases hall other (by simp) with rfl | rfl
      · contradiction
      · exact .inl ⟨rfl, rfl⟩
      · exact .inr ⟨rfl, rfl⟩
      · contradiction

end Separators

/-- Separators as a format has them are gone through, and leave this format. -/
theorem Separates.exists_describes {format : NumberFormat} {separators : Text}
    (hseparates : format.Separates separators) (hproper : format.IsProper) :
    ∃ met : Separators, met.Describes separators ∧ met.format = format := by
  rcases hseparates with ⟨rfl, hthousands⟩ | ⟨count, hpositive, hsome⟩
  · refine ⟨.initial, .nothing, ?_⟩
    have hgroups := hproper.format_groups
    rw [hthousands] at hgroups
    exact hgroups
  · obtain ⟨count, rfl⟩ := Nat.exists_eq_succ_of_ne_zero hpositive.ne'
    rcases hsome with rfl | rfl
    · exact ⟨_, .groups _ count, hproper.format_groups⟩
    · exact ⟨_, .decimals hproper.decimal_ne_thousands.symm count, rfl⟩

theorem ofLiteral?_eq_some_iff {literal : Text} {format : NumberFormat} :
    ofLiteral? literal = some format ↔
      format.IsProper ∧ format.Separates (literal.filter isSeparator) := by
  simp only [ofLiteral?, Option.map_eq_some_iff, Separators.foldlM_eq_some_iff]
  constructor
  · rintro ⟨met, hmet, rfl⟩
    exact hmet.separates fun c hc => (List.mem_filter.mp hc).2
  · rintro ⟨hproper, hseparates⟩
    exact hseparates.exists_describes hproper

end NumberFormat

/-- A literal has a format if and only if its separators are of one kind, with at most one of the
other behind them. These are the separators between groups and in front of the decimals, which are
always different. The numbers of a text, those inside other tokens as well, carry the format of
their values. -/
theorem ofLiteral?_eq_some_iff_separates :
    (∀ literal format, NumberFormat.ofLiteral? literal = some format ↔
        format.IsProper ∧ format.Separates (literal.filter NumberFormat.isSeparator)) ∧
      ∀ settings base text tokens, tokenizeAt settings base text = .ok tokens →
        ∀ token format, Token.IsWithin token tokens → token.kind = .number format →
          NumberFormat.ofLiteral? token.value = some format := by
  refine ⟨?_, ?_⟩
  · intro literal format
    exact NumberFormat.ofLiteral?_eq_some_iff
  · intro settings base text tokens htokens token format hwithin hkind
    obtain ⟨front, lexeme, behind, -, horigin⟩ := exists_isOriginOf_of_isWithin htokens hwithin
    obtain ⟨level, rest, hfits⟩ := horigin.exists_fits
    have hlexeme := horigin.kind_eq.symm.trans hkind
    cases lexeme with
    | number found literal =>
        obtain rfl := Kind.number.inj hlexeme
        rw [horigin.value_eq]
        exact hfits.2.1
    | spacing | newline | lineComment | blockComment | greaterOrEquals | lessOrEquals | word
    | quoted | content | symbol => contradiction

/-- On the opening line of a block stands a number with points between its groups. -/
theorem ofLiteral?_of_child :
    let number : Token := ⟨.number ⟨',', '.'⟩, ['1', '.', '5', ',', '0'], ⟨3, 6⟩, ⟨3, 11⟩, 0, []⟩
    ∃ tokens, tokenizeAt {} ⟨3, 5⟩
          ['\x60', '1', '.', '5', ',', '0', '\n', '\x60'] = .ok tokens ∧
      number.IsWithin tokens ∧
        NumberFormat.ofLiteral? ['1', '.', '5', ',', '0'] = some ⟨',', '.'⟩ := by
  intro number
  have htokens : tokenizeAt {} ⟨3, 5⟩ ['\x60', '1', '.', '5', ',', '0', '\n', '\x60'] =
      .ok [⟨.contentBlock, [], ⟨3, 5⟩, ⟨4, 1⟩, 0, [number]⟩] := by
    cbv
  have hwithin : number.IsWithin [⟨.contentBlock, [], ⟨3, 5⟩, ⟨4, 1⟩, 0, [number]⟩] :=
    .of_children List.mem_cons_self (.of_mem List.mem_cons_self)
  obtain ⟨-, hnumbers⟩ := ofLiteral?_eq_some_iff_separates
  exact ⟨_, htokens, hwithin, hnumbers _ _ _ _ htokens number _ hwithin rfl⟩

end BlockLexer
