import BlockLexer.Proofs.Error
import BlockLexer.Proofs.Token.Nesting

/-! # The place of a text

A text may begin at any position. Main statement: where it begins does not matter for its tokens or
its error, only for their positions, and each of these is moved to the place that the same piece of
the text leads to from the new beginning. Lines move by as much as the beginning does, columns only
on the first line.
-/

namespace BlockLexer

namespace Position

/-- Where `place`, in a text that begins at `base`, lies in the same text when that begins at
`base'`. -/
def rebase (base base' place : Position) : Position :=
  if place.line = base.line then ⟨base'.line, place.column - base.column + base'.column⟩
  else ⟨place.line - base.line + base'.line, place.column⟩

/-- In `text`, some piece from the beginning leads from `base` to `place`, and any that does leads
from `base'` to `place'`. -/
structure Corresponds (base base' : Position) (text : Text) (place place' : Position) : Prop where
  exists_isPrefix : ∃ front, front <+: text ∧ place = base.after front
  eq_after : ∀ front, place = base.after front → place' = base'.after front
  line_sub : (place'.line : Int) - place.line = base'.line - base.line
  column_sub_of_first :
    place.line = base.line → (place'.column : Int) - place.column = base'.column - base.column
  column_eq_of_later : place.line ≠ base.line → place'.column = place.column

/-- A piece without a line feed stays on the first line. -/
theorem line_after_eq_iff {base : Position} {text : Text} :
    (base.after text).line = base.line ↔ '\n' ∉ text := by
  rw [line_after, Nat.add_eq_left, List.count_eq_zero]

/-- The same text leads to corresponding places. -/
theorem rebase_after (base base' : Position) (text : Text) :
    base.rebase base' (base.after text) = base'.after text := by
  by_cases hline : '\n' ∈ text
  · have hlater : (base.after text).line ≠ base.line := by
      rw [Ne, line_after_eq_iff, not_not]
      exact hline
    have hlines : (base.after text).line - base.line + base'.line = (base'.after text).line := by
      rw [line_after, line_after]
      omega
    rw [rebase, if_neg hlater, hlines, column_after_of_mem hline, ← column_after_of_mem hline base']
  · rw [rebase, if_pos (line_after_eq_iff.mpr hline), after_of_notMem hline, after_of_notMem hline,
      Nat.add_sub_cancel_left, Nat.add_comm]

theorem corresponds_rebase {text front : Text} (hfront : front <+: text) (base base' : Position) :
    base.Corresponds base' text (base.after front) (base.rebase base' (base.after front)) where
  exists_isPrefix := ⟨front, hfront, rfl⟩
  eq_after other hother := by rw [hother, rebase_after]
  line_sub := by
    rw [rebase_after, line_after, line_after]
    omega
  column_sub_of_first hfirst := by
    have hline := line_after_eq_iff.mp hfirst
    rw [rebase_after, after_of_notMem hline, after_of_notMem hline]
    dsimp only
    omega
  column_eq_of_later hlater := by rw [rebase, if_neg hlater]

/-- What `f` does to the places that any text leads to from `position` is to begin the text at
`position'`. -/
def IsMovedBy (f : Position → Position) (position position' : Position) : Prop :=
  ∀ text, f (position.after text) = position'.after text

theorem IsMovedBy.after {f : Position → Position} {position position' : Position}
    (hmoved : position.IsMovedBy f position') (lead : Text) :
    (position.after lead).IsMovedBy f (position'.after lead) := by
  intro text
  rw [← after_append, ← after_append]
  exact hmoved (lead ++ text)

end Position

mutual

/-- The token with each of its positions replaced, those of its children as well. -/
def Token.mapPlaces (f : Position → Position) : Token → Token
  | ⟨kind, value, start, stop, level, children⟩ =>
      ⟨kind, value, f start, f stop, level, mapAllPlaces f children⟩

/-- The tokens with each of their positions replaced. -/
def Token.mapAllPlaces (f : Position → Position) : List Token → List Token
  | [] => []
  | token :: tokens => mapPlaces f token :: mapAllPlaces f tokens

end

/-- The outcome of tokenizing with each position in it replaced and nothing else changed. -/
def mapOutcomePlaces (f : Position → Position) :
    Except LexicalError (List Token) → Except LexicalError (List Token)
  | .ok tokens => .ok (tokens.map (Token.mapPlaces f))
  | .error error => .error { error with position := f error.position }

/-- The positions that an outcome mentions: where its tokens start and stop, at whatever depth, or
where its error is. -/
inductive IsPlaceOf : Except LexicalError (List Token) → Position → Prop
  | start {tokens : List Token} {token : Token} :
      token.IsWithin tokens → IsPlaceOf (.ok tokens) token.start
  | stop {tokens : List Token} {token : Token} :
      token.IsWithin tokens → IsPlaceOf (.ok tokens) token.stop
  | error {error : LexicalError} : IsPlaceOf (.error error) error.position

namespace Token

theorem mapAllPlaces_eq_map (f : Position → Position) (tokens : List Token) :
    mapAllPlaces f tokens = tokens.map (mapPlaces f) := by
  induction tokens with
  | nil => rfl
  | cons token tokens ih => rw [mapAllPlaces, ih, List.map_cons]

theorem mapPlaces_eq (f : Position → Position) (token : Token) :
    token.mapPlaces f =
      { token with
        start := f token.start
        stop := f token.stop
        children := token.children.map (mapPlaces f) } := by
  cases token
  rw [mapPlaces, mapAllPlaces_eq_map]

theorem kind_mapPlaces (f : Position → Position) (token : Token) :
    (token.mapPlaces f).kind = token.kind := by
  rw [mapPlaces_eq]

end Token

/-- The token of a lexeme at another position is the same token moved there. -/
theorem Lexeme.mapPlaces_toToken {f : Position → Position} {position position' : Position}
    (hmoved : position.IsMovedBy f position') (lexeme : Lexeme) (level : Nat)
    (children : List Token) :
    (lexeme.toToken level position children).mapPlaces f =
      lexeme.toToken level position' (children.map (Token.mapPlaces f)) := by
  have hstart : f position = position' := hmoved []
  have hstop : f (position.after lexeme.spell) = position'.after lexeme.spell := hmoved lexeme.spell
  rw [Token.mapPlaces_eq, toToken, hstart, hstop]
  rfl

/-- Tokenizing from another position comes cut by cut to the same outcome, moved there. -/
theorem tokenizeFrom_eq_mapOutcomePlaces {f : Position → Position} {settings : Settings}
    {level : Nat} {position position' : Position} {text : Text}
    (hmoved : position.IsMovedBy f position') :
    tokenizeFrom settings level position' text =
      mapOutcomePlaces f (tokenizeFrom settings level position text) := by
  induction level, position, text using tokenize_induction generalizing position' with
  | nil level position =>
      rw [tokenizeFrom_nil, tokenizeFrom_nil]
      rfl
  | flaw level position c text flaw hcut =>
      have hlead : f (position.after flaw.lead) = position'.after flaw.lead := hmoved flaw.lead
      rw [tokenizeFrom_of_cut_error hcut, tokenizeFrom_of_cut_error hcut, mapOutcomePlaces,
        Flaw.locate, Flaw.locate, hlead]
  | lexeme level position c text lexeme rest hcut ihopening ih =>
      have hchildren : openingTokens settings level position' lexeme =
          mapOutcomePlaces f (openingTokens settings level position lexeme) := by
        apply openingTokens_eq_of_opening (mapOutcomePlaces f) rfl
        intro opening hopening
        exact ihopening opening hopening (hmoved.after [backtick])
      have hrest := ih (hmoved.after lexeme.spell)
      rw [tokenizeFrom_of_cut_ok hcut, tokenizeFrom_of_cut_ok hcut, hchildren, hrest]
      cases openingTokens settings level position lexeme with
      | error error => rfl
      | ok children =>
          cases tokenizeFrom settings (lexeme.levelAfter level rest)
              (position.after lexeme.spell) rest with
          | error error => rfl
          | ok others =>
              have hkept := settings.map_consKept (Token.kind_mapPlaces f)
                (lexeme.toToken level position children) others
              rw [lexeme.mapPlaces_toToken hmoved] at hkept
              exact congrArg Except.ok hkept.symm

/-- Every position that an outcome mentions lies behind a piece from the beginning of the text. -/
theorem IsPlaceOf.exists_isPrefix {settings : Settings} {base place : Position} {text : Text}
    (hplace : IsPlaceOf (tokenizeAt settings base text) place) :
    ∃ front, front <+: text ∧ place = base.after front := by
  generalize houtcome : tokenizeAt settings base text = outcome at hplace
  cases hplace with
  | start hwithin =>
      obtain ⟨front, lexeme, behind, rfl, horigin⟩ := exists_isOriginOf_of_isWithin houtcome hwithin
      rw [List.append_assoc]
      exact ⟨front, List.prefix_append _ _, horigin.start_eq⟩
  | stop hwithin =>
      obtain ⟨front, lexeme, behind, rfl, horigin⟩ := exists_isOriginOf_of_isWithin houtcome hwithin
      exact ⟨front ++ lexeme.spell, List.prefix_append _ _, horigin.stop_eq⟩
  | @error error =>
      obtain ⟨front, after, htext, -, hposition, -⟩ :=
        exists_explains_of_tokenizeFrom (isLevelAt_nil text) .start houtcome
      refine ⟨front, ?_, hposition⟩
      rw [htext, List.append_assoc]
      exact List.prefix_append _ _

/-- Where a text begins changes nothing in the outcome of tokenizing it but the positions: tokens
stay tokens and an error stays an error. Each position, at whatever depth, is moved to where the
piece of the text that leads to it leads from the new beginning. -/
theorem tokenizeAt_eq_mapOutcomePlaces (settings : Settings) (base base' : Position) (text : Text) :
    tokenizeAt settings base' text =
        mapOutcomePlaces (base.rebase base') (tokenizeAt settings base text) ∧
      (∀ token : Token, token.mapPlaces (base.rebase base') =
        { token with
          start := base.rebase base' token.start
          stop := base.rebase base' token.stop
          children := token.children.map (Token.mapPlaces (base.rebase base')) }) ∧
      ∀ place, IsPlaceOf (tokenizeAt settings base text) place →
        base.Corresponds base' text place (base.rebase base' place) := by
  refine ⟨tokenizeFrom_eq_mapOutcomePlaces (Position.rebase_after base base'),
    Token.mapPlaces_eq _, ?_⟩
  intro place hplace
  obtain ⟨front, hfront, rfl⟩ := hplace.exists_isPrefix
  exact Position.corresponds_rebase hfront base base'

/-- A block moved to another line and column: the token on its opening line moves in both, its end
only to another line. -/
theorem corresponds_in_moved_block :
    let text : Text := ['k', '\x60', 'a', '\n', 'b', '\x60']
    let child : Token := ⟨.identifier, ['a'], ⟨3, 7⟩, ⟨3, 8⟩, 0, []⟩
    let block : Token := ⟨.contentBlock, ['b'], ⟨3, 6⟩, ⟨4, 2⟩, 0, [child]⟩
    let moved : Token := ⟨.contentBlock, ['b'], ⟨8, 2⟩, ⟨9, 2⟩, 0,
      [⟨.identifier, ['a'], ⟨8, 3⟩, ⟨8, 4⟩, 0, []⟩]⟩
    (∃ word tokens, tokenizeAt {} ⟨3, 5⟩ text = .ok [word, block] ∧
        tokenizeAt {} ⟨8, 1⟩ text = .ok tokens ∧ moved ∈ tokens) ∧
      IsPlaceOf (tokenizeAt {} ⟨3, 5⟩ text) child.start ∧
      IsPlaceOf (tokenizeAt {} ⟨3, 5⟩ text) block.stop ∧
      Position.Corresponds ⟨3, 5⟩ ⟨8, 1⟩ text child.start ⟨8, 3⟩ ∧
      Position.Corresponds ⟨3, 5⟩ ⟨8, 1⟩ text block.stop ⟨9, 2⟩ := by
  intro text child block moved
  let word : Token := ⟨.identifier, ['k'], ⟨3, 5⟩, ⟨3, 6⟩, 0, []⟩
  have htokens : tokenizeAt {} ⟨3, 5⟩ text = .ok [word, block] := by
    cbv
  obtain ⟨hmoved, -, hplaces⟩ := tokenizeAt_eq_mapOutcomePlaces {} ⟨3, 5⟩ ⟨8, 1⟩ text
  rw [htokens] at hmoved hplaces ⊢
  have hblock : block ∈ [word, block] := List.mem_cons_of_mem _ List.mem_cons_self
  have hchild : IsPlaceOf (.ok [word, block]) child.start :=
    .start (.of_children hblock (.of_mem List.mem_cons_self))
  have hend : IsPlaceOf (.ok [word, block]) block.stop := .stop (.of_mem hblock)
  refine ⟨⟨word, _, rfl, hmoved, List.mem_cons_of_mem _ List.mem_cons_self⟩, hchild, hend, ?_, ?_⟩
  · exact hplaces _ hchild
  · exact hplaces _ hend

end BlockLexer
