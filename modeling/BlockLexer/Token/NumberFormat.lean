import BlockLexer.Text.Quoted

/-! # Number formats

A number literal may hold points and commas. The separator that comes first groups digits, and may
be repeated; the other one may follow once, as the decimal separator. A literal with one kind of
separator leaves the other kind for the decimals.
-/

namespace BlockLexer

/-- How the separators of a number are read. -/
structure NumberFormat where
  /-- Stands between the integer and the fractional part. -/
  decimal : Char
  /-- Stands between groups of digits. -/
  thousands : Char
deriving DecidableEq

namespace NumberFormat

/-- Points group digits. -/
def points : NumberFormat := ⟨',', '.'⟩

/-- Commas group digits. -/
def commas : NumberFormat := ⟨'.', ','⟩

instance : Inhabited NumberFormat := ⟨points⟩

/-- A point or a comma. -/
def isSeparator (c : Char) : Bool :=
  c = '.' || c = ','

/-- The separators met so far in a literal: the one between groups of digits and the one in front of
the decimals. -/
structure Separators where
  thousands? : Option Char
  decimal? : Option Char

namespace Separators

/-- No separator has been met. -/
def initial : Separators := ⟨none, none⟩

/-- The separators after one more. The first groups digits, one that differs from it comes in front
of the decimals, and behind that one there may be no other. -/
def meet? (met : Separators) (separator : Char) : Option Separators :=
  match met.thousands?, met.decimal? with
  | none, _ => some { met with thousands? := some separator }
  | some thousands, none =>
      if thousands ≠ separator then some { met with decimal? := some separator } else some met
  | some _, some _ => none

/-- The format of a literal with these separators. -/
def format (met : Separators) : NumberFormat :=
  match met.thousands?, met.decimal? with
  | some thousands, some decimal => ⟨decimal, thousands⟩
  | some '.', none => points
  | some _, none => commas
  | none, _ => default

end Separators

/-- The format of a literal, if its separators are in order. Other characters are passed over. -/
def ofLiteral? (literal : Text) : Option NumberFormat :=
  ((literal.filter isSeparator).foldlM Separators.meet? .initial).map Separators.format

/-- The format with its two characters quoted. -/
def render (format : NumberFormat) : Text :=
  "NumberFormat \x7b decimal: ".toList ++ Text.quotedChar format.decimal ++
    ", thousands: ".toList ++ Text.quotedChar format.thousands ++ " \x7d".toList

end NumberFormat

end BlockLexer
