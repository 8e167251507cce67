import BlockLexer.Unicode.Blank

/-! # Text

A text is a sequence of Unicode scalar values. This module measures a text (bytes, leading tabs)
and takes it apart at line feeds. The indentation of a line is its number of leading tabs; no
other character indents.
-/

namespace BlockLexer

/-- A text, character by character. -/
abbrev Text := List Char

namespace Text

/-- Number of bytes of the UTF-8 encoding. -/
def byteLength : Text → Nat
  | [] => 0
  | c :: rest => c.utf8Size + byteLength rest

/-- Number of leading tabs. -/
def indentation (text : Text) : Nat :=
  (text.takeWhile (· = '\t')).length

/-- The part before the first line feed, or everything if there is none. -/
def firstLine (text : Text) : Text :=
  text.takeWhile (· ≠ '\n')

/-- The part after the first line feed, if there is one. -/
def afterFirstLine? (text : Text) : Option Text :=
  match text.dropWhile (· ≠ '\n') with
  | [] => none
  | _ :: rest => some rest

/-- The part after the last line feed, or everything if there is none. -/
def lastLine (text : Text) : Text :=
  (text.reverse.takeWhile (· ≠ '\n')).reverse

/-- The text holds blank characters only. -/
def isBlank (text : Text) : Bool :=
  text.all Unicode.isBlank

/-- Order of code points, which is also the order of the UTF-8 bytes. -/
def compare : Text → Text → Ordering
  | [], [] => .eq
  | [], _ :: _ => .lt
  | _ :: _, [] => .gt
  | a :: left, b :: right => (Ord.compare a.toNat b.toNat).then (compare left right)

/-- The text encoded by `bytes`, if they are valid UTF-8. -/
def ofBytes? (bytes : ByteArray) : Option Text :=
  (String.fromUTF8? bytes).map String.toList

end Text

end BlockLexer
