import BlockLexer.Proofs.Cursor

/-! # Any run of a cursor

A run is any sequence of looking ahead, reading, keeping a cursor and going back to one that was
kept. Main statement: at every point of a run the characters read on the way to the cursor are the
beginning of the source, and everything the cursor says about its place follows from them alone.
-/

namespace BlockLexer

namespace Text

theorem byteLength_eq_utf8ByteSize (text : Text) :
    byteLength text = (String.ofList text).utf8ByteSize := by
  induction text with
  | nil => rfl
  | cons c rest ih =>
      have hsplit : String.ofList (c :: rest) = String.singleton c ++ String.ofList rest := by
        rw [String.singleton_eq_ofList, ← String.ofList_append]
        rfl
      rw [byteLength, ih, hsplit, String.utf8ByteSize_append, String.utf8ByteSize_singleton]

/-- No character takes less than a byte. -/
theorem length_le_byteLength (text : Text) : text.length ≤ byteLength text := by
  induction text with
  | nil => exact Nat.le_refl 0
  | cons c rest ih =>
      have hsize := c.utf8Size_pos
      rw [List.length_cons, byteLength]
      omega

/-- No character takes more than four bytes. -/
theorem byteLength_le_length (text : Text) : byteLength text ≤ 4 * text.length := by
  induction text with
  | nil => exact Nat.le_refl 0
  | cons c rest ih =>
      have hsize := c.utf8Size_le_four
      rw [List.length_cons, byteLength]
      omega

end Text

namespace Cursor

/-- A cursor and the characters handed out on the way to it from the beginning of its source. -/
structure Reading where
  cursor : Cursor
  read : Text

/-- What can be done with a cursor. -/
inductive Operation where
  | peek
  | next
  | next?
  /-- Keeps the cursor as it is. -/
  | keep
  /-- Goes back to the cursor kept after `index` others. -/
  | goBack (index : Nat)

/-- The reading that goes on, and those that were kept. -/
structure Readings where
  current : Reading
  kept : List Reading

namespace Readings

/-- The reading at the beginning of a source. -/
def ofText (source : Text) : Readings :=
  ⟨⟨Cursor.ofText source, []⟩, []⟩

/-- The readings after an operation. A character that is handed out is one of those read. -/
def apply (readings : Readings) : Operation → Readings
  | .peek => readings
  | .next =>
      match readings.current.cursor.next with
      | .ok (c, behind) => { readings with current := ⟨behind, readings.current.read ++ [c]⟩ }
      | .error _ => readings
  | .next? =>
      { readings with
        current :=
          ⟨readings.current.cursor.next?.2,
            readings.current.read ++ readings.current.cursor.next?.1.toList⟩ }
  | .keep => { readings with kept := readings.kept ++ [readings.current] }
  | .goBack index => { readings with current := readings.kept[index]?.getD readings.current }

/-- The readings after operations one after the other. -/
def run (readings : Readings) (operations : List Operation) : Readings :=
  operations.foldl apply readings

end Readings

/-- All parts of the cursor belong to the place in `source` behind the characters read. -/
structure Reading.IsIn (source : Text) (reading : Reading) : Prop where
  source_eq : reading.cursor.source = source
  read_append : reading.read ++ reading.cursor.rest = source
  offset_eq : reading.cursor.offset = Text.byteLength reading.read
  position_eq : reading.cursor.position = Position.start.after reading.read
  last?_eq : reading.cursor.last? = reading.read.getLast?

/-- The characters read are the beginning of `source`. The cursor says of its place what they say,
and hands out the character behind them. Where there is none, nothing changes. -/
structure Readings.Describes (source : Text) (readings : Readings) : Prop where
  read_isPrefix : readings.current.read <+: source
  source_eq : readings.current.cursor.source = source
  offset_eq : readings.current.cursor.offset = (String.ofList readings.current.read).utf8ByteSize
  position_eq : readings.current.cursor.position = Position.start.after readings.current.read
  atLineEnd_iff :
    readings.current.cursor.atLineEnd ↔ ∃ line, readings.current.read = line ++ ['\n']
  atEnd_iff : readings.current.cursor.atEnd ↔ readings.current.read = source
  peek_eq :
    readings.current.cursor.peek =
      (source[readings.current.read.length]?).elim
        (.error (.endOfInput readings.current.cursor.position)) .ok
  next_eq :
    readings.current.cursor.next.map Prod.fst =
      (source[readings.current.read.length]?).elim
        (.error (.endOfInput readings.current.cursor.position)) .ok
  next?_eq : readings.current.cursor.next?.1 = source[readings.current.read.length]?
  unchanged :
    readings.current.read = source →
      ∀ operation ∈ [Operation.peek, .next, .next?], readings.apply operation = readings
  sizeBounds_le :
    readings.current.cursor.sizeBounds.1 ≤ source.length - readings.current.read.length
  le_sizeBounds :
    source.length - readings.current.read.length ≤ readings.current.cursor.sizeBounds.2

namespace Reading.IsIn

variable {source : Text} {reading : Reading}

/-- Reading the next character keeps all parts of the cursor together. -/
theorem step (hin : reading.IsIn source) {c : Char} {rest : Text}
    (hrest : reading.cursor.rest = c :: rest) :
    IsIn source ⟨reading.cursor.step c rest, reading.read ++ [c]⟩ where
  source_eq := hin.source_eq
  read_append := by
    rw [← hin.read_append, hrest, List.append_assoc]
    rfl
  offset_eq := by
    rw [Text.byteLength_append, ← hin.offset_eq]
    rfl
  position_eq := by
    rw [Position.after_append, ← hin.position_eq]
    rfl
  last?_eq := List.getLast?_concat.symm

/-- What is left to read begins with the character behind those read. -/
theorem head?_rest (hin : reading.IsIn source) :
    reading.cursor.rest.head? = source[reading.read.length]? := by
  rw [← hin.read_append, List.getElem?_append_right (Nat.le_refl _), Nat.sub_self,
    List.head?_eq_getElem?]

theorem length_rest (hin : reading.IsIn source) :
    reading.cursor.rest.length = source.length - reading.read.length := by
  rw [← hin.read_append, List.length_append, Nat.add_sub_cancel_left]

theorem rest_eq_nil_iff (hin : reading.IsIn source) :
    reading.cursor.rest = [] ↔ reading.read = source := by
  rw [← hin.read_append, List.self_eq_append_right]

end Reading.IsIn

namespace Readings

variable {source : Text} {readings : Readings}

/-- Where nothing is left to read, reading changes nothing. -/
theorem apply_of_rest_eq_nil (hrest : readings.current.cursor.rest = []) :
    ∀ operation ∈ [Operation.peek, .next, .next?], readings.apply operation = readings := by
  intro operation hoperation
  simp only [List.mem_cons, List.not_mem_nil, or_false] at hoperation
  rcases hoperation with rfl | rfl | rfl
  · rfl
  · simp only [apply, next, hrest]
  · simp only [apply, next?, next, hrest, Option.toList_none, List.append_nil]

theorem describes_of_isIn (hin : readings.current.IsIn source) : readings.Describes source where
  read_isPrefix := ⟨_, hin.read_append⟩
  source_eq := hin.source_eq
  offset_eq := hin.offset_eq.trans (Text.byteLength_eq_utf8ByteSize _)
  position_eq := hin.position_eq
  atLineEnd_iff := by
    rw [atLineEnd, decide_eq_true_eq, hin.last?_eq, List.getLast?_eq_some_iff]
  atEnd_iff := by rw [atEnd, List.isEmpty_iff, hin.rest_eq_nil_iff]
  peek_eq := by
    rw [← hin.head?_rest, peek]
    cases readings.current.cursor.rest <;> rfl
  next_eq := by
    rw [← hin.head?_rest, next]
    cases readings.current.cursor.rest <;> rfl
  next?_eq := by
    rw [← hin.head?_rest, next?, next]
    cases readings.current.cursor.rest <;> rfl
  unchanged hread := apply_of_rest_eq_nil (hin.rest_eq_nil_iff.mpr hread)
  sizeBounds_le := by
    have hbytes := Text.byteLength_le_length readings.current.cursor.rest
    rw [← hin.length_rest, sizeBounds]
    omega
  le_sizeBounds := by
    rw [← hin.length_rest]
    exact Text.length_le_byteLength readings.current.cursor.rest

/-- The reading that goes on and those that were kept have all come from the same source. -/
def AreIn (source : Text) (readings : Readings) : Prop :=
  readings.current.IsIn source ∧ ∀ reading ∈ readings.kept, reading.IsIn source

theorem areIn_ofText (source : Text) : (ofText source).AreIn source :=
  ⟨⟨rfl, rfl, rfl, rfl, rfl⟩, fun _ hkept => nomatch hkept⟩

theorem AreIn.apply (hin : readings.AreIn source) (operation : Operation) :
    (readings.apply operation).AreIn source := by
  obtain ⟨hcurrent, hkept⟩ := hin
  cases operation with
  | peek => exact ⟨hcurrent, hkept⟩
  | next | next? =>
      cases hrest : readings.current.cursor.rest with
      | nil =>
          rw [apply_of_rest_eq_nil hrest _ (by simp)]
          exact ⟨hcurrent, hkept⟩
      | cons c rest =>
          simp only [Readings.apply, next?, next, hrest]
          exact ⟨hcurrent.step hrest, hkept⟩
  | keep =>
      refine ⟨hcurrent, ?_⟩
      intro reading hreading
      rcases List.mem_append.mp hreading with hearlier | hlast
      · exact hkept reading hearlier
      · rw [List.mem_singleton.mp hlast]
        exact hcurrent
  | goBack index =>
      refine ⟨?_, hkept⟩
      simp only [Readings.apply]
      cases hindex : readings.kept[index]? with
      | none => exact hcurrent
      | some reading => exact hkept reading (List.mem_of_getElem? hindex)

theorem AreIn.run (hin : readings.AreIn source) (operations : List Operation) :
    (readings.run operations).AreIn source := by
  induction operations generalizing readings with
  | nil => exact hin
  | cons operation following ih => exact ih (hin.apply operation)

/-- Whatever is read of a source, and to whichever cursor one goes back, the cursor is the one
behind the characters that were handed out on the way to it. -/
theorem run_describes (source : Text) (operations : List Operation) :
    ((ofText source).run operations).Describes source :=
  describes_of_isIn ((areIn_ofText source).run operations).1

/-- Going back to the second of three characters. -/
example :
    let current := ((ofText ['é', '\n', 'a']).run [.next, .next?, .keep, .next, .goBack 0]).current
    current.read = ['é', '\n'] ∧ current.cursor.offset = 3 ∧ current.cursor.position = ⟨2, 0⟩ ∧
      current.cursor.atLineEnd ∧ current.cursor.sizeBounds = (1, 1) := by
  decide

end Readings

end Cursor

end BlockLexer
