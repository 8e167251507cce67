/-! # Ranges of code points

A class of characters is given by the ranges of its code points in increasing order. The search
stops at the first range that lies beyond the code point; `Ranges.contains_iff` says that it misses
no member.
-/

namespace BlockLexer.Unicode

/-- The code point lies in one of the ranges, which are in increasing order. -/
def inRanges : List (Nat × Nat) → Nat → Bool
  | [], _ => false
  | (first, last) :: ranges, code =>
      if code < first then false
      else if code ≤ last then true
      else inRanges ranges code

/-- No range is empty, and each ends before the next one begins. -/
def isIncreasing : List (Nat × Nat) → Bool
  | [] => true
  | (first, last) :: ranges =>
      decide (first ≤ last) && ranges.head?.all (fun next => decide (last < next.1)) &&
        isIncreasing ranges

/-- A class of characters, by the first and the last code point of each of its ranges. -/
structure Ranges where
  bounds : List (Nat × Nat)
  increasing : isIncreasing bounds

/-- In an increasing list, every later range begins beyond the end of the first one. -/
theorem lt_of_isIncreasing {first last : Nat} {ranges : List (Nat × Nat)}
    (hincreasing : isIncreasing ((first, last) :: ranges)) {range : Nat × Nat}
    (hrange : range ∈ ranges) : last < range.1 := by
  induction ranges generalizing first last with
  | nil => simp at hrange
  | cons next ranges ih =>
      obtain ⟨low, high⟩ := next
      simp only [isIncreasing, List.head?_cons, Option.all_some, Bool.and_eq_true,
        decide_eq_true_eq] at hincreasing
      obtain ⟨⟨_, hbefore⟩, ⟨hnonempty, hnext⟩, htail⟩ := hincreasing
      rcases List.mem_cons.mp hrange with rfl | hlater
      · exact hbefore
      · have hhigh : high < range.1 := by
          apply @ih low high _ hlater
          simp [isIncreasing, hnonempty, hnext, htail]
        omega

/-- The search finds exactly the code points of increasing ranges. -/
theorem inRanges_iff {ranges : List (Nat × Nat)} (hincreasing : isIncreasing ranges) (code : Nat) :
    inRanges ranges code ↔ ∃ range ∈ ranges, range.1 ≤ code ∧ code ≤ range.2 := by
  induction ranges with
  | nil => simp [inRanges]
  | cons head ranges ih =>
      obtain ⟨first, last⟩ := head
      have hlater : ∀ range ∈ ranges, last < range.1 := fun _ hrange =>
        lt_of_isIncreasing hincreasing hrange
      simp only [isIncreasing, Bool.and_eq_true, decide_eq_true_eq] at hincreasing
      obtain ⟨⟨hnonempty, _⟩, htail⟩ := hincreasing
      simp only [inRanges]
      split
      · next hbefore =>
        simp only [Bool.false_eq_true, false_iff, not_exists, not_and]
        intro range hrange hlow
        rcases List.mem_cons.mp hrange with rfl | hmem
        · simp only at hlow; omega
        · have := hlater range hmem; omega
      · next hreached =>
        split
        · next hwithin =>
          simp only [true_iff]
          exact ⟨(first, last), List.mem_cons_self, by simp only; omega, hwithin⟩
        · next hbeyond =>
          rw [ih htail]
          constructor
          · rintro ⟨range, hrange, hcode⟩
            exact ⟨range, List.mem_cons_of_mem _ hrange, hcode⟩
          · rintro ⟨range, hrange, hlow, hhigh⟩
            rcases List.mem_cons.mp hrange with rfl | hmem
            · exact absurd hhigh hbeyond
            · exact ⟨range, hmem, hlow, hhigh⟩

namespace Ranges

/-- `c` belongs to the class. -/
def contains (ranges : Ranges) (c : Char) : Bool :=
  inRanges ranges.bounds c.toNat

/-- A class holds the characters between the bounds of its ranges. -/
theorem contains_iff {ranges : Ranges} {c : Char} :
    ranges.contains c ↔
      ∃ range ∈ ranges.bounds, range.1 ≤ c.toNat ∧ c.toNat ≤ range.2 :=
  inRanges_iff ranges.increasing c.toNat

end Ranges

end BlockLexer.Unicode
