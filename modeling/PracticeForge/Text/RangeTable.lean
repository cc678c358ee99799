/-!
# Text/RangeTable — sets of characters as sorted ranges

A character property of the Unicode database is kept as the sorted, disjoint list of inclusive
code point ranges that have it; `RangeTable.contains` finds a code point by halving the array.
-/

namespace PracticeForge

/-- A set of code points as sorted, disjoint, inclusive ranges. -/
structure RangeTable where
  ranges : Array (Nat × Nat)

namespace RangeTable

/-- The index of the last range that starts at or below `n`, searching `[lo, hi)`. -/
def lastStartAtMost (t : RangeTable) (n : Nat) : Nat → Nat → Nat → Option Nat
  | 0, _, _ => none
  | fuel + 1, lo, hi =>
    if hi ≤ lo then (if lo = 0 then none else some (lo - 1))
    else
      let mid := (lo + hi) / 2
      match t.ranges[mid]? with
      | some (a, _) =>
        if a ≤ n then lastStartAtMost t n fuel (mid + 1) hi else lastStartAtMost t n fuel lo mid
      | none => none

/-- The range holding a code point, if one does. -/
def find? (t : RangeTable) (n : Nat) : Option (Nat × Nat) :=
  match t.lastStartAtMost n 64 0 t.ranges.size with
  | some i =>
    match t.ranges[i]? with
    | some (a, b) => if a ≤ n ∧ n ≤ b then some (a, b) else none
    | none => none
  | none => none

/-- Whether the table holds a character. -/
def contains (t : RangeTable) (c : Char) : Bool := (t.find? c.toNat).isSome

end RangeTable

end PracticeForge
