import PracticeForge.Spec.Basic
import PracticeForge.Number.Binary64
import PracticeForge.Failure

/-!
# Spec/Rescale — fitting a difficulty plan to another total

`rescalePlan plan target` scales the counts of a plan so that they sum to `target`.  A plan
that already sums to the target is kept as it is.  Otherwise the counts of each difficulty are
merged, each merged count `m` becomes the double nearest to `m * target / total`, its integer
part is kept, and the units still missing go one each to the difficulties with the largest
fractional parts, a tie going to the easier one.  Difficulties left at zero are dropped.

The shares are doubles, not exact fractions: for totals and targets of ordinary size the two
agree, and for very large ones the integer parts of the doubles decide.  When more units are
missing than there are difficulties, each gets one; when the integer parts overshoot, the last
difficulties of the ranking lose theirs.
-/

namespace PracticeForge

namespace Rescale

/-- The merged count of each difficulty, easiest first, zero counts left out. -/
def merged (plan : List DifficultyCount) : List (Difficulty × Nat) :=
  (Difficulty.all.map fun d => (d, planTotal (plan.filter (·.difficulty == d)))).filter (0 < ·.2)

/-- A share: its difficulty, its integer part, and its fractional part as `num / den`. -/
structure Share where
  difficulty : Difficulty
  whole : Nat
  fracNum : Nat
  fracDen : Nat

/-- The share of `m` units of `total` scaled to `target`, as the nearest double; `none` when
that double would be infinite. -/
def share? (d : Difficulty) (m target total : Nat) : Option Share := do
  let x ← Binary64.ofRatio? false (m * target) total
  let (_, num, den) ← x.toRatio?
  pure ⟨d, num / den, num % den, den⟩

/-- Whether share `a` comes before share `b`: a larger fractional part first, then the easier
difficulty. -/
def Share.before (a b : Share) : Bool :=
  let l := a.fracNum * b.fracDen
  let r := b.fracNum * a.fracDen
  l > r || (l == r && a.difficulty.rank < b.difficulty.rank)

/-- The first `k` items for a non-negative `k`; for a negative `k`, all but the last `-k`. -/
def takeSigned {α : Type} (xs : List α) (k : Int) : List α :=
  if 0 ≤ k then xs.take k.toNat else xs.take (xs.length - k.natAbs)

end Rescale

open Rescale in
/-- Scales a plan to sum to `target`. -/
def rescalePlan (plan : List DifficultyCount) (target : Int) : Except Failure (List DifficultyCount) := do
  let total := planTotal plan
  if (total : Int) = target then return plan
  if total = 0 ∨ target ≤ 0 then return []
  let shares ← (merged plan).mapM fun (d, m) =>
    match share? d m target.toNat total with
    | some s => .ok s
    | none => .error (.overflow "integer division result too large for a float")
  let leftover : Int := target - ((shares.map (·.whole)).foldr (· + ·) 0 : Nat)
  let ranked := shares.mergeSort fun a b => a.before b
  let bumped := (takeSigned ranked leftover).map (·.difficulty)
  let counts := shares.map fun s => (s.difficulty, if bumped.contains s.difficulty then s.whole + 1 else s.whole)
  return counts.filterMap fun (d, n) => if h : 0 < n then some ⟨d, n, h⟩ else none

end PracticeForge
