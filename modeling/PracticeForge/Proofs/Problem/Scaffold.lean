import PracticeForge.Proofs.Basic
import PracticeForge.Problem.Guided

/-!
# Proofs/Problem/Scaffold — what stubbing takes out of a reference

Stubbing a source (`Outline.scaffoldAt`) walks its public functions from the last `def` up and
splices, for each body that starts below its `def`, a TODO block over the lines the body takes
(`stubOf`).  Taken from the bottom up, the splices do not move the lines still to be replaced:
as long as the bodies follow one another down the source without overlapping (`InOrder`), the
walk replaces them all at once (`replaceRanges`), and every other line stays, in order.

Lines are counted twice here: the reader numbers them at line feeds, carriage returns and the
pairs of both, and the text is cut into lines by `Text.lines`, which also breaks at a form feed
and a few other characters.  Where the two differ, the ranges the reader gives are not those of
the list of lines, and `InOrder` then speaks of the numbers the reader gave, not of the text.

Main statement: `Outline.scaffoldAt_replaces_bodies` — for a source that reads, stubbing gives
nothing exactly when no public body is stubbed, and otherwise, when the public `def`s stand on
increasing lines and their bodies follow one another down the lines, the lines with every body
replaced.
-/

namespace PracticeForge

namespace Outline

/-! ## What stubbing does with one function -/

/-- The statements of a body that a learner writes: all of it but a leading docstring. -/
def learnerBody : List Stmt → List Stmt
  | .docstring _ :: rest => rest
  | b => b

/-- What stubbing does with a public function: the indices in the list of lines that its body
takes, from the line of its first statement (or of that statement's first decorator) up to the
body's last line, and the TODO block that replaces them, indented as that statement.  Nothing
when the body, after its docstring, is empty or starts on the line of the `def`. -/
def stubOf : String × Span × List Stmt → Option (Nat × Nat × List String)
  | (name, sp, body) =>
    match (learnerBody body).head?, (learnerBody body).getLast? with
    | some first, some last =>
      if first.decorators.foldl min first.span.line = sp.line then none
      else some (first.decorators.foldl min first.span.line - 1, last.span.endLine,
        stubLines (String.ofList (List.replicate first.span.col ' ')) name)
    | _, _ => none

/-- The ranges of lines that stubbing replaces, with their blocks, in source order. -/
def stubRanges (stmts : List Stmt) : List (Nat × Nat × List String) :=
  (publicFunctions stmts).filterMap stubOf

/-- One step of stubbing: the block of a function spliced in, and the text marked as changed. -/
def stubStep (acc : List String × Bool) (fn : String × Span × List Stmt) : List String × Bool :=
  match stubOf fn with
  | some r => (spliceLines acc.1 r.1 r.2.1 r.2.2, true)
  | none => acc

/-! ## Replacing ranges all at once -/

/-- Ranges that follow one another down a list of `n` lines, the first starting at `pos` or
later: each ends no earlier than it starts and no later than the next starts, and the last ends
within the lines. -/
def InOrder (n : Nat) : Nat → List (Nat × Nat × List String) → Prop
  | pos, [] => pos ≤ n
  | pos, (a, b, _) :: rs => pos ≤ a ∧ a ≤ b ∧ InOrder n b rs

instance InOrder.decide (n : Nat) : ∀ pos rs, Decidable (InOrder n pos rs)
  | pos, [] => inferInstanceAs (Decidable (pos ≤ n))
  | pos, (a, b, _) :: rs =>
    have := InOrder.decide n b rs
    inferInstanceAs (Decidable (pos ≤ a ∧ a ≤ b ∧ InOrder n b rs))

/-- The lines from index `pos` on, with each range (from `a` up to `b`, exclusive) replaced by
its block and every line between ranges kept. -/
def replaceRanges (lines : List String) : Nat → List (Nat × Nat × List String) → List String
  | pos, [] => lines.drop pos
  | pos, (a, b, new) :: rs => (lines.drop pos).take (a - pos) ++ new ++ replaceRanges lines b rs

theorem InOrder.le_length {n pos : Nat} {rs : List (Nat × Nat × List String)} (h : InOrder n pos rs) :
    pos ≤ n := by
  induction rs generalizing pos with
  | nil => exact h
  | cons r rs ih =>
    obtain ⟨a, b, new⟩ := r
    obtain ⟨hpa, hab, hrest⟩ := h
    have := ih hrest
    omega

/-- A splice within the lines keeps what comes before and after it. -/
theorem spliceLines_of_le {lines new : List String} {a b : Nat} (hab : a ≤ b) (hb : b ≤ lines.length) :
    spliceLines lines a b new = lines.take a ++ new ++ lines.drop b := by
  simp only [spliceLines, Nat.min_eq_left (hab.trans hb), Nat.min_eq_left hb, Nat.max_eq_right hab]

/-- **Splicing from the bottom up replaces all ranges at once.**  Each splice leaves the lines
above it where they were, so the ranges above are still found at their indices. -/
theorem foldr_splice {lines : List String} {pos : Nat} {rs : List (Nat × Nat × List String)}
    (h : InOrder lines.length pos rs) :
    rs.foldr (fun r ls => spliceLines ls r.1 r.2.1 r.2.2) lines = lines.take pos ++ replaceRanges lines pos rs := by
  induction rs generalizing pos with
  | nil => exact (List.take_append_drop pos lines).symm
  | cons r rs ih =>
    obtain ⟨a, b, new⟩ := r
    obtain ⟨hpa, hab, hrest⟩ := h
    have hb := hrest.le_length
    -- the splices below `b` leave the first `b` lines as they were
    have hlen : (lines.take b).length = b := List.length_take_of_le hb
    rw [List.foldr_cons, ih hrest, spliceLines_of_le hab (by simp only [List.length_append]; omega),
      List.take_append_of_le_length (by omega), List.take_take, Nat.min_eq_left hab, List.drop_left' hlen]
    simp only [replaceRanges, ← List.append_assoc]
    rw [← List.take_add, Nat.add_sub_cancel' hpa]

/-! ## The walk from the last `def` up -/

/-- Stubbing functions one after another splices the blocks of those that have one, in that
order, and marks the text changed exactly when one has. -/
theorem foldl_stubStep (fns : List (String × Span × List Stmt)) (acc : List String × Bool) :
    fns.foldl stubStep acc =
      ((fns.filterMap stubOf).foldl (fun ls r => spliceLines ls r.1 r.2.1 r.2.2) acc.1,
        acc.2 || !(fns.filterMap stubOf).isEmpty) := by
  induction fns generalizing acc with
  | nil => simp
  | cons fn fns ih =>
    rw [List.foldl_cons, ih]
    cases h : stubOf fn with
    | none => simp [stubStep, h]
    | some r => simp [stubStep, h]

/-- Sorting functions by their `def` lines, last first, reverses them when the lines increase. -/
theorem mergeSort_defs {fns : List (String × Span × List Stmt)}
    (h : fns.Pairwise fun a b => a.2.1.line < b.2.1.line) :
    (fns.mergeSort fun a b => a.2.1.line ≥ b.2.1.line) = fns.reverse := by
  -- two functions on one line are one function
  have hsame := List.inj_on_of_nodup_map (List.pairwise_map.2 h).nodup
  have hsorted : (fns.mergeSort fun a b => a.2.1.line ≥ b.2.1.line).Pairwise
      fun a b => decide (a.2.1.line ≥ b.2.1.line) = true :=
    List.pairwise_mergeSort (fun a b c hab hbc => by simp at hab hbc ⊢; omega) (fun a b => by simp; omega) fns
  have hrev : fns.reverse.Pairwise fun a b => decide (a.2.1.line ≥ b.2.1.line) = true :=
    List.pairwise_reverse.2 (h.imp fun hab => by simp; omega)
  refine List.Perm.eq_of_pairwise (fun a b ha hb hab hba => ?_) hsorted hrev
    ((List.mergeSort_perm fns _).trans (List.reverse_perm fns).symm)
  exact hsame (List.mem_mergeSort.1 ha) (List.mem_reverse.1 hb) (by simp at hab hba; omega)

/-- **Stubbing a source that reads**: the blocks of its public functions spliced into its lines
from the last `def` up, the result joined with line breaks and ending with one; nothing when no
block was spliced. -/
theorem scaffoldAt_of_read {calls : Nat} {source : String} {stmts : List Stmt}
    (henc : Text.utf8Refusal? source = none) (hnul : Char.ofNat 0 ∉ source.toList)
    (hread : read source (treeRoom calls) = .ok stmts) :
    scaffoldAt calls source =
      let P := ((publicFunctions stmts).mergeSort fun a b => a.2.1.line ≥ b.2.1.line).filterMap stubOf
      .ok (if P.isEmpty then none
        else some ("\n".intercalate (P.foldl (fun ls r => spliceLines ls r.1 r.2.1 r.2.2) (Text.lines source))
          ++ "\n")) := by
  have hnul' : source.toList.contains (Char.ofNat 0) = false := by simpa using hnul
  unfold scaffoldAt
  simp only [henc, hnul', hread, Bool.false_eq_true, if_false]
  rw [List.foldl_ext _ stubStep _ fun acc fn _ => ?step, foldl_stubStep]
  · -- the text is marked changed exactly when a block was spliced
    generalize (publicFunctions stmts).mergeSort (fun a b => a.2.1.line ≥ b.2.1.line) = fns
    cases (fns.filterMap stubOf).isEmpty <;> rfl
  case step =>
    obtain ⟨name, sp, body⟩ := fn
    -- once the body's first statements are known (a docstring, then at most one more), both
    -- sides drop the docstring alike and take the same branch
    rcases body with _ | ⟨_ | _ | _ | _, _ | ⟨_, _⟩⟩
    all_goals simp only [stubStep, stubOf, learnerBody, List.head?_nil, List.head?_cons,
      List.getLast?_nil, List.getLast?_cons, beq_iff_eq]
    all_goals split <;> rfl

/-! ## Stubbing replaces the public bodies -/

/-- **Stubbing replaces exactly the public bodies.**  For a source that UTF-8 encodes, holds no
NUL and reads: stubbing gives nothing exactly when no public function has a body to stub.  When
the public `def`s stand on increasing lines and their bodies follow one another down the lines
of the text without overlapping, it gives the lines of the text with every such body replaced
by its TODO block and every other line kept, in order, joined with line breaks and ending with
one. -/
theorem scaffoldAt_replaces_bodies {calls : Nat} {source : String} {stmts : List Stmt}
    (henc : Text.utf8Refusal? source = none) (hnul : Char.ofNat 0 ∉ source.toList)
    (hread : read source (treeRoom calls) = .ok stmts) :
    (scaffoldAt calls source = .ok none ↔ stubRanges stmts = []) ∧
      ((publicFunctions stmts).Pairwise (fun a b => a.2.1.line < b.2.1.line) →
        InOrder (Text.lines source).length 0 (stubRanges stmts) → stubRanges stmts ≠ [] →
        scaffoldAt calls source =
          .ok (some ("\n".intercalate (replaceRanges (Text.lines source) 0 (stubRanges stmts)) ++ "\n"))) := by
  rw [scaffoldAt_of_read henc hnul hread]
  -- sorting the functions changes only the order of the blocks spliced
  have hsome : (((publicFunctions stmts).mergeSort fun a b => a.2.1.line ≥ b.2.1.line).filterMap
      stubOf).isEmpty = (stubRanges stmts).isEmpty := by
    rw [Bool.eq_iff_iff]
    simp only [stubRanges, List.isEmpty_iff, List.filterMap_eq_nil_iff, List.mem_mergeSort]
  refine ⟨?_, fun hdefs hord hne => ?_⟩
  · dsimp only
    rw [hsome]
    cases h : stubRanges stmts <;> simp
  · -- from the last `def` up is the reverse of source order, so the splices go from the bottom up
    dsimp only
    rw [hsome, mergeSort_defs hdefs, List.filterMap_reverse]
    simp only [List.foldl_reverse]
    rw [← stubRanges, foldr_splice hord, List.take_zero, List.nil_append]
    simp [List.isEmpty_iff, hne]

/-- Two public bodies, one of a method after its docstring, each replaced by a block indented as
the body was. -/
example :
    scaffoldAt scaffoldCalls
        "def f():\n    return 1\n\n\nclass C:\n    def g(self, x):\n        \"\"\"Doc.\"\"\"\n        y = x\n        return y\n" =
      .ok (some ("def f():\n    # BEGIN STUDENT TODO\n    # Implement f.\n    raise NotImplementedError\n" ++
        "    # END STUDENT TODO\n\n\nclass C:\n    def g(self, x):\n        \"\"\"Doc.\"\"\"\n" ++
        "        # BEGIN STUDENT TODO\n        # Implement g.\n        raise NotImplementedError\n" ++
        "        # END STUDENT TODO\n")) := by
  -- what the reader gives, seen through the public functions it finds
  have hview : (fun stmts => ((publicFunctions stmts).map (·.2.1.line), stubRanges stmts)) <$>
      read "def f():\n    return 1\n\n\nclass C:\n    def g(self, x):\n        \"\"\"Doc.\"\"\"\n        y = x\n        return y\n"
        (treeRoom scaffoldCalls) =
      .ok ([1, 6], [(1, 2, stubLines "    " "f"), (7, 9, stubLines "        " "g")]) := by
    decide +kernel
  rcases hread : read "def f():\n    return 1\n\n\nclass C:\n    def g(self, x):\n        \"\"\"Doc.\"\"\"\n        y = x\n        return y\n"
      (treeRoom scaffoldCalls) with e | stmts
  · rw [hread] at hview
    cases hview
  · rw [hread] at hview
    simp only [Functor.map, Except.map, Except.ok.injEq, Prod.mk.injEq] at hview
    obtain ⟨hlines, hR⟩ := hview
    rw [(scaffoldAt_replaces_bodies (by decide +kernel) (by decide +kernel) hread).2
      (List.pairwise_map.1 (hlines ▸ by decide)) (hR ▸ by decide +kernel) (hR ▸ by simp), hR]
    exact congrArg (fun s => Except.ok (some s)) (by decide +kernel)

end Outline

end PracticeForge
