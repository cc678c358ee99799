import PracticeForge.Spec.Basic
import PracticeForge.Schema.Check
import PracticeForge.Failure

/-!
# Spec/Draft — the spec agreed so far, and the frozen spec

A `SpecDraft` holds what a learner and the assistant have agreed on, each field possibly
absent.  A field counts as missing while it is absent or empty (a zero count, an empty plan or
list, an empty text).  Freezing a complete draft gives an `ActivitySpec`, whose fields are all
present and within bounds: one to seven problems, a non-empty plan, at least one topic and a
non-empty constraints text.

Both have a JSON form with every field present (`null` for an absent one), and both are read
back from JSON by the lenient checks of `Schema`; a draft is merged with new values by reading
its JSON form with those values written over it.
-/

namespace PracticeForge

open Schema

/-- Reads one entry of a difficulty plan. -/
def DifficultyCount.check (j : Json) : Checked DifficultyCount := do
  let fs ← entries j
  let d := field fs "difficulty" (literal (Difficulty.all.map (·.id))) none
  let c := field fs "count" (intAtLeast 1) none
  match d, c with
  | .ok d, .ok c =>
    match Difficulty.ofId? d with
    | some d => if h : 0 < c.toNat then pure ⟨d, c.toNat, h⟩ else fault .greaterThanEqual
    | none => fault .literalError
  | _, _ => .error (issuesOf d ++ issuesOf c)

/-- The spec agreed so far. -/
structure SpecDraft where
  language : Option Language
  problemCount : Option Int
  difficultyPlan : Option (List DifficultyCount)
  topicTags : Option (List String)
  problemStyle : Option Style
  constraints : Option String
  generationFocus : Option String
  deriving Repr

namespace SpecDraft

/-- The draft with nothing agreed. -/
def empty : SpecDraft := ⟨none, none, none, none, none, none, none⟩

/-- The JSON form, every field present. -/
def toJson (s : SpecDraft) : Json :=
  .obj [("language", (s.language.map (Json.str ·.id)).getD .null),
    ("problem_count", Json.ofIntOpt s.problemCount),
    ("difficulty_plan", (s.difficultyPlan.map fun p => Json.arr (p.map DifficultyCount.toJson)).getD .null),
    ("topic_tags", (s.topicTags.map Json.ofStrs).getD .null),
    ("problem_style", (s.problemStyle.map (Json.str ·.id)).getD .null),
    ("constraints", Json.ofStrOpt s.constraints),
    ("generation_focus", Json.ofStrOpt s.generationFocus)]

/-- Reads a draft: every field may be absent or `null`. -/
def check (j : Json) : Checked SpecDraft := do
  let fs ← entries j
  let language := field fs "language" (nullable (literal (Language.all.map (·.id)))) (some none)
  let count := field fs "problem_count" (nullable int) (some none)
  let plan := field fs "difficulty_plan" (nullable (list DifficultyCount.check)) (some none)
  let tags := field fs "topic_tags" (nullable (list str)) (some none)
  let style := field fs "problem_style" (nullable (literal (Style.all.map (·.id)))) (some none)
  let constraints := field fs "constraints" (nullable str) (some none)
  let focus := field fs "generation_focus" (nullable str) (some none)
  match language, count, plan, tags, style, constraints, focus with
  | .ok l, .ok c, .ok p, .ok t, .ok s, .ok k, .ok f =>
    pure ⟨l.bind Language.ofId?, c, p, t, s.bind Style.ofId?, k, f⟩
  | _, _, _, _, _, _, _ =>
    .error (issuesOf language ++ issuesOf count ++ issuesOf plan ++ issuesOf tags ++
      issuesOf style ++ issuesOf constraints ++ issuesOf focus)

/-- Whether a field holds a value that counts as given: present and not empty or zero. -/
def has (s : SpecDraft) : SpecField → Bool
  | .language => s.language.isSome
  | .problemCount => match s.problemCount with | some n => n != 0 | none => false
  | .difficultyPlan => match s.difficultyPlan with | some p => !p.isEmpty | none => false
  | .topicTags => match s.topicTags with | some t => !t.isEmpty | none => false
  | .problemStyle => s.problemStyle.isSome
  | .constraints => match s.constraints with | some c => !c.isEmpty | none => false
  | .generationFocus => match s.generationFocus with | some c => !c.isEmpty | none => false

/-- The fields still to be agreed, in the order they are asked, constraints last. -/
def missing (s : SpecDraft) : List SpecField :=
  (SpecField.required ++ [SpecField.constraints]).filter fun f => !s.has f

/-- Whether nothing is missing. -/
def isComplete (s : SpecDraft) : Bool := s.missing.isEmpty

/-- The draft with new values written over its fields; the result is read back and checked. -/
def merge (s : SpecDraft) (values : List (String × Json)) : Checked SpecDraft :=
  match s.toJson with
  | .obj fs => check (.obj (values.foldl (fun acc e => Json.setEntry acc e.1 e.2) fs))
  | other => check other

end SpecDraft

/-- A complete spec, as the planner takes it. -/
structure ActivitySpec where
  language : Language
  problemCount : Nat
  difficultyPlan : List DifficultyCount
  topicTags : List String
  problemStyle : Style
  constraints : String
  generationFocus : Option String
  count_pos : minProblems ≤ problemCount
  count_le : problemCount ≤ maxProblems
  plan_ne : difficultyPlan ≠ []
  tags_ne : topicTags ≠ []
  deriving Repr

namespace ActivitySpec

/-- The JSON form. -/
def toJson (s : ActivitySpec) : Json :=
  .obj [("language", .str s.language.id),
    ("problem_count", .int s.problemCount),
    ("difficulty_plan", .arr (s.difficultyPlan.map DifficultyCount.toJson)),
    ("topic_tags", Json.ofStrs s.topicTags),
    ("problem_style", .str s.problemStyle.id),
    ("constraints", .str s.constraints),
    ("generation_focus", Json.ofStrOpt s.generationFocus)]

/-- Reads a complete spec. -/
def check (j : Json) : Checked ActivitySpec := do
  let fs ← entries j
  let language := field fs "language" (literal (Language.all.map (·.id))) none
  let count := field fs "problem_count" (intBetween minProblems maxProblems) none
  let plan := field fs "difficulty_plan" (tupleMin 1 DifficultyCount.check) none
  let tags := field fs "topic_tags" (tupleMin 1 str) none
  let style := field fs "problem_style" (literal (Style.all.map (·.id))) none
  let constraints := field fs "constraints" (strMin 1) none
  let focus := field fs "generation_focus" (nullable str) (some none)
  match language, count, plan, tags, style, constraints, focus with
  | .ok l, .ok c, .ok p, .ok t, .ok s, .ok k, .ok f =>
    match Language.ofId? l, Style.ofId? s with
    | some l, some s =>
      if h1 : minProblems ≤ c.toNat then
        if h2 : c.toNat ≤ maxProblems then
          if h3 : p ≠ [] then
            if h4 : t ≠ [] then pure ⟨l, c.toNat, p, t, s, k, f, h1, h2, h3, h4⟩
            else fault .tooShort
          else fault .tooShort
        else fault .lessThanEqual
      else fault .greaterThanEqual
    | _, _ => fault .literalError
  | _, _, _, _, _, _, _ =>
    .error (issuesOf language ++ issuesOf count ++ issuesOf plan ++ issuesOf tags ++
      issuesOf style ++ issuesOf constraints ++ issuesOf focus)

/-- The spec as a draft. -/
def toDraft (s : ActivitySpec) : SpecDraft :=
  ⟨some s.language, some s.problemCount, some s.difficultyPlan, some s.topicTags,
    some s.problemStyle, some s.constraints, s.generationFocus⟩

end ActivitySpec

/-- Freezes a draft: its JSON form read as a complete spec. -/
def SpecDraft.freeze (s : SpecDraft) : Checked ActivitySpec := ActivitySpec.check s.toJson

end PracticeForge
