import PracticeForge.Spec.Draft

/-!
# Spec/Plan — one generation slot per problem

A frozen spec is laid out as slots, one per problem: easy ones first, then medium, then hard,
and topics taken in turn by slot position, so that each run of slots of one difficulty spreads
its topics as evenly as the number of topics allows.  The plan must add up to the problem
count; a spec whose plan does not is a defect upstream and stops the planner.
-/

namespace PracticeForge

open Schema

/-- One problem to generate. -/
structure Slot where
  index : Int
  difficulty : Difficulty
  topic : String
  language : Language
  problemStyle : Style
  deriving Repr, Inhabited

namespace Slot

/-- The JSON form. -/
def toJson (s : Slot) : Json :=
  .obj [("index", .int s.index), ("difficulty", .str s.difficulty.id), ("topic", .str s.topic),
    ("language", .str s.language.id), ("problem_style", .str s.problemStyle.id)]

/-- Reads a slot. -/
def check (j : Json) : Checked Slot := do
  let fs ← entries j
  let index := field fs "index" int none
  let difficulty := field fs "difficulty" (literal (Difficulty.all.map (·.id))) none
  let topic := field fs "topic" str none
  let language := field fs "language" (literal (Language.all.map (·.id))) none
  let style := field fs "problem_style" (literal (Style.all.map (·.id))) none
  match index, difficulty, topic, language, style with
  | .ok i, .ok d, .ok t, .ok l, .ok s =>
    match Difficulty.ofId? d, Language.ofId? l, Style.ofId? s with
    | some d, some l, some s => pure ⟨i, d, t, l, s⟩
    | _, _, _ => fault .literalError
  | _, _, _, _, _ =>
    .error (issuesOf index ++ issuesOf difficulty ++ issuesOf topic ++ issuesOf language ++
      issuesOf style)

end Slot

/-- The difficulty of each problem, easiest first. -/
def expandDifficulties (plan : List DifficultyCount) : List Difficulty :=
  Difficulty.all.flatMap fun d => List.replicate (planTotal (plan.filter (·.difficulty == d))) d

/-- Lays a spec out as slots. -/
def planSlots (spec : ActivitySpec) : Except Failure (List Slot) := do
  let total := planTotal spec.difficultyPlan
  if total ≠ spec.problemCount then
    throw (.plannerInvariant ("difficulty plan sums to " ++ Nat.repr total ++ ", expected " ++
      Nat.repr spec.problemCount))
  let topics := spec.topicTags
  if topics.isEmpty then throw (.plannerInvariant "activity has no topic tags")
  return (expandDifficulties spec.difficultyPlan).zipIdx.map fun (d, i) =>
    ⟨i, d, topics.getD (i % topics.length) "", spec.language, spec.problemStyle⟩

end PracticeForge
