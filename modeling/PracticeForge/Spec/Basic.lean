import PracticeForge.Json.Value

/-!
# Spec/Basic — the vocabulary of an activity spec

An activity is a set of practice problems in one language.  Each problem has a difficulty,
and a style that says how a solution gives its answer: by returning it, by printing it, or both.
A difficulty plan says how many problems of each difficulty an activity has.
-/

namespace PracticeForge

/-- The languages an activity can be set in. -/
inductive Language where
  | java
  | python
  | cpp
  | sql
  deriving DecidableEq, Repr, Inhabited

namespace Language

/-- All languages, in the order they are listed to learners. -/
def all : List Language := [.java, .python, .cpp, .sql]

/-- The identifier of a language. -/
def id : Language → String
  | .java => "java"
  | .python => "python"
  | .cpp => "cpp"
  | .sql => "sql"

/-- The language with an identifier. -/
def ofId? (s : String) : Option Language := all.find? (·.id == s)

end Language

/-- How hard a problem is. -/
inductive Difficulty where
  | easy
  | medium
  | hard
  deriving DecidableEq, Repr, Inhabited

namespace Difficulty

/-- All difficulties, easiest first. -/
def all : List Difficulty := [.easy, .medium, .hard]

/-- The identifier of a difficulty. -/
def id : Difficulty → String
  | .easy => "easy"
  | .medium => "medium"
  | .hard => "hard"

/-- The difficulty with an identifier. -/
def ofId? (s : String) : Option Difficulty := all.find? (·.id == s)

/-- The rank of a difficulty, easiest first. -/
def rank : Difficulty → Nat
  | .easy => 0
  | .medium => 1
  | .hard => 2

end Difficulty

/-- How a solution gives its answer. -/
inductive Style where
  /-- The answer is returned. -/
  | returned
  /-- The answer is printed. -/
  | printed
  /-- Both. -/
  | mixed
  deriving DecidableEq, Repr, Inhabited

namespace Style

/-- All styles. -/
def all : List Style := [.returned, .printed, .mixed]

/-- The identifier of a style. -/
def id : Style → String
  | .returned => "return"
  | .printed => "stdout"
  | .mixed => "mixed"

/-- The style with an identifier. -/
def ofId? (s : String) : Option Style := all.find? (·.id == s)

/-- The words learners and models use for the styles. -/
def words : List (String × Style) :=
  [("return", .returned), ("returns", .returned), ("stdout", .printed), ("print", .printed),
    ("printing", .printed), ("mixed", .mixed), ("both", .mixed)]

/-- The style a word names. -/
def ofWord? (word : String) : Option Style :=
  match words.find? (·.1 == word) with
  | some (_, s) => some s
  | none => none

end Style

/-- A number of problems of one difficulty; there is at least one. -/
structure DifficultyCount where
  difficulty : Difficulty
  count : Nat
  count_pos : 0 < count
  deriving DecidableEq, Repr

namespace DifficultyCount

/-- The JSON form. -/
def toJson (d : DifficultyCount) : Json :=
  .obj [("difficulty", .str d.difficulty.id), ("count", .int d.count)]

end DifficultyCount

/-- The number of problems a plan asks for. -/
def planTotal (plan : List DifficultyCount) : Nat := (plan.map (·.count)).foldr (· + ·) 0

/-- The fewest problems an activity has. -/
def minProblems : Nat := 1

/-- The most problems an activity has. -/
def maxProblems : Nat := 7

/-- The most topic tags kept. -/
def maxTopicTags : Nat := 12

/-- The longest topic tag kept. -/
def maxTopicLength : Nat := 48

/-- The longest constraints text accepted. -/
def maxConstraintsLength : Nat := 2000

/-- The longest generation focus accepted. -/
def maxFocusLength : Nat := 4000

/-- The fields of a spec. -/
inductive SpecField where
  | language
  | problemCount
  | difficultyPlan
  | topicTags
  | problemStyle
  | constraints
  | generationFocus
  deriving DecidableEq, Repr, Inhabited

namespace SpecField

/-- All fields, in the order a spec lists them. -/
def all : List SpecField :=
  [.language, .problemCount, .difficultyPlan, .topicTags, .problemStyle, .constraints,
    .generationFocus]

/-- The fields a learner is asked for, in the order they are asked; constraints follow from
the language. -/
def required : List SpecField := [.language, .problemCount, .difficultyPlan, .topicTags, .problemStyle]

/-- The fields whose change a learner must confirm. -/
def isHard : SpecField → Bool
  | .language | .problemCount | .difficultyPlan => true
  | _ => false

/-- The name of a field. -/
def name : SpecField → String
  | .language => "language"
  | .problemCount => "problem_count"
  | .difficultyPlan => "difficulty_plan"
  | .topicTags => "topic_tags"
  | .problemStyle => "problem_style"
  | .constraints => "constraints"
  | .generationFocus => "generation_focus"

/-- The field with a name. -/
def ofName? (s : String) : Option SpecField := all.find? (·.name == s)

/-- The rank of a field in spec order. -/
def rank (f : SpecField) : Nat := (all.idxOf? f).getD 0

end SpecField

end PracticeForge
