import PracticeForge.Spec.Basic
import PracticeForge.Schema.Check

/-!
# Problem/Basic — practice problems and the drafts they come from

A problem is what a learner sees: a statement, samples, starter code (or a workspace of files),
the test suite the judge runs, and optionally the teaching settings.  A draft is a problem as
the generator wrote it, still carrying the reference solution (a text, or a workspace of files)
that proved the tests pass; a problem never carries one, and reading a problem refuses keys it
does not know.
-/

namespace PracticeForge

open Schema

/-- What a workspace file is for. -/
inductive FileRole where
  | entry
  | support
  | readonly
  deriving DecidableEq, Repr, Inhabited

namespace FileRole

/-- All roles. -/
def all : List FileRole := [.entry, .support, .readonly]

/-- The identifier of a role. -/
def id : FileRole → String
  | .entry => "entry"
  | .support => "support"
  | .readonly => "readonly"

end FileRole

/-- A file of a workspace. -/
structure WorkspaceFile where
  path : String
  role : FileRole
  content : String
  deriving Repr, Inhabited

/-- A set of files, one of which is where a solution starts. -/
structure Workspace where
  files : List WorkspaceFile
  entrypoint : String
  deriving Repr, Inhabited

/-- A sample input with its expected output. -/
structure SampleCase where
  input : String
  output : String
  deriving Repr, Inhabited

/-- Teaching settings of a problem. -/
structure Pedagogy where
  scaffoldLevel : Int
  learningGoal : String
  hintsEnabled : Bool
  deriving Repr, Inhabited

/-- A problem as a learner sees it. -/
structure Problem where
  id : String
  title : String
  description : String
  language : Language
  difficulty : Difficulty
  topicTag : String
  problemStyle : Style
  constraints : String
  samples : List SampleCase
  starterCode : Option String
  workspace : Option Workspace
  testSuite : String
  pedagogy : Option Pedagogy
  deriving Repr, Inhabited

/-- A problem as generated, with its reference solution. -/
structure ProblemDraft where
  problem : Problem
  referenceSolution : Option String
  referenceWorkspace : Option Workspace
  deriving Repr, Inhabited

namespace WorkspaceFile

/-- The JSON form. -/
def toJson (f : WorkspaceFile) : Json :=
  .obj [("path", .str f.path), ("role", .str f.role.id), ("content", .str f.content)]

/-- Reads a file. -/
def check (j : Json) : Checked WorkspaceFile := do
  let fs ← entries j
  let path := field fs "path" str none
  let role := field fs "role" (literal (FileRole.all.map (·.id))) (some "support")
  let content := field fs "content" str none
  match path, role, content with
  | .ok p, .ok r, .ok c => pure ⟨p, (FileRole.all.find? (·.id == r)).getD .support, c⟩
  | _, _, _ => .error (issuesOf path ++ issuesOf role ++ issuesOf content)

end WorkspaceFile

namespace Workspace

/-- The JSON form. -/
def toJson (w : Workspace) : Json :=
  .obj [("files", .arr (w.files.map WorkspaceFile.toJson)), ("entrypoint", .str w.entrypoint)]

/-- Reads a workspace: at least one file. -/
def check (j : Json) : Checked Workspace := do
  let fs ← entries j
  let files := field fs "files" (listMin 1 WorkspaceFile.check) none
  let entry := field fs "entrypoint" str none
  match files, entry with
  | .ok f, .ok e => pure ⟨f, e⟩
  | _, _ => .error (issuesOf files ++ issuesOf entry)

/-- The files as a map from path to content; a later file of the same path wins, in the place
of the first. -/
def fileMap (w : Workspace) : List (String × String) :=
  w.files.foldl (fun acc f =>
    if acc.any (·.1 == f.path) then acc.map fun e => if e.1 == f.path then (f.path, f.content) else e
    else acc ++ [(f.path, f.content)]) []

end Workspace

namespace SampleCase

/-- The JSON form. -/
def toJson (s : SampleCase) : Json := .obj [("input", .str s.input), ("output", .str s.output)]

/-- Reads a sample. -/
def check (j : Json) : Checked SampleCase := do
  let fs ← entries j
  let i := field fs "input" str none
  let o := field fs "output" str none
  match i, o with
  | .ok i, .ok o => pure ⟨i, o⟩
  | _, _ => .error (issuesOf i ++ issuesOf o)

end SampleCase

namespace Pedagogy

/-- The JSON form. -/
def toJson (p : Pedagogy) : Json :=
  .obj [("scaffold_level", .int p.scaffoldLevel), ("learning_goal", .str p.learningGoal),
    ("hints_enabled", .bool p.hintsEnabled)]

/-- Reads teaching settings. -/
def check (j : Json) : Checked Pedagogy := do
  let fs ← entries j
  let level := field fs "scaffold_level" (intBetween 0 100) none
  let goal := field fs "learning_goal" str none
  let hints := field fs "hints_enabled" bool (some true)
  match level, goal, hints with
  | .ok l, .ok g, .ok h => pure ⟨l, g, h⟩
  | _, _, _ => .error (issuesOf level ++ issuesOf goal ++ issuesOf hints)

end Pedagogy

namespace Problem

/-- The keys of a problem's JSON form. -/
def keys : List String :=
  ["id", "title", "description", "language", "difficulty", "topic_tag", "problem_style",
    "constraints", "samples", "starter_code", "workspace", "test_suite", "pedagogy"]

/-- The JSON form. -/
def toJson (p : Problem) : Json :=
  .obj [("id", .str p.id), ("title", .str p.title), ("description", .str p.description),
    ("language", .str p.language.id), ("difficulty", .str p.difficulty.id),
    ("topic_tag", .str p.topicTag), ("problem_style", .str p.problemStyle.id),
    ("constraints", .str p.constraints), ("samples", .arr (p.samples.map SampleCase.toJson)),
    ("starter_code", Json.ofStrOpt p.starterCode),
    ("workspace", (p.workspace.map Workspace.toJson).getD .null),
    ("test_suite", .str p.testSuite),
    ("pedagogy", (p.pedagogy.map Pedagogy.toJson).getD .null)]

/-- Reads the fields a problem and a draft share. -/
def checkFields (fs : List (String × Json)) : Checked Problem :=
  let id := field fs "id" str none
  let title := field fs "title" str none
  let description := field fs "description" str none
  let language := field fs "language" (literal (Language.all.map (·.id))) none
  let difficulty := field fs "difficulty" (literal (Difficulty.all.map (·.id))) none
  let topic := field fs "topic_tag" str none
  let style := field fs "problem_style" (literal (Style.all.map (·.id))) none
  let constraints := field fs "constraints" str none
  let samples := field fs "samples" (list SampleCase.check) none
  let starter := field fs "starter_code" (nullable str) (some none)
  let workspace := field fs "workspace" (nullable Workspace.check) (some none)
  let tests := field fs "test_suite" str none
  let pedagogy := field fs "pedagogy" (nullable Pedagogy.check) (some none)
  match id, title, description, language, difficulty, topic, style, constraints, samples,
      starter, workspace, tests, pedagogy with
  | .ok i, .ok t, .ok d, .ok l, .ok df, .ok tp, .ok s, .ok c, .ok sm, .ok st, .ok w, .ok ts,
      .ok pd =>
    match Language.ofId? l, Difficulty.ofId? df, Style.ofId? s with
    | some l, some df, some s => .ok ⟨i, t, d, l, df, tp, s, c, sm, st, w, ts, pd⟩
    | _, _, _ => fault .literalError
  | _, _, _, _, _, _, _, _, _, _, _, _, _ =>
    .error (issuesOf id ++ issuesOf title ++ issuesOf description ++ issuesOf language ++
      issuesOf difficulty ++ issuesOf topic ++ issuesOf style ++ issuesOf constraints ++
      issuesOf samples ++ issuesOf starter ++ issuesOf workspace ++ issuesOf tests ++
      issuesOf pedagogy)

/-- Reads a problem; keys it does not know are faults. -/
def check (j : Json) : Checked Problem := do
  let fs ← entries j
  let p := checkFields fs
  let extra := extraKeys fs keys
  match p with
  | .ok p => if extra.isEmpty then pure p else .error extra
  | .error is => .error (is ++ extra)

end Problem

namespace ProblemDraft

/-- The JSON form: the problem's fields and the reference fields. -/
def toJson (d : ProblemDraft) : Json :=
  match d.problem.toJson with
  | .obj fs => .obj (fs ++ [("reference_solution", Json.ofStrOpt d.referenceSolution),
      ("reference_workspace", (d.referenceWorkspace.map Workspace.toJson).getD .null)])
  | other => other

/-- Reads a draft; unknown keys are ignored. -/
def check (j : Json) : Checked ProblemDraft := do
  let fs ← entries j
  let p := Problem.checkFields fs
  let rs := field fs "reference_solution" (nullable str) (some none)
  let rw := field fs "reference_workspace" (nullable Workspace.check) (some none)
  match p, rs, rw with
  | .ok p, .ok rs, .ok rw => pure ⟨p, rs, rw⟩
  | _, _, _ => .error (issuesOf p ++ issuesOf rs ++ issuesOf rw)

/-- The files the judge runs the reference in: the reference workspace, or the reference
solution under the given name. -/
def solutionFiles (d : ProblemDraft) (solutionName : String) : List (String × String) :=
  match d.referenceWorkspace with
  | some w => w.fileMap
  | none => [(solutionName, d.referenceSolution.getD "")]

end ProblemDraft

end PracticeForge
