import PracticeForge.Contract.Sql
import PracticeForge.Problem.Basic
import PracticeForge.Spec.Plan
import PracticeForge.Spec.Profile
import PracticeForge.Json.Read
import PracticeForge.Json.Show
import PracticeForge.Reply

/-!
# Contract/Draft — what a generated problem must satisfy

A generator's reply is accepted as a problem draft only when it keeps the contract of its slot:
the texts `id`, `title`, `description`, `test_suite` and `constraints` are non-empty; the
samples are two lists of texts of one non-zero length; there is starter code and a reference
solution, or a workspace and a reference workspace with the same paths (not for SQL); and the
test suite defines exactly the tests `test_case_1` to `test_case_8` in the way its language
runs them.  Every broken rule adds one issue; a draft with issues is rejected with all of them.

An accepted draft takes its language, difficulty, topic and style from the slot, never from the
reply, and its texts trimmed.
-/

namespace PracticeForge

/-- A rejected draft: the issues, and their texts joined into a reason. -/
structure Rejection where
  reason : String
  issues : List String
  deriving Repr

namespace Contract

open Pattern

/-- The number of tests a suite defines. -/
def testCaseCount : Nat := 8

/-- The names of the tests, `test_case_1` to `test_case_8`. -/
def testCaseNames : List String :=
  (List.range testCaseCount).map fun i => "test_case_" ++ Nat.repr (i + 1)

/-- A test name: `test_` and identifier characters, as group 1. -/
def testName : Pattern := .group (.cat (text "test_") (plus (anyOf identItems)))

/-- A pytest test function at the start of a line. -/
def pythonTestRe : Regex :=
  ⟨seq [.anchor .lineStart, many spaceChar, text "def", plus spaceChar, testName, many spaceChar,
    .lit '('], false, true, false⟩

/-- A JUnit test method. -/
def javaTestRe : Regex :=
  ⟨seq [boundary, text "void", plus spaceChar, testName, many spaceChar, .lit '('], false, false, false⟩

/-- A test registered with the C++ harness. -/
def cppTestRe : Regex :=
  ⟨seq [text "RUN_TEST(", many spaceChar, .lit '"', testName, .lit '"'], false, false, false⟩

/-- A package declaration at the start of a line. -/
def javaPackageRe : Regex :=
  ⟨seq [.anchor .lineStart, many spaceChar, text "package", plus spaceChar,
    plus (anyOf [.word, .char '.']), many spaceChar, .lit ';'], false, true, false⟩

/-- A `main` function. -/
def cppMainRe : Regex :=
  ⟨seq [boundary, text "int", plus spaceChar, text "main", many spaceChar, .lit '('], false, false, false⟩

/-- The word `return`. -/
def returnRe : Regex := ⟨seq [boundary, text "return", boundary], false, false, false⟩

/-- Puts a text in its place in a sorted list of texts. -/
def insertText (x : String) : List String → List String
  | [] => [x]
  | y :: ys => if x ≤ y then x :: y :: ys else y :: insertText x ys

/-- Sorts texts, one insertion at a time. -/
def sortTexts : List String → List String
  | [] => []
  | x :: xs => insertText x (sortTexts xs)

/-- The issue when the suite's test names are not exactly the expected ones. -/
def namesIssue (found : List String) : List String :=
  if sortTexts found != sortTexts testCaseNames then
    ["test_suite must define exactly " ++ Nat.repr testCaseCount ++
      " tests named test_case_1..test_case_" ++ Nat.repr testCaseCount ++ " (found " ++
      Nat.repr found.length ++ ")"]
  else []

/-- What is wrong with one case of a SQL test suite. -/
def sqlCaseIssues (fs : List (String × Json)) : List String :=
  let name := (Json.lookup fs "name").getD .null
  let label := name.display
  let expectedOk := match Json.lookup fs "expected" with
    | some (.obj e) =>
      match Json.lookup e "columns", Json.lookup e "rows" with
      | some (.arr (_ :: _)), some (.arr rows) => rows.all fun r => (r.getArr?).isSome
      | _, _ => false
    | _ => false
  (match Json.lookup fs "seed_sql" with
    | some (.str _) => []
    | _ => [label ++ ": seed_sql must be a string"]) ++
  (if expectedOk then [] else [label ++ ": expected must have columns and rows"]) ++
  (match Json.lookup fs "order_matters" with
    | some (.bool _) | none => []
    | some _ => [label ++ ": order_matters must be a boolean"])

/-- What is wrong with a SQL test suite read as JSON: it must be an object with a schema and
eight named cases. -/
def sqlSuiteValueIssues : Json → List String
  | .obj fs =>
    let schemaOk := match Json.lookup fs "schema_sql" with
      | some (.str s) => !(Text.trim s).isEmpty
      | _ => false
    let issues := if schemaOk then [] else ["test_suite.schema_sql must be non-empty"]
    match Json.lookup fs "cases" with
    | some (.arr cases) =>
      let (issues, names) := cases.foldl (fun (acc : List String × List String) c =>
        match c with
        | .obj cf =>
          let name := match Json.lookup cf "name" with
            | some v => v.display
            | none => ""
          (acc.1 ++ sqlCaseIssues cf, acc.2 ++ [name])
        | _ => (acc.1 ++ ["test_suite.cases entries must be objects"], acc.2)) (issues, [])
      issues ++ namesIssue names
    | _ => issues ++ ["test_suite.cases must be a list"]
  | _ => ["test_suite must be a JSON object"]

/-- What is wrong with a SQL test suite, read with `room` arrays and objects allowed inside one
another.  A text that is not JSON is an issue; an integer too long to convert, or nesting deeper
than the room, makes the reading fail outright. -/
def sqlSuiteIssues (room : Nat) (suite : String) : Except Json.ReadError (List String) :=
  match Json.parseWithin room suite with
  | .ok v => pure (sqlSuiteValueIssues v)
  | .error .malformed => pure ["test_suite must be valid JSON"]
  | .error e => throw e

/-- What is wrong with a suite and a reference in the slot's language; only reading a SQL suite
can fail, with `room` as its nesting room. -/
def languageIssues (room : Nat) (slot : Slot) (suite reference : String) :
    Except Json.ReadError (List String) :=
  let lang : Except Json.ReadError (List String) := match slot.language with
    | .python => pure (
      namesIssue (pythonTestRe.findGroups suite 1) ++
      (if !Text.contains suite "from solution import" && !Text.contains suite "import solution" then
        ["test_suite must import from solution"] else []) ++
      (if (slot.problemStyle == .printed || slot.problemStyle == .mixed) && !Text.contains suite "capsys" then
        ["stdout-style tests must capture output with capsys"] else []))
    | .java => pure (
      namesIssue (javaTestRe.findGroups suite 1) ++
      (if !Text.contains suite "@Test" then ["test_suite must use JUnit 5 @Test methods"] else []) ++
      (if javaPackageRe.test suite || javaPackageRe.test reference then
        ["Java sources must not declare a package"] else []))
    | .cpp => pure (
      namesIssue (cppTestRe.findGroups suite 1) ++
      (if !Text.contains suite "#include \"solution.cpp\"" then
        ["test_suite must #include \"solution.cpp\""] else []) ++
      (if cppMainRe.test reference then ["reference solution must not define main()"] else []))
    | .sql => (sqlSuiteIssues room suite).map (· ++ Sql.readOnlyIssues reference "reference_solution")
  lang.map (· ++
    (if slot.language != .sql && (slot.problemStyle == .returned || slot.problemStyle == .mixed) &&
        !returnRe.test reference then ["return-style reference must return a value"] else []))

/-- A text field of the reply, trimmed; empty when absent or not a text. -/
def textOf (fs : List (String × Json)) (key : String) : String :=
  match Json.lookup fs key with
  | some (.str s) => Text.trim s
  | _ => ""

/-- The samples of a reply, or the issue that keeps them out. -/
def samplesOf (fs : List (String × Json)) : List SampleCase × List String :=
  match Json.lookup fs "sample_inputs", Json.lookup fs "sample_outputs" with
  | some (.arr ins), some (.arr outs) =>
    if ins.isEmpty || ins.length != outs.length then
      ([], ["sample_inputs and sample_outputs must be non-empty and the same length"])
    else
      match ins.mapM Json.getStr?, outs.mapM Json.getStr? with
      | some is, some os => ((is.zip os).map fun (i, o) => ⟨i, o⟩, [])
      | _, _ => ([], ["samples must be strings"])
  | _, _ => ([], ["sample_inputs and sample_outputs must be lists"])

/-- Whether two lists hold the same texts, as sets. -/
def sameSet (a b : List String) : Bool := a.all b.contains && b.all a.contains

end Contract

open Contract in
/-- Checks a generator's reply against the contract of its slot.  A SQL suite is read with
`room` arrays and objects allowed inside one another; when that reading fails, the check fails
with it instead of giving a verdict. -/
def checkDraft (room : Nat) (candidate : Json) (slot : Slot) :
    Except Json.ReadError (Except Rejection ProblemDraft) :=
  match candidate with
  | .obj fs =>
    let missing := (["id", "title", "description", "test_suite", "constraints"].filter
      fun k => (textOf fs k).isEmpty).map ("missing or empty field: " ++ ·)
    let (samples, sampleIssues) := samplesOf fs
    let starter := textOf fs "starter_code"
    let givenWorkspace := !((Json.lookup fs "workspace").getD .null).isNull ||
      !((Json.lookup fs "reference_workspace").getD .null).isNull
    let (workspaces, fileIssues, reference) : Option (Workspace × Workspace) × List String × String :=
      if givenWorkspace then
        let sqlIssue := if slot.language == .sql then ["SQL problems use starter_code and reference_solution"] else []
        match Workspace.check ((Json.lookup fs "workspace").getD .null),
            Workspace.check ((Json.lookup fs "reference_workspace").getD .null) with
        | .ok w, .ok r =>
          let paths := w.files.map (·.path)
          let issues := (if sameSet paths (r.files.map (·.path)) then []
              else ["reference_workspace must contain the same files as workspace"]) ++
            (if paths.contains w.entrypoint then [] else ["workspace.entrypoint must name one of its files"])
          (some (w, r), sqlIssue ++ issues, "\n".intercalate (r.files.map (·.content)))
        | _, _ => (none, sqlIssue ++ ["workspace and reference_workspace must both be valid file sets"],
            textOf fs "reference_solution")
      else
        let reference := textOf fs "reference_solution"
        (none, (if starter.isEmpty then ["missing or empty field: starter_code"] else []) ++
          (if reference.isEmpty then ["missing or empty field: reference_solution"] else []), reference)
    let suite := textOf fs "test_suite"
    let languageProblems : Except Json.ReadError (List String) :=
      if !suite.isEmpty && !reference.isEmpty then
        (languageIssues room slot suite reference).map (· ++
          (if slot.language == .sql && !starter.isEmpty &&
              (Sql.forbiddenKeyword? (Sql.strip starter)).isSome then
            ["starter_code must not contain mutating statements"] else []))
      else pure []
    languageProblems.map fun languageProblems =>
      let issues := missing ++ sampleIssues ++ fileIssues ++ languageProblems
      if !issues.isEmpty then .error ⟨"; ".intercalate issues, issues⟩
      else
        let problem : Problem := ⟨textOf fs "id", textOf fs "title", textOf fs "description",
          slot.language, slot.difficulty, slot.topic, slot.problemStyle, textOf fs "constraints",
          samples, if starter.isEmpty then none else some starter, workspaces.map (·.1), suite, none⟩
        match workspaces with
        | some (_, r) => .ok ⟨problem, none, some r⟩
        | none => .ok ⟨problem, some reference, none⟩
  | _ => pure (.error ⟨"Output was not a JSON object", ["output was not a JSON object"]⟩)

/-- How deep arrays and objects may nest in a SQL suite checked on its own: two calls deeper
than a reply read on its own (`Reply.room`). -/
def Contract.suiteRoom : Nat := Reply.room - 2

/-- The files the judge runs a draft's reference in. -/
def ProblemDraft.referenceFiles (d : ProblemDraft) : List (String × String) :=
  let profile := d.problem.language.profile
  d.solutionFiles (profile.solutionName (d.referenceSolution.getD ""))

end PracticeForge
