import PracticeForge.Judge.Process
import PracticeForge.Judge.Verdict
import PracticeForge.Config.Settings
import PracticeForge.Spec.Profile

/-!
# Judge/Docker — running a suite in a container and reading the verdict

The judge makes a fresh directory in the world, writes the submitted files into it (a refused
name ends the judging with a failed verdict that gives the reason), derives the test file's name
from the first file and the suite, refuses submissions that would overwrite the test file,
writes the suite, and runs the language's judge image in a container without network, over
the directory mounted read-only, under the configured time limit.

The container tool exiting with 125 (without running out of time) means the tool itself
failed, and the judge is unavailable.  Otherwise the verdict is read from the output: for
Python the failed tests are those pytest reports (in either stream) and the passed ones are the
suite's other tests, none when the run failed without naming a failed test; for Java the JUnit
report and for the others the harness report on standard output.  The run passes when it exited
with 0, in time, within the output limit, and with no failed test.
-/

namespace PracticeForge

namespace Judge

/-- The exit code of a container tool that failed itself. -/
def toolFailureExit : Int := 125

/-- The container tool's arguments for a language, over the directory shown as `workdir`. -/
def dockerArgs (lang : Language) (workdir : String) : List String :=
  ["run", "--rm", "--network", "none", "--read-only", "--tmpfs", "/tmp:rw"] ++
    (if lang == .python then
      ["-e", "PYTHONDONTWRITEBYTECODE=1", "-e", "PYTHONHASHSEED=0", "-e", "PYTHONUNBUFFERED=1",
        "-e", "PYTEST_DISABLE_PLUGIN_AUTOLOAD=1"]
    else []) ++
    ["-v", workdir ++ ":/workspace:ro", "--workdir", "/workspace", lang.profile.judgeImage]

/-- The verdict of a finished container run. -/
def readVerdict (lang : Language) (suite : String) (p : ProcessResult) : Verdict :=
  let (passed, failed) :=
    match lang with
    | .python =>
      let failed := pytestFailures (p.stdout ++ "\n" ++ p.stderr)
      let passed := (pytestNames suite).filter fun n => !failed.contains n
      (if p.exitCode != 0 && failed.isEmpty then [] else passed, failed)
    | .java => junitOutcomes p.stdout
    | _ => passFailOutcomes p.stdout
  ⟨p.exitCode == 0 && !p.timedOut && !p.outputOverflow && failed.isEmpty, passed, failed,
    p.stdout, p.stderr, p.timedOut, some p.exitCode, 0⟩

/-- The name of the `n`-th working directory the judge makes, under the system's temporary
directory. -/
def tempDirName (n : Nat) : String := "/tmp/codecraft-judge-" ++ toString n

/-- The name of the test file: the language's, from the suite and the name of the first file
(of the solution file when there is none). -/
def testFileOf (lang : Language) (files : List (String × String)) (suite : String) : String :=
  lang.profile.testName suite ((files.head?.map (·.1)).getD lang.profile.solutionFile)

/-- Judges files against a suite in a fresh directory that `mkdtemp` makes in the world.  A file
is taken for the test file only when its name is the test file's as written. -/
def judge {σ : Type} (settings : Settings) (run : ProcessRunner σ) (mkdtemp : σ → String × σ)
    (lang : Language) (files : List (String × String)) (suite : String) (w₀ : σ) :
    Except Failure Verdict × σ :=
  let root := (mkdtemp w₀).1
  let w := (mkdtemp w₀).2
  match writeUserFiles root Tree.empty files with
  | (_, some f) =>
    if f.isBadValue then (.ok (Verdict.refused f.message), w) else (.error f, w)
  | (t, none) =>
    let testName := testFileOf lang files suite
    if files.any (·.1 == testName) then
      (.ok (Verdict.refused ("User files include \"" ++ testName ++
        "\", which conflicts with the test suite filename.")), w)
    else
      match writeUserFiles root t [(testName, suite)] with
      | (_, some f) => (.error f, w)
      | (t, none) =>
        match run (settings.dockerCommand :: dockerArgs lang root) t settings.judgeTimeoutSeconds w with
        | (.error f, w) => (.error f, w)
        | (.ok p, w) =>
          if p.exitCode == toolFailureExit && !p.timedOut then
            (.error (.sandbox ("docker failed: " ++ Text.take (Text.trim p.stderr) 200)), w)
          else (.ok (readVerdict lang suite p), w)

end Judge

end PracticeForge
