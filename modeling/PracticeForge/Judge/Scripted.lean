import PracticeForge.Judge.Process
import PracticeForge.Spec.Profile
import PracticeForge.Number.Decimal

/-!
# Judge/Scripted — a container tool that answers from a script

A stand-in for the container tool, for replaying the judge without containers.  It answers only
to its own path (any other program is missing).  Each start takes the next scripted run: it
lists the workspace's files when asked, writes its output and its errors, waits, and exits.
With no run left it reports a passing run of all eight tests, in the format of the judge image
it was started with.
-/

namespace PracticeForge

namespace Judge

/-- One scripted run of the container tool. -/
structure ToolRun where
  stdout : String
  stderr : String
  exit : Int
  /-- Seconds it waits before exiting. -/
  sleep : Binary64
  /-- Whether it first lists the files of the workspace. -/
  listFiles : Bool
  deriving Repr, Inhabited

/-- A scripted run from its JSON form: `stdout` and `stderr` default to nothing, `exit` to 0,
`sleep` to no wait and `list_files` to false. -/
def ToolRun.ofJson (e : Json) : ToolRun :=
  let text (k : String) : String := ((e.get? k).map Json.display).getD ""
  ⟨text "stdout", text "stderr", ((e.getD "exit").getInt?).getD 0,
    ((e.getD "sleep").toDouble.toOption).getD (Binary64.zero false), (e.getD "list_files").truthy⟩

/-- A container tool answering from a script. -/
structure ScriptedTool where
  path : String
  runs : List ToolRun
  deriving Repr, Inhabited

/-- The report of a passing run of all eight tests, as the image of a language prints it. -/
def passingReport : Language → String
  | .python => "8 passed in 0.01s\n"
  | .java => String.join ((List.range 8).map fun i => "test_case_" ++ toString (i + 1) ++ "() [OK]\n")
  | _ => String.join ((List.range 8).map fun i => "[PASS] test_case_" ++ toString (i + 1) ++ "\n")

/-- What a scripted run does over a workspace. -/
def ToolRun.acts (r : ToolRun) (t : Tree) : List Act :=
  let listing := if r.listFiles then "files: " ++ ", ".intercalate (t.files.map (·.1)) ++ "\n" else ""
  [.write false (listing ++ r.stdout).toUTF8, .write true r.stderr.toUTF8, .wait r.sleep, .exit r.exit]

namespace ScriptedTool

/-- Starts the tool: the next scripted run, or a passing one for the image named last. -/
def start : ProcessStarter ScriptedTool := fun cmd t _ w =>
  match cmd with
  | p :: args =>
    if p != w.path then (.error (missingProgram p), w)
    else
      match w.runs with
      | r :: rest => (.ok (Trace.ofActs (r.acts t)), { w with runs := rest })
      | [] =>
        let image := args.getLast?.getD ""
        let report := ((Language.all.find? (·.profile.judgeImage == image)).map passingReport).getD ""
        (.ok (Trace.ofActs [.write false report.toUTF8, .exit 0]), w)
  | [] => (.error (missingProgram ""), w)

end ScriptedTool

end Judge

end PracticeForge
