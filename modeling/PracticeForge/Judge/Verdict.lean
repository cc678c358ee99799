import PracticeForge.Failure
import PracticeForge.Json.Show

/-!
# Judge/Verdict — what the judge says about a reference solution

A verdict records whether every test passed, which tests passed and failed, what the run wrote,
whether it ran out of time, its exit code when it had one, and how long it took.  A judge may
also be unable to run at all (`JudgeReply.unavailable`), which the pipeline treats as a failed
attempt, or break down in a way nothing expects (`JudgeReply.broken`).
-/

namespace PracticeForge

/-- The outcome of one run of a test suite. -/
structure Verdict where
  success : Bool
  passed : List String
  failed : List String
  stdout : String
  stderr : String
  timedOut : Bool
  exitCode : Option Int
  /-- Wall-clock time of the run, in milliseconds. -/
  executionMs : Nat
  deriving Repr, Inhabited

namespace Verdict

/-- A verdict from its JSON form; a missing field is false, empty or none, and the time is
not read. -/
def ofJson (j : Json) : Verdict :=
  let text (k : String) : String := ((j.get? k).map Json.display).getD ""
  ⟨(j.getD "success").truthy, Json.displays (j.getD "passed"), Json.displays (j.getD "failed"),
    text "stdout", text "stderr", (j.getD "timed_out").truthy, (j.getD "exit_code").getInt?, 0⟩

/-- A failed run with nothing but an error text. -/
def refused (stderr : String) : Verdict := ⟨false, [], [], "", stderr, false, none, 0⟩

/-- The JSON form, without the time taken. -/
def toJson (v : Verdict) : Json :=
  .obj [("success", .bool v.success), ("passed", Json.ofStrs v.passed),
    ("failed", Json.ofStrs v.failed), ("stdout", .str v.stdout), ("stderr", .str v.stderr),
    ("timed_out", .bool v.timedOut), ("exit_code", Json.ofIntOpt v.exitCode)]

end Verdict

/-- What a call to the judge gives back. -/
inductive JudgeReply where
  /-- The suite ran. -/
  | verdict (v : Verdict)
  /-- The judge could not run. -/
  | unavailable (message : String)
  /-- The judge broke down. -/
  | broken (failure : Failure)
  deriving Repr, Inhabited

end PracticeForge
