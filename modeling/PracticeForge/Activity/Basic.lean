import PracticeForge.Problem.Basic
import PracticeForge.Failure

/-!
# Activity/Basic — a saved set of problems

An activity is what a finished generation run leaves: the problems, a title, the learner's first
request as its prompt, the thread it came from, and an optional time limit.  It starts as a
draft, which may still be edited, and is published once.
-/

namespace PracticeForge

open Schema

/-- Whether an activity may still be edited. -/
inductive ActivityStatus where
  | draft
  | published
  deriving DecidableEq, Repr, Inhabited

/-- The name of a status. -/
def ActivityStatus.name : ActivityStatus → String
  | .draft => "DRAFT"
  | .published => "PUBLISHED"

/-- A saved set of problems. -/
structure Activity where
  id : String
  threadId : Option String
  title : String
  prompt : String
  problems : List Problem
  status : ActivityStatus
  /-- The time learners get, in seconds; none for no limit. -/
  timeLimitSeconds : Option Int
  /-- When the activity was stored; empty until then. -/
  createdAt : String
  deriving Repr

namespace Activity

/-- The JSON form. -/
def toJson (a : Activity) : Json :=
  .obj [("id", .str a.id), ("thread_id", Json.ofStrOpt a.threadId), ("title", .str a.title),
    ("prompt", .str a.prompt), ("problems", .arr (a.problems.map Problem.toJson)),
    ("status", .str a.status.name), ("time_limit_seconds", Json.ofIntOpt a.timeLimitSeconds),
    ("created_at", .str a.createdAt)]

/-- Reads an activity; status and the optional fields take their defaults. -/
def check (j : Json) : Checked Activity := do
  let fs ← entries j
  let id := field fs "id" str none
  let threadId := field fs "thread_id" (nullable str) (some none)
  let title := field fs "title" str none
  let prompt := field fs "prompt" str (some "")
  let problems := field fs "problems" (list Problem.check) none
  let status := field fs "status" (literal ["DRAFT", "PUBLISHED"]) (some "DRAFT")
  let limit := field fs "time_limit_seconds" (nullable int) (some none)
  let created := field fs "created_at" instant (some "")
  match id, threadId, title, prompt, problems, status, limit, created with
  | .ok i, .ok t, .ok ti, .ok pr, .ok ps, .ok st, .ok l, .ok c =>
    pure ⟨i, t, ti, pr, ps, if st == "PUBLISHED" then .published else .draft, l, c⟩
  | _, _, _, _, _, _, _, _ =>
    .error (issuesOf id ++ issuesOf threadId ++ issuesOf title ++ issuesOf prompt ++
      issuesOf problems ++ issuesOf status ++ issuesOf limit ++ issuesOf created)

end Activity

end PracticeForge
