import PracticeForge.Contract.Draft
import PracticeForge.Judge.Verdict
import PracticeForge.Failure
import PracticeForge.Progress.Event

/-!
# Generation/Slot — the life of one slot, as pure steps

A slot moves along

    QUEUED ─▸ DRAFTING ─▸ CONTRACT_CHECK ─▸ SANDBOX_CHECK ─▸ DONE

and a failed check (or an unreachable model or judge) sends it back to DRAFTING for another
attempt, with the reason as feedback, until `maxAttempts` attempts are spent and it is FAILED.
Contract and judge failures share the one budget.  Each step checks the stage it starts from and
refuses any other as a defect of the caller.

The module also holds the texts a failure leaves (what the judge said, what the contract check
found, both cut to `maxFeedback` characters), the wait before a retry, and the renaming that
keeps problem ids apart in an activity.
-/

namespace PracticeForge

/-- The most drafting attempts a slot gets. -/
def maxAttempts : Nat := 3

/-- The longest feedback text handed back to the generator. -/
def maxFeedback : Nat := 1500

/-- Where a slot stands. -/
inductive SlotStage where
  | queued
  | drafting
  | contractCheck
  | sandboxCheck
  | done
  | failed
  deriving DecidableEq, Repr, Inhabited

/-- The name of a stage. -/
def SlotStage.name : SlotStage → String
  | .queued => "QUEUED"
  | .drafting => "DRAFTING"
  | .contractCheck => "CONTRACT_CHECK"
  | .sandboxCheck => "SANDBOX_CHECK"
  | .done => "DONE"
  | .failed => "FAILED"

/-- The stage of a name; an unknown name is refused as a value. -/
def SlotStage.ofJson (j : Json) : Except Failure SlotStage :=
  match j.getStr?.bind fun n => [SlotStage.queued, .drafting, .contractCheck, .sandboxCheck, .done,
      .failed].find? (·.name == n) with
  | some s => .ok s
  | none => .error (.badValue (j.quotedForm ++ " is not a valid SlotStage"))

/-- A slot and how far its generation got. -/
structure SlotState where
  slot : Slot
  stage : SlotStage
  /-- The number of the current attempt, 0 before the first. -/
  attempt : Nat
  /-- What the generator is told about its last rejected attempt. -/
  feedback : Option String
  /-- Why the last attempt failed. -/
  lastError : Option String
  /-- Whether the last attempt ran out of time in the judge. -/
  timedOut : Bool
  /-- The draft under test while the judge runs. -/
  draft : Option ProblemDraft
  /-- The finished problem. -/
  problem : Option Problem
  deriving Repr

namespace SlotState

/-- A slot waiting for its first attempt. -/
def queued (slot : Slot) : SlotState := ⟨slot, .queued, 0, none, none, false, none, none⟩

/-- The JSON form. -/
def toJson (s : SlotState) : Json :=
  .obj [("slot", s.slot.toJson), ("stage", .str s.stage.name), ("attempt", .int s.attempt),
    ("feedback", Json.ofStrOpt s.feedback), ("last_error", Json.ofStrOpt s.lastError),
    ("timed_out", .bool s.timedOut), ("draft", (s.draft.map ProblemDraft.toJson).getD .null),
    ("problem", (s.problem.map Problem.toJson).getD .null)]

/-- Refuses a step from any stage but the given ones. -/
def expect (s : SlotState) (stages : List SlotStage) : Except Failure Unit :=
  if stages.contains s.stage then pure ()
  else throw (.invalidTransition ("slot " ++ toString s.slot.index ++ ": " ++ s.stage.name ++
    " is not one of " ++ ", ".intercalate (stages.map SlotStage.name)))

/-- The first attempt begins. -/
def startDrafting (s : SlotState) : Except Failure SlotState := do
  s.expect [.queued]
  pure { s with stage := .drafting, attempt := 1 }

/-- A draft came back and goes to the contract check. -/
def toContractCheck (s : SlotState) : Except Failure SlotState := do
  s.expect [.drafting]
  pure { s with stage := .contractCheck }

/-- A draft passed the contract check and goes to the judge. -/
def toSandboxCheck (s : SlotState) (d : ProblemDraft) : Except Failure SlotState := do
  s.expect [.contractCheck]
  pure { s with stage := .sandboxCheck, draft := some d }

/-- An attempt failed: back to drafting with the feedback, or FAILED when the attempts are
spent (the feedback then stays as it was). -/
def attemptFailed (s : SlotState) (error : String) (feedback : Option String) (timedOut : Bool) :
    Except Failure SlotState := do
  s.expect [.drafting, .contractCheck, .sandboxCheck]
  if maxAttempts ≤ s.attempt then
    pure { s with stage := .failed, lastError := some error, timedOut, draft := none }
  else
    let next := { s with stage := .drafting, attempt := s.attempt + 1, feedback }
    pure { next with lastError := some error, timedOut, draft := none }

/-- The judge passed the draft; the slot is done with its problem. -/
def complete (s : SlotState) (p : Problem) : Except Failure SlotState := do
  s.expect [.sandboxCheck]
  pure { s with stage := .done, draft := none, problem := some p, lastError := none }

/-- The error the last failed attempt left, empty when there is none. -/
def errorText (s : SlotState) : String := s.lastError.getD ""

end SlotState

/-- The longest wait before a retry, in seconds. -/
def maxBackoff : Binary64 := Binary64.ofRatio false 8 1

/-- The wait before retry number `attempt`: `base · 2^(attempt - 1)` seconds, at most
`maxBackoff`.  A factor too large for a double is refused. -/
def backoffDelay (base : Binary64) (attempt : Int) : Except Failure Binary64 := do
  let factor ←
    if 1 ≤ attempt then
      match (if attempt ≤ 1100 then Binary64.ofInt? (Nat.pow 2 (attempt - 1).toNat) else none) with
      | some f => pure f
      | none => throw (.overflow "int too large to convert to float")
    else if attempt < -1100 then pure (Binary64.zero false)
    else pure (Binary64.ofRatio false 1 (Nat.pow 2 (1 - attempt).toNat))
  pure (Binary64.minKeepFirst (base.mul factor) maxBackoff)

/-- The last `n` characters of a text. -/
def lastChars (n : Nat) (s : String) : String := String.ofList (s.toList.drop (s.length - n))

/-- What went wrong in a judge run that did not pass. -/
def Verdict.describe (v : Verdict) : String :=
  if v.timedOut then "Reference solution timed out"
  else if !v.failed.isEmpty then
    "Reference solution failed " ++ toString v.failed.length ++ " of " ++
      toString Contract.testCaseCount ++ " tests"
  else "Reference solution did not compile or crashed"

/-- The feedback on a judge run: what went wrong, the failing tests, the tail of what the
run wrote (its errors, or else its output), and what to do. -/
def Verdict.feedback (v : Verdict) : String :=
  let detail := Text.trim (if v.stderr.isEmpty then v.stdout else v.stderr)
  "\n".intercalate ([v.describe ++ "."] ++
    (if v.failed.isEmpty then [] else ["Failing tests: " ++ ", ".intercalate v.failed]) ++
    (if detail.isEmpty then [] else ["Runner output (truncated):\n" ++ lastChars maxFeedback detail]) ++
    ["Fix the reference solution or the tests so that all tests pass."])

/-- The feedback on a rejected draft: one line per issue (the reason when there are none), cut
to `maxFeedback` characters. -/
def Rejection.feedback (r : Rejection) : String :=
  let issues := if r.issues.isEmpty then [r.reason] else r.issues
  Text.take ("\n".intercalate (issues.map ("- " ++ ·))) maxFeedback

/-- A name built from `base` and a number, starting at `n`, that is not in `seen`. -/
def freshId (seen : List String) (base : String) : Nat → Nat → String
  | 0, _ => base
  | fuel + 1, n =>
    let candidate := base ++ "-" ++ toString n
    if seen.contains candidate then freshId seen base fuel (n + 1) else candidate

/-- Ids made distinct: an id already taken becomes `id-n`, with `n` counting from its
position (from 1) up to the first free one. -/
def uniqueIds (ids : List String) : List String :=
  let rec go (seen : List String) (i : Nat) : List String → List String
    | [] => []
    | id :: rest =>
      let pid := if seen.contains id then freshId seen id (seen.length + 1) (i + 1) else id
      pid :: go (pid :: seen) (i + 1) rest
  go [] 0 ids

/-- Problems with their ids made distinct. -/
def makeIdsUnique (ps : List Problem) : List Problem :=
  (ps.zip (uniqueIds (ps.map (·.id)))).map fun (p, id) => { p with id }

end PracticeForge
