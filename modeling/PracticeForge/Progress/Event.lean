import PracticeForge.Schema.Check
import PracticeForge.Failure
import PracticeForge.Text.Words

/-!
# Progress/Event — what a generation run tells its watchers

A run reports its progress as a stream of events: the run starting, each slot starting, each
drafting attempt, the outcome of the contract check and of the judge, and the slot's and the
run's end.  Events carry structured data only (slot positions, attempt counts, a short error of
one line), never prompts, model output or reference solutions.

On the wire an event is an object with its `type` and its fields under camelCase keys; a field
without a value is left out.  Reading an event takes its fields under either spelling.

Error texts shown to watchers go through `shortError`: white space runs become one space, the
ends are trimmed, an empty text falls back to a default, and a text over 160 characters is cut to
157 (trailing blanks dropped) followed by `...`.
-/

namespace PracticeForge

open Schema

/-- The longest error text an event carries. -/
def shortErrorMax : Nat := 160

/-- An error text fit for an event: one line, at most `shortErrorMax` characters, and
`fallback` when nothing is left. -/
def shortErrorOr (fallback message : String) : String :=
  let text := Text.squeeze message
  if text.isEmpty then fallback
  else if text.length > shortErrorMax then
    Text.trimEnd (Text.take text (shortErrorMax - 3)) ++ "..."
  else text

/-- An error text fit for an event, `Unknown error` when nothing is left. -/
def shortError (message : String) : String := shortErrorOr "Unknown error" message

/-- A progress report. -/
inductive ProgressEvent where
  /-- A run began, with its number of slots and its run number. -/
  | generationStarted (totalSlots run : Int)
  /-- A slot began. -/
  | slotStarted (slot : Int) (difficulty topic language : String)
  /-- A drafting attempt of a slot began. -/
  | attemptStarted (slot attempt : Int)
  /-- A slot's draft passed the contract check. -/
  | contractValidated (slot : Int)
  /-- A slot's draft failed the contract check, or the model could not be reached. -/
  | contractFailed (slot : Int) (shortError : String)
  /-- A slot's reference solution went to the judge. -/
  | judgeStarted (slot : Int)
  /-- A slot's reference solution did not pass the judge. -/
  | judgeFailed (slot : Int) (shortError : String) (timedOut : Bool)
  /-- A slot is done after some attempts. -/
  | slotCompleted (slot attempts : Int)
  /-- A slot used up its attempts. -/
  | slotFailed (slot attempts : Int) (shortError : String)
  /-- The run failed, perhaps at a slot. -/
  | generationFailed (error : String) (slot : Option Int)
  /-- The run saved an activity of some problems. -/
  | generationCompleted (activityId : String) (problemCount : Int)
  /-- A sign of life for watchers with nothing else to hear. -/
  | heartbeat
  deriving Repr, Inhabited

namespace ProgressEvent

/-- The name of an event's kind. -/
def typeName : ProgressEvent → String
  | .generationStarted .. => "generation_started"
  | .slotStarted .. => "slot_started"
  | .attemptStarted .. => "slot_llm_attempt_started"
  | .contractValidated .. => "slot_contract_validated"
  | .contractFailed .. => "slot_contract_failed"
  | .judgeStarted .. => "slot_docker_validation_started"
  | .judgeFailed .. => "slot_docker_validation_failed"
  | .slotCompleted .. => "slot_completed"
  | .slotFailed .. => "slot_failed"
  | .generationFailed .. => "generation_failed"
  | .generationCompleted .. => "generation_completed"
  | .heartbeat => "heartbeat"

/-- Whether the event ends a run. -/
def isTerminal (e : ProgressEvent) : Bool :=
  e.typeName == "generation_completed" || e.typeName == "generation_failed"

/-- Whether the event is a heartbeat. -/
def isHeartbeat : ProgressEvent → Bool
  | .heartbeat => true
  | _ => false

/-- The fields of an event under their wire keys, those without a value left out. -/
def fields : ProgressEvent → List (String × Json)
  | .generationStarted n r => [("totalSlots", .int n), ("run", .int r)]
  | .slotStarted i d t l =>
    [("slotIndex", .int i), ("difficulty", .str d), ("topic", .str t), ("language", .str l)]
  | .attemptStarted i a => [("slotIndex", .int i), ("attempt", .int a)]
  | .contractValidated i | .judgeStarted i => [("slotIndex", .int i)]
  | .contractFailed i e => [("slotIndex", .int i), ("shortError", .str e)]
  | .judgeFailed i e t => [("slotIndex", .int i), ("shortError", .str e), ("timedOut", .bool t)]
  | .slotCompleted i a => [("slotIndex", .int i), ("attempts", .int a)]
  | .slotFailed i a e => [("slotIndex", .int i), ("attempts", .int a), ("shortError", .str e)]
  | .generationFailed e i =>
    ("error", .str e) :: (match i with | some i => [("slotIndex", .int i)] | none => [])
  | .generationCompleted a n => [("activityId", .str a), ("problemCount", .int n)]
  | .heartbeat => []

/-- The wire form: the kind under `type`, then the fields. -/
def toWire (e : ProgressEvent) : Json := .obj (("type", .str e.typeName) :: e.fields)

/-- Reads a field under its wire key or, failing that, under its plain name; faults are
placed at the key that was read, or at the wire key when neither is given. -/
def arg {α : Type} (fs : List (String × Json)) (key name : String) (check : Json → Checked α)
    (dflt : Option α) : Checked α :=
  match Json.lookup fs key, Json.lookup fs name with
  | some v, _ => at_ (.key key) (check v)
  | none, some v => at_ (.key name) (check v)
  | none, none =>
    match dflt with
    | some d => .ok d
    | none => .error [⟨[.key key], .missing⟩]

/-- The slot position every slot event carries. -/
def slotArg (fs : List (String × Json)) : Checked Int := arg fs "slotIndex" "slot_index" int none

/-- The short error of a failure event. -/
def errorArg (fs : List (String × Json)) : Checked String :=
  arg fs "shortError" "short_error" str none

/-- Combines the checks of an event's fields, in field order, reporting every fault. -/
def collect {α β γ δ : Type} (a : Checked α) (b : Checked β) (c : Checked γ) (d : Checked δ) :
    Checked (α × β × γ × δ) :=
  match a, b, c, d with
  | .ok a, .ok b, .ok c, .ok d => .ok (a, b, c, d)
  | _, _, _, _ => .error (issuesOf a ++ issuesOf b ++ issuesOf c ++ issuesOf d)

/-- Reads an event of a kind from its fields; an unknown kind is refused by name. -/
def build (kind : String) (fs : List (String × Json)) : Except Failure ProgressEvent :=
  let ts := arg fs "ts" "ts" (fun j => (double j).map fun _ => ()) (some ())
  let unit : Checked Unit := .ok ()
  let go {α : Type} (c : Checked α) (f : α → ProgressEvent) : Except Failure ProgressEvent :=
    match c with
    | .ok a => pure (f a)
    | .error issues => throw (.invalid issues)
  match kind with
  | "generation_started" =>
    go (collect ts (arg fs "totalSlots" "total_slots" int none) (arg fs "run" "run" int none) unit)
      fun (_, n, r, _) => .generationStarted n r
  | "slot_started" =>
    go (collect ts (slotArg fs) (arg fs "difficulty" "difficulty" str none)
        (collect (arg fs "topic" "topic" str none) (arg fs "language" "language" str none) unit unit))
      fun (_, i, d, t, l, _) => .slotStarted i d t l
  | "slot_llm_attempt_started" =>
    go (collect ts (slotArg fs) (arg fs "attempt" "attempt" int none) unit)
      fun (_, i, a, _) => .attemptStarted i a
  | "slot_contract_validated" =>
    go (collect ts (slotArg fs) unit unit) fun (_, i, _) => .contractValidated i
  | "slot_contract_failed" =>
    go (collect ts (slotArg fs) (errorArg fs) unit) fun (_, i, e, _) => .contractFailed i e
  | "slot_docker_validation_started" =>
    go (collect ts (slotArg fs) unit unit) fun (_, i, _) => .judgeStarted i
  | "slot_docker_validation_failed" =>
    go (collect ts (slotArg fs) (errorArg fs) (arg fs "timedOut" "timed_out" bool (some false)))
      fun (_, i, e, t) => .judgeFailed i e t
  | "slot_completed" =>
    go (collect ts (slotArg fs) (arg fs "attempts" "attempts" int none) unit)
      fun (_, i, a, _) => .slotCompleted i a
  | "slot_failed" =>
    go (collect ts (slotArg fs) (arg fs "attempts" "attempts" int none) (errorArg fs))
      fun (_, i, a, e) => .slotFailed i a e
  | "generation_failed" =>
    go (collect ts (arg fs "error" "error" str none)
        (arg fs "slotIndex" "slot_index" (nullable int) (some none)) unit)
      fun (_, e, i, _) => .generationFailed e i
  | "generation_completed" =>
    go (collect ts (arg fs "activityId" "activity_id" str none)
        (arg fs "problemCount" "problem_count" int none) unit)
      fun (_, a, n, _) => .generationCompleted a n
  | "heartbeat" => go ts fun _ => .heartbeat
  | _ => throw (.noKey (.str kind))

/-- Reads an event from an object whose `type` names its kind. -/
def ofJson (j : Json) : Except Failure ProgressEvent :=
  let fs := j.getObj?.getD []
  match Json.lookup fs "type" with
  | some (.str kind) => build kind (fs.filter (·.1 != "type"))
  | some k => throw (.lookupFailed k)
  | none => throw (.noKey (.str "type"))

end ProgressEvent

end PracticeForge
