import PracticeForge.Generation.Slot
import PracticeForge.Generation.Prompt
import PracticeForge.Gateway.Complete
import PracticeForge.Problem.Guided
import PracticeForge.Reply

/-!
# Generation/Run — drafting, checking and judging every slot of an activity

A slot's run publishes that it started, then makes attempts until it is DONE or FAILED.  An
attempt (after a wait that doubles with each retry) asks the generator model for a draft, reads
the JSON object out of the reply, checks it against the slot's contract, and has the judge run
the draft's reference solution against its tests.  A model that cannot be reached, a rejected
draft, a judge that cannot run and a run that does not pass each spend the attempt, with
feedback for the next one where there is any.  A draft that passes becomes the slot's problem,
prepared for the learning mode.  The run ends by publishing that the slot completed or failed.

A whole run takes the slots one at a time, in order: the service's pool lets a number of slots
run at once (two by default), and this run is the schedule of the pool with a single permit; the
other schedules are stated over the pool (`Proofs/Generation/Pool`).  Once a slot fails the
remaining ones are skipped; a defect in a slot does not stop the slots after it, but the first defect is what the
run reports.  Otherwise a failed slot makes the run fail with a short reason and the slot's
position, and a run with every slot done hands back their states with problem ids made
distinct.

The outside world (the models, the judge, the clock and the watchers) is a record of functions
on a world state `σ`, so that a run can be replayed against any behaviour of those services.
-/

namespace PracticeForge

namespace Generation

/-- The services a generation run calls, acting on a world of type `σ`. -/
structure Services (σ : Type) where
  /-- Asks a model. -/
  complete : Gateway.Ask → σ → ModelReply × σ
  /-- Runs a test suite against files in a language. -/
  judge : Language → List (String × String) → String → σ → JudgeReply × σ
  /-- Waits some seconds. -/
  sleep : Binary64 → σ → σ
  /-- Tells the watchers. -/
  publish : ProgressEvent → σ → σ

/-- Services over a part of a larger world, seen through `view` and written back with
`update`. -/
def Services.focus {σ τ : Type} (svc : Services σ) (view : τ → σ) (update : τ → σ → τ) :
    Services τ where
  complete a w := let (r, s) := svc.complete a (view w); (r, update w s)
  judge lang files suite w := let (r, s) := svc.judge lang files suite (view w); (r, update w s)
  sleep d w := update w (svc.sleep d (view w))
  publish e w := update w (svc.publish e (view w))

/-- How a run is set up. -/
structure RunConfig where
  /-- The wait before the first retry, in seconds; no wait when it is not positive. -/
  backoff : Binary64
  /-- The learning mode the problems are prepared for. -/
  learningMode : String

/-- A request to the generator model: sampling at temperature 0.4, at most 6000 tokens. -/
def generationAsk (system user : String) : Gateway.Ask :=
  ⟨system, user, .float (Binary64.ofRatio false 2 5), .int 6000⟩

/-- A computation of a run: it acts on the world and may stop with a failure. -/
abbrev Gen (σ : Type) := Effect σ

variable {σ : Type}

/-- Asks a service. -/
def ask {α : Type} (f : σ → α × σ) : Gen σ α := ExceptT.lift (modifyGet f)

/-- Tells the watchers. -/
def announce (svc : Services σ) (e : ProgressEvent) : Gen σ Unit := modify (svc.publish e)

/-- Lifts a step that may fail. -/
def step {α : Type} (r : Except Failure α) : Gen σ α := Effect.ofExcept r

/-- The judging half of an attempt, from a draft that passed the contract check. -/
def judgeDraft (svc : Services σ) (cfg : RunConfig) (s : SlotState) (d : ProblemDraft) :
    Gen σ SlotState := do
  let idx := s.slot.index
  announce svc (.contractValidated idx)
  let s ← step (s.toSandboxCheck d)
  announce svc (.judgeStarted idx)
  match ← ask (svc.judge s.slot.language d.referenceFiles d.problem.testSuite) with
  | .broken f => throw f
  | .unavailable _ =>
    let s ← step (s.attemptFailed "Sandbox unavailable" s.feedback false)
    announce svc (.judgeFailed idx s.errorText false)
    pure s
  | .verdict v =>
    if !v.success || v.timedOut then
      let s ← step (s.attemptFailed v.describe (some v.feedback) v.timedOut)
      announce svc (.judgeFailed idx v.describe v.timedOut)
      pure s
    else step (s.complete (← step (d.finalize cfg.learningMode)))

/-- How deep arrays and objects may nest in a drafted problem, read deeper inside the chain of
calls that runs a slot than a reply read on its own. -/
def draftRoom : Nat := 983

/-- How deep arrays and objects may nest in the SQL suite of a drafted problem: two calls deeper
than the reply it came in. -/
def draftSuiteRoom : Nat := draftRoom - 2

/-- The draft a model's text holds for a slot: the first JSON object read out of the text,
checked against the slot's contract.  A text that cannot be read at all is an error, and so is
a SQL suite in it that cannot be read. -/
def readDraft (slot : Slot) (raw : String) : Except Json.ReadError (Except Rejection ProblemDraft) :=
  Reply.object? draftRoom raw >>= fun found =>
    checkDraft draftSuiteRoom ((found.map Json.obj).getD .null) slot

/-- The wait before a retry: the backoff, doubled for each retry already made; none before the
first attempt or when the backoff is not positive. -/
def retryWait (svc : Services σ) (cfg : RunConfig) (s : SlotState) : Gen σ Unit := do
  if 1 < s.attempt && Binary64.lt (Binary64.zero false) cfg.backoff then
    let wait ← step (backoffDelay cfg.backoff (s.attempt - 1))
    modify (svc.sleep wait)

/-- A drafting attempt proper: ask the generator, read and check its draft, and judge it. -/
def draftAttempt (svc : Services σ) (cfg : RunConfig) (spec : ActivitySpec) (s : SlotState) :
    Gen σ SlotState := do
  let idx := s.slot.index
  announce svc (.attemptStarted idx s.attempt)
  let request := slotPrompt s.slot spec.constraints spec.generationFocus s.feedback
  match ← ask (svc.complete (generationAsk (systemPrompt s.slot.language) request)) with
  | .broken f => throw f
  | .unavailable _ _ =>
    let s ← step (s.attemptFailed "Model request failed" s.feedback false)
    announce svc (.contractFailed idx s.errorText)
    pure s
  | .text raw =>
    let s ← step s.toContractCheck
    match ← step ((readDraft s.slot raw).mapError Reply.failure) with
    | .error r =>
      let reason := shortError ("Contract check failed: " ++ r.issues.headD r.reason)
      let s ← step (s.attemptFailed reason (some r.feedback) false)
      announce svc (.contractFailed idx s.errorText)
      pure s
    | .ok d => judgeDraft svc cfg s d

/-- One drafting attempt of a slot in DRAFTING. -/
def attemptOnce (svc : Services σ) (cfg : RunConfig) (spec : ActivitySpec) (s : SlotState) :
    Gen σ SlotState := do
  retryWait svc cfg s
  draftAttempt svc cfg spec s

/-- Attempts while the slot is drafting, at most `fuel` times. -/
def attempts (svc : Services σ) (cfg : RunConfig) (spec : ActivitySpec) :
    Nat → SlotState → Gen σ SlotState
  | 0, s => pure s
  | fuel + 1, s =>
    if s.stage == .drafting then do
      let s ← attemptOnce svc cfg spec s
      attempts svc cfg spec fuel s
    else pure s

/-- Runs one slot to DONE or FAILED, announcing its start and its end. -/
def runSlot (svc : Services σ) (cfg : RunConfig) (spec : ActivitySpec) (slot : Slot) :
    Gen σ SlotState := do
  let idx := slot.index
  announce svc (.slotStarted idx slot.difficulty.id slot.topic slot.language.id)
  let s ← step (SlotState.queued slot).startDrafting
  let s ← attempts svc cfg spec maxAttempts s
  if s.stage == .done then announce svc (.slotCompleted idx s.attempt)
  else announce svc (.slotFailed idx s.attempt (shortError s.errorText))
  pure s

/-- What became of one slot of a run: run to an end, stopped by a defect, or skipped after
an earlier slot failed. -/
inductive SlotOutcome where
  | ran (s : SlotState)
  | defect (f : Failure)
  | skipped

/-- Runs the slots in order; once one fails, the rest are skipped. -/
def runEach (svc : Services σ) (cfg : RunConfig) (spec : ActivitySpec) :
    Bool → List Slot → StateM σ (List SlotOutcome)
  | _, [] => pure []
  | true, _ :: rest => do
    let outs ← runEach svc cfg spec true rest
    pure (.skipped :: outs)
  | false, slot :: rest => do
    match ← (runSlot svc cfg spec slot).run with
    | .ok s =>
      let outs ← runEach svc cfg spec (s.stage == .failed) rest
      pure (.ran s :: outs)
    | .error f =>
      let outs ← runEach svc cfg spec false rest
      pure (.defect f :: outs)

/-- The first of the failed slots with the least position. -/
def firstFailed (states : List SlotState) : Option SlotState :=
  states.foldl (fun best s =>
    match best with
    | some b => if s.slot.index < b.slot.index then some s else some b
    | none => some s) none

/-- The outcome of a whole run: the first defect if any slot had one; else a failure naming
the first failed slot; else every slot's state, problem ids made distinct. -/
def settle (outs : List SlotOutcome) : Except Failure (List SlotState) :=
  let defects := outs.filterMap fun | .defect f => some f | _ => none
  let ran := outs.filterMap fun | .ran s => some s | _ => none
  match defects.head?, firstFailed (ran.filter (·.stage == .failed)) with
  | some f, _ => throw f
  | none, some s =>
    throw (.runFailed (shortError ("Problem " ++ toString (s.slot.index + 1) ++ " failed: " ++
      s.lastError.getD "None")) (some s.slot.index))
  | none, none =>
    let problems := makeIdsUnique (ran.filterMap (·.problem))
    pure ((ran.zip problems).map fun (s, p) => { s with problem := some p })

/-- Runs every slot of an activity; all must end DONE. -/
def run (svc : Services σ) (cfg : RunConfig) (spec : ActivitySpec) (slots : List Slot) :
    Gen σ (List SlotState) := do
  let outs ← ExceptT.lift (runEach svc cfg spec false slots)
  step (settle outs)

end Generation

end PracticeForge
