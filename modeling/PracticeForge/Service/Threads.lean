import PracticeForge.Activity.Persist
import PracticeForge.Generation.Run
import PracticeForge.Progress.Bus
import PracticeForge.Chat.Negotiation
import PracticeForge.Telemetry.Event

/-!
# Service/Threads — a thread from its first message to its saved activity

The service ties the parts together.  A thread is created with the greeting as its first
message; each learner message is one negotiation turn, asking the dialogue model when the turn
needs it; and a READY thread with a complete spec can start generation.  A run moves the thread
to GENERATING, starts a new run on the thread's progress channel, lays the spec out as slots,
runs the pipeline, saves the activity (the thread becomes SAVED) and announces the result.  A
run that fails marks the thread FAILED with a short reason (the failed slot's reason, or a
fixed text for defects), announces the failure, and fails in turn.

Watchers subscribe to a thread's channel and first get what the current run has reported.
-/

namespace PracticeForge

/-- The reason shown when a run stopped on a defect. -/
def internalFailure : String := "Generation failed due to an internal error."

/-- A request to the dialogue model: sampling at temperature 0.2, at most 800 tokens. -/
def dialogueAsk (prompt : String) : Gateway.Ask :=
  ⟨Wording.dialogueInstructions, prompt, .float (Binary64.ofRatio false 1 5), .int 800⟩

/-- What creating a thread reports. -/
structure CreatedThread where
  threadId : String
  state : ThreadState
  learningMode : LearningMode
  initialPrompt : String

/-- The JSON form of a creation report. -/
def CreatedThread.toJson (c : CreatedThread) : Json :=
  .obj [("thread_id", .str c.threadId), ("state", .str c.state.name),
    ("learning_mode", .str c.learningMode.name), ("initial_prompt", .str c.initialPrompt)]

/-- What the service works with, over a world of type `σ`: the storage, the outside services
(the models and the judge), the progress channels, a source of fresh ids, and the wait before
a retry. -/
structure ThreadService (σ : Type) where
  storage : Storage σ
  services : Generation.Services σ
  bus : σ → ProgressBus
  setBus : σ → ProgressBus → σ
  mintId : Effect σ String
  backoff : Binary64
  /-- Records a usage event. -/
  record : Telemetry.Fields → Effect σ Unit

namespace ThreadService

variable {σ : Type} (svc : ThreadService σ)

/-- The thread with an id, or a failure naming it. -/
def thread (id : String) : Effect σ Thread := do
  match ← svc.storage.getThread id with
  | some t => pure t
  | none => throw (.threadNotFound id)

/-- Acts on the progress channels. -/
def onBus {α : Type} (f : ProgressBus → Except Failure (α × ProgressBus)) : Effect σ α := do
  let w ← get
  match f (svc.bus w) with
  | .ok (a, b) => set (svc.setBus w b); pure a
  | .error e => throw e

/-- Tells a thread's watchers. -/
def announce (id : String) (e : ProgressEvent) : Effect σ Unit :=
  svc.onBus fun b => (b.publish id e).map fun b => ((), b)

/-- Creates a thread in a learning mode given as a value; the id is taken before the mode is
read. -/
def createThread (mode : Json) : Effect σ CreatedThread := do
  let id ← svc.mintId
  let mode ← Effect.ofExcept ((Schema.at_ (.key "learning_mode") (LearningMode.check mode)).mapError Failure.invalid)
  let t := Thread.greeted id mode
  let _ ← svc.storage.saveThread t
  pure ⟨id, t.state, mode, Wording.initialPrompt⟩

/-- Takes one learner message for a thread.  The dialogue model is asked only when the turn
needs it, with the prompt the turn computes. -/
def postMessage (id : String) (message : Option String) : Effect σ TurnResult := do
  let t ← svc.thread id
  let reply ← match (Negotiation.turn t message fun _ => .text "").1 with
    | some prompt => modifyGet (svc.services.complete (dialogueAsk prompt))
    | none => pure (.text "")
  match (Negotiation.turn t message fun _ => reply).2 with
  | .ok (r, some t) =>
    let _ ← svc.storage.saveThread t
    pure r
  | .ok (r, none) => pure r
  | .error e => throw e

/-- Marks a running thread FAILED with a reason and tells its watchers. -/
def markFailed (id : String) (reason : String) (slot : Option Int) : Effect σ Unit := do
  let reason := shortError reason
  match ← svc.storage.getThread id with
  | some t =>
    if t.state == .generating then
      let t ← Effect.ofExcept (t.transitionTo .failed)
      let _ ← svc.storage.saveThread { t with lastError := some reason }
  | none => pure ()
  svc.announce id (.generationFailed reason slot)

/-- The services of a run of one thread: events go to the thread's channel. -/
def runServices (id : String) : Generation.Services σ :=
  { svc.services with
    publish := fun e w =>
      match (svc.bus w).publish id e with
      | .ok b => svc.setBus w b
      | .error _ => w }

/-- Records how a run of a thread ended. -/
def recordRun (id : String) (run : Nat) (ok : Bool) (slotCount : Nat) (activityId : Option String)
    (failedSlot : Option Int) (errorType : Option String) : Effect σ Unit := do
  let fields : Telemetry.Fields :=
    [("thread_id", .str id), ("run", .int run), ("ok", .bool ok), ("slot_count", .int slotCount),
      ("latency_ms", .int 0), ("activity_id", Json.ofStrOpt activityId),
      ("failed_slot", Json.ofIntOpt failedSlot), ("error_type", Json.ofStrOpt errorType)]
  match Telemetry.emit (.str "generation_run") (.str "pipeline") (.str "v1") fields with
  | .ok p => svc.record p
  | .error _ => pure ()

/-- Generates the activity of a READY thread; gives its id and its number of problems.  The
slots run one at a time (`Generation.run`): the service's pool lets two run at once, and the
sequential run is one of that pool's schedules, the one with a single permit; what every
schedule settles to, for any number of permits, is stated over the pool itself
(`Proofs/Generation/Pool`). -/
def triggerGeneration (id : String) : Effect σ (String × Nat) := do
  let t ← svc.thread id
  if t.state != .ready then
    throw (.invalidThreadState ("Generation needs a READY thread; this one is " ++ t.state.name ++ "."))
  let spec ← match t.spec.freeze with
    | .ok s => pure s
    | .error _ => throw (.invalidThreadState "The activity spec is incomplete.")
  let t ← Effect.ofExcept (t.transitionTo .generating)
  let _ ← svc.storage.saveThread t
  let run ← svc.onBus fun b => b.startRun id
  let (activityId, count) ← tryCatch (do
      let slots ← Effect.ofExcept (planSlots spec)
      svc.announce id (.generationStarted slots.length run)
      let states ← Generation.run (svc.runServices id) ⟨svc.backoff, t.learningMode.name⟩ spec slots
      let activityId ← svc.storage.persistActivity svc.mintId id states
      pure (activityId, states.length))
    fun e => do
      match e with
      | .runFailed reason slot =>
        svc.markFailed id reason slot
        svc.recordRun id run false spec.problemCount none slot (some e.kind)
      | _ =>
        svc.markFailed id internalFailure none
        svc.recordRun id run false spec.problemCount none none (some e.kind)
      throw e
  svc.recordRun id run true count (some activityId) none none
  svc.announce id (.generationCompleted activityId count)
  pure (activityId, count)

/-- What the current run of a thread has reported so far, as a new watcher gets it. -/
def replay (id : String) : Effect σ (List ProgressEvent) := do
  let _ ← svc.thread id
  let n ← svc.onBus fun b => .ok (b.subscribe id)
  svc.onBus fun b =>
    match b.drain n with
    | some ((events, _), b) => .ok (events, (b.unsubscribe n).getD b)
    | none => .ok ([], b)

end ThreadService

end PracticeForge
