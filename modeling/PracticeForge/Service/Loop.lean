import PracticeForge.Service.Local

/-!
# Service/Loop — requests on threads served side by side

The service answers its requests on one event loop, so a request runs alone between two of its
await points, and requests in flight interleave there.  Nothing is held on a thread between a
request's reading of it and its saving of it.

* Creating a thread has no await point: it takes a fresh id and saves the greeted thread.
* A chat turn reads its thread, asks the dialogue model when the turn needs it, and saves the
  thread the turn leaves: three moves, each after an await.
* A generation reads its thread; then, with no await in between, takes a thread that some
  generation still runs for as GENERATING, checks that it is READY, freezes its spec and
  registers itself as running.  Its run then saves the thread as GENERATING and goes on to run
  the slots, save the activity (or mark the thread FAILED) and announce the end, and its
  registration ends with it.  The run's later steps touch the storage only where it saves the
  activity or marks the thread, so they make one move here, whatever the models and the judge
  answer in between.

`askFor` and `keepTurn` are the two halves of `ThreadService.postMessage` after its read, and
`startGeneration` and `generate` the parts of `ThreadService.triggerGeneration` around its save;
with nothing registered they make up the two requests exactly (`Proofs/Service/Lifecycle`).

A move that saves a thread a chat turn or a generation read earlier writes back that copy
whatever was saved in between.  `Move fresh` asks `fresh w t` of such a save of the copy `t` in
the world `w`: nothing (`fun _ _ => True`), as the event loop does, or that the copy is still the
thread stored (`current`), as a store that refused a stale copy would.
-/

namespace PracticeForge

/-- What a generation whose run failed with `e` marks its thread FAILED with: the failed slot's
reason and index, or a fixed text and no slot for any other failure. -/
def Failure.markedAs : Failure → String × Option Int
  | .runFailed reason slot => (reason, slot)
  | _ => (internalFailure, none)

namespace ThreadService

variable {σ : Type} (svc : ThreadService σ)

/-- The dialogue model's reply a turn on the thread `t` needs: the model asked with the prompt the
turn computes, or no call at all. -/
def askFor (t : Thread) (message : Option String) : Effect σ ModelReply :=
  match (Negotiation.turn t message fun _ => .text "").1 with
  | some prompt => modifyGet (svc.services.complete (dialogueAsk prompt))
  | none => pure (.text "")

/-- Settles a turn on the thread `t` with the dialogue model's reply, and saves the thread the turn
keeps. -/
def keepTurn (t : Thread) (message : Option String) (reply : ModelReply) : Effect σ TurnResult :=
  match (Negotiation.turn t message fun _ => reply).2 with
  | .ok (r, some t) => do
    let _ ← svc.storage.saveThread t
    pure r
  | .ok (r, none) => pure r
  | .error e => throw e

/-- The run of the slots of a generation: laid out from the frozen spec, announced, run, and
saved as an activity of the thread; gives the activity's id and its number of problems. -/
def produce (id : String) (t : Thread) (spec : ActivitySpec) (run : Nat) :
    Effect σ (String × Nat) := do
  let slots ← Effect.ofExcept (planSlots spec)
  svc.announce id (.generationStarted slots.length run)
  let states ← Generation.run (svc.runServices id) ⟨svc.backoff, t.learningMode.name⟩ spec slots
  let activityId ← svc.storage.persistActivity svc.mintId id states
  pure (activityId, states.length)

/-- What a generation does when its run fails with `e`: the thread marked FAILED as `e` says, the
run recorded, and the failure passed on. -/
def abandon (id : String) (spec : ActivitySpec) (run : Nat) (e : Failure) :
    Effect σ (String × Nat) := do
  svc.markFailed id e.markedAs.1 e.markedAs.2
  svc.recordRun id run false spec.problemCount none e.markedAs.2 (some e.kind)
  throw e

/-- The run of a generation once its thread is saved as GENERATING: a new run on the thread's
channel, the slots run and saved (or the run abandoned), and the end recorded and announced. -/
def generate (id : String) (t : Thread) (spec : ActivitySpec) : Effect σ (String × Nat) := do
  let run ← svc.onBus fun b => b.startRun id
  let made ← tryCatch (svc.produce id t spec run) (svc.abandon id spec run)
  svc.recordRun id run true made.2 (some made.1) none none
  svc.announce id (.generationCompleted made.1 made.2)
  pure made

end ThreadService

/-- The checks a generation makes on the thread `t` it read, before it saves anything: a thread
some generation still runs for counts as GENERATING, the thread must be READY, and its spec must
freeze.  Gives the thread moved to GENERATING and the frozen spec. -/
def startGeneration (running : Bool) (t : Thread) : Except Failure (Thread × ActivitySpec) := do
  let state := if running then ThreadState.generating else t.state
  if state != .ready then
    throw (.invalidThreadState ("Generation needs a READY thread; this one is " ++ state.name ++ "."))
  let spec ← match t.spec.freeze with
    | .ok s => pure s
    | .error _ => throw (.invalidThreadState "The activity spec is incomplete.")
  let t ← t.transitionTo .generating
  pure (t, spec)

namespace ThreadService

/-- A request on the service. -/
inductive Request where
  /-- Create a thread in a learning mode, given as a value. -/
  | create (mode : Json)
  /-- A learner's message for a thread. -/
  | chat (id : String) (message : Option String)
  /-- Generate the activity of a thread. -/
  | generate (id : String)

/-- Where a request served alongside others has got to. -/
inductive Stage where
  /-- Not begun. -/
  | waiting (r : Request)
  /-- A chat turn holding the thread it read. -/
  | chatRead (t : Thread) (message : Option String)
  /-- A chat turn holding the thread it read and the dialogue model's reply. -/
  | chatAnswered (t : Thread) (message : Option String) (reply : ModelReply)
  /-- A generation of the thread `id` holding the thread it read. -/
  | genRead (id : String) (t : Thread)
  /-- A generation registered as running, holding the thread it read, and that thread moved to
  GENERATING with its frozen spec, still to be saved. -/
  | genStarting (id : String) (t t₁ : Thread) (spec : ActivitySpec)
  /-- A generation whose thread is saved as GENERATING, its run under way. -/
  | genRunning (id : String) (t₁ : Thread) (spec : ActivitySpec)
  /-- A generation that saved its thread as GENERATING and has ended. -/
  | genEnded (id : String)
  /-- Any other request that has ended. -/
  | ended

namespace Stage

/-- Whether the stage is a generation of the thread `id` registered as running. -/
def registers (id : String) : Stage → Bool
  | genStarting i .. | genRunning i .. => i == id
  | _ => false

/-- Where a chat turn is after reading its thread. -/
def afterChatRead (message : Option String) : Except Failure Thread → Stage
  | .ok t => chatRead t message
  | .error _ => ended

/-- Where a chat turn is after asking the dialogue model. -/
def afterAsk (t : Thread) (message : Option String) : Except Failure ModelReply → Stage
  | .ok reply => chatAnswered t message reply
  | .error _ => ended

/-- Where a generation is after reading its thread. -/
def afterGenRead (id : String) : Except Failure Thread → Stage
  | .ok t => genRead id t
  | .error _ => ended

/-- Where a generation is after its checks: registered, or ended. -/
def afterStart (id : String) (t : Thread) : Except Failure (Thread × ActivitySpec) → Stage
  | .ok (t₁, spec) => genStarting id t t₁ spec
  | .error _ => ended

/-- Where a generation is after saving its thread as GENERATING. -/
def afterSave (id : String) (t₁ : Thread) (spec : ActivitySpec) : Except Failure Thread → Stage
  | .ok _ => genRunning id t₁ spec
  | .error _ => ended

end Stage

/-- Whether some request in flight is a generation of the thread `id` registered as running. -/
def registered (stages : List Stage) (id : String) : Bool := stages.any (·.registers id)

/-- The service's answer to whether a generation of the thread `id` is running, with the
requests `stages` in flight: whether one of them registered itself for the thread.  A generation
registers before its first await and its registration ends with its run, so between requests
served one at a time nothing runs. -/
def isRunning (stages : List Stage) (id : String) : Bool := registered stages id

/-- The copy `t` of a thread is the one stored. -/
def current (w : LocalWorld) (t : Thread) : Prop := w.memory.threads.get? t.id = some t

variable (svc : ThreadService LocalWorld) (fresh : LocalWorld → Thread → Prop)

/-- One move of the event loop: a step of one request between two await points.  A creation
takes an id that names no stored thread, as a random identifier does; the saves of a copy read
earlier are those `fresh` allows. -/
inductive Move : LocalWorld × List Stage → LocalWorld × List Stage → Prop
  | create {w w' : LocalWorld} {res : Except Failure CreatedThread} (pre post : List Stage)
      (mode : Json) (hid : ∀ i w₁, svc.mintId.run' w = (.ok i, w₁) → w.memory.threads.get? i = none)
      (h : (svc.createThread mode).run' w = (res, w')) :
      Move (w, pre ++ .waiting (.create mode) :: post) (w', pre ++ .ended :: post)
  | chatRead {w w' : LocalWorld} {res : Except Failure Thread} (pre post : List Stage) (id : String)
      (message : Option String) (h : (svc.thread id).run' w = (res, w')) :
      Move (w, pre ++ .waiting (.chat id message) :: post)
        (w', pre ++ Stage.afterChatRead message res :: post)
  | chatAsk {w w' : LocalWorld} {res : Except Failure ModelReply} (pre post : List Stage)
      (t : Thread) (message : Option String) (h : (svc.askFor t message).run' w = (res, w')) :
      Move (w, pre ++ .chatRead t message :: post) (w', pre ++ Stage.afterAsk t message res :: post)
  | chatSave {w w' : LocalWorld} {res : Except Failure TurnResult} (pre post : List Stage)
      (t : Thread) (message : Option String) (reply : ModelReply) (hfresh : fresh w t)
      (h : (svc.keepTurn t message reply).run' w = (res, w')) :
      Move (w, pre ++ .chatAnswered t message reply :: post) (w', pre ++ .ended :: post)
  | genRead {w w' : LocalWorld} {res : Except Failure Thread} (pre post : List Stage) (id : String)
      (h : (svc.thread id).run' w = (res, w')) :
      Move (w, pre ++ .waiting (.generate id) :: post) (w', pre ++ Stage.afterGenRead id res :: post)
  | genStart (w : LocalWorld) (pre post : List Stage) (id : String) (t : Thread) :
      Move (w, pre ++ .genRead id t :: post)
        (w, pre ++ Stage.afterStart id t (startGeneration (registered (pre ++ post) id) t) :: post)
  | genSave {w w' : LocalWorld} {res : Except Failure Thread} (pre post : List Stage) (id : String)
      (t t₁ : Thread) (spec : ActivitySpec) (hfresh : fresh w t)
      (h : (svc.storage.saveThread t₁).run' w = (res, w')) :
      Move (w, pre ++ .genStarting id t t₁ spec :: post) (w', pre ++ Stage.afterSave id t₁ spec res :: post)
  | genFinish {w w' : LocalWorld} {res : Except Failure (String × Nat)} (pre post : List Stage)
      (id : String) (t₁ : Thread) (spec : ActivitySpec) (h : (svc.generate id t₁ spec).run' w = (res, w')) :
      Move (w, pre ++ .genRunning id t₁ spec :: post) (w', pre ++ .genEnded id :: post)

end ThreadService

end PracticeForge
