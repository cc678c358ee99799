import PracticeForge.Proofs.Service.Trigger
import PracticeForge.Proofs.Chat.Outcome
import PracticeForge.Service.Loop

/-!
# Proofs/Service/Lifecycle — what each move of a request does to the stored threads

The event loop runs a request as a few moves, cut where it awaits (`Service/Loop`).  The first
part checks the cut against the requests run alone: a chat turn is its read, its question to the
dialogue model and the keeping of its turn (`ThreadService.postMessage_eq`), and a generation is
its read, its checks (`startGeneration`), the GENERATING save and its run
(`ThreadService.triggerGeneration_eq`).

The rest says what each move does to the memory and to the progress channels.
`Effect.Keeps e view` says that `e` leaves the part `view` of the world as it found it; it is kept
through binds and handlers, so each piece of a request is checked once and the requests are
assembled from the pieces.  Keeping a turn or creating a thread writes one thread or nothing
(`LocalWorld.keepTurn_memory`, `LocalWorld.createThread_memory`), and none of the moves changes
the channels' size.  A generation's run, on channels of size not negative and for a thread stored
GENERATING, ends it (`LocalWorld.generate_concludes`): the activity saved with the thread SAVED,
or the thread written FAILED (`Memory.Concludes`), whatever the models and the judge answer.
-/

namespace PracticeForge

/-! ## The requests, cut at their await points -/

theorem Effect.ext {σ α : Type} {x y : Effect σ α} (h : ∀ w, x.run' w = y.run' w) : x = y :=
  funext h

@[simp] theorem Thread.stamp_id (t : Thread) (now : String) : (t.stamp now).id = t.id := rfl

@[simp] theorem Thread.stamp_state (t : Thread) (now : String) : (t.stamp now).state = t.state :=
  rfl

/-- A READY thread may always move to GENERATING. -/
theorem Thread.transitionTo_generating {t : Thread} (hready : t.state = .ready) :
    t.transitionTo .generating = .ok { t with state := .generating } := by
  simp [Thread.transitionTo, hready, ThreadState.next]

/-- **The checks of a generation** pass only with nothing registered, for a READY thread whose
spec freezes, and give the thread moved to GENERATING with the frozen spec. -/
theorem startGeneration_ok {running : Bool} {t t₁ : Thread} {spec : ActivitySpec}
    (h : startGeneration running t = .ok (t₁, spec)) :
    running = false ∧ t.state = .ready ∧ t.spec.freeze = .ok spec ∧
      t₁ = { t with state := .generating } := by
  cases running
  case true =>
    -- a registered generation makes the thread count as GENERATING
    simp [startGeneration, ThreadState.name, bind, Except.bind] at h
  case false =>
  by_cases hready : t.state = .ready
  case neg => simp [startGeneration, hready, bind, Except.bind] at h
  cases hf : t.spec.freeze with
  | error e => simp [startGeneration, hready, hf, bind, Except.bind] at h
  | ok S =>
    simp only [startGeneration, hready, hf, Thread.transitionTo_generating hready, bind,
      Except.bind, bne_self_eq_false, Bool.false_eq_true, if_false, pure, Except.pure,
      Except.ok.injEq, Prod.mk.injEq] at h
    obtain ⟨rfl, rfl⟩ := h
    exact ⟨rfl, hready, rfl, rfl⟩

/-- A READY thread whose spec freezes passes the checks when nothing is registered. -/
theorem startGeneration_ready {t : Thread} {spec : ActivitySpec} (hready : t.state = .ready)
    (hfreeze : t.spec.freeze = .ok spec) :
    startGeneration false t = .ok ({ t with state := .generating }, spec) := by
  simp [startGeneration, hready, hfreeze, Thread.transitionTo_generating hready, bind,
    Except.bind, pure, Except.pure]

namespace ThreadService

variable {σ : Type} (svc : ThreadService σ)

/-- A chat turn run alone reads its thread, asks the model, and keeps the turn. -/
theorem postMessage_eq (id : String) (message : Option String) :
    svc.postMessage id message = (do
      let t ← svc.thread id
      let reply ← svc.askFor t message
      svc.keepTurn t message reply) := by
  rw [postMessage.eq_1]
  apply Effect.ext
  intro w
  rw [Effect.run'_bind, Effect.run'_bind]
  rcases (svc.thread id).run' w with ⟨_ | t, w₁⟩
  · rfl
  dsimp only
  rw [Effect.run'_bind]
  unfold askFor
  -- the two matches on the turn's prompt are the same match, written twice
  cases h : (Negotiation.turn t message fun _ => .text "").1 with
  | none =>
    simp only [Effect.run'_pure, Effect.run'_bind]
    unfold keepTurn
    rcases (Negotiation.turn t message fun _ => ModelReply.text "").2 with e | ⟨r, _ | t'⟩ <;> rfl
  | some p =>
    simp only [Effect.run'_bind]
    rcases (modifyGet (svc.services.complete (dialogueAsk p)) : Effect σ ModelReply).run' w₁ with
      ⟨_ | a, w₂⟩
    · rfl
    dsimp only
    unfold keepTurn
    rcases (Negotiation.turn t message fun _ => a).2 with e | ⟨r, _ | t'⟩ <;> rfl

/-- A generation run alone reads its thread, makes its checks with nothing registered, saves the
thread as GENERATING and runs. -/
theorem triggerGeneration_eq (id : String) :
    svc.triggerGeneration id = (do
      let t ← svc.thread id
      let started ← Effect.ofExcept (startGeneration false t)
      let _ ← svc.storage.saveThread started.1
      svc.generate id started.1 started.2) := by
  rw [triggerGeneration.eq_1]
  apply Effect.ext
  intro w
  rw [Effect.run'_bind, Effect.run'_bind]
  rcases (svc.thread id).run' w with ⟨_ | t, w₁⟩
  · rfl
  dsimp only
  by_cases hready : t.state = .ready
  case neg =>
    have hs : startGeneration false t = .error (.invalidThreadState
        ("Generation needs a READY thread; this one is " ++ t.state.name ++ ".")) := by
      unfold startGeneration
      rw [if_pos (by simpa using hready)]
      rfl
    rw [if_pos (by simpa using hready), hs]
    rfl
  rw [if_neg (by simpa using hready)]
  cases hf : t.spec.freeze with
  | error e =>
    have hs : startGeneration false t =
        .error (.invalidThreadState "The activity spec is incomplete.") := by
      unfold startGeneration
      rw [if_neg (by simpa using hready), hf]
      rfl
    rw [hs]
    rfl
  | ok S =>
    rw [startGeneration_ready hready hf]
    unfold generate produce abandon
    simp only [Effect.run'_bind, Effect.run'_pure, Effect.run'_ofExcept,
      Thread.transitionTo_generating hready]
    rcases (svc.storage.saveThread { t with state := .generating }).run' w₁ with ⟨_ | _, w₂⟩
    · rfl
    dsimp only
    rcases (svc.onBus fun b => b.startRun id).run' w₂ with ⟨_ | run, w₃⟩
    · rfl
    dsimp only
    rw [Effect.run'_tryCatch, Effect.run'_tryCatch]
    rcases Effect.run' _ w₃ with ⟨_ | ⟨aid, n⟩, w₄⟩
    case ok => dsimp only
    -- the handler's two branches mark the thread as `Failure.markedAs` says
    case error e => cases e <;> simp only [Failure.markedAs]

end ThreadService

/-! ## Computations that keep a part of the world -/

namespace Effect

variable {σ τ α β : Type}

/-- The computation `e` leaves the part `view` of the state as it found it, whether it succeeds
or fails. -/
def Keeps (e : Effect σ α) (view : σ → τ) : Prop := ∀ w, view (e.run' w).2 = view w

theorem keeps_pure (a : α) (view : σ → τ) : (pure a : Effect σ α).Keeps view := fun _ => rfl

theorem keeps_throw (e : Failure) (view : σ → τ) : (throw e : Effect σ α).Keeps view :=
  fun _ => rfl

theorem keeps_ofExcept (r : Except Failure α) (view : σ → τ) : (ofExcept r : Effect σ α).Keeps view :=
  fun _ => rfl

/-- The state a computation that keeps `view` leaves, read through `view`. -/
theorem Keeps.run' {e : Effect σ α} {view : σ → τ} (he : e.Keeps view) {w w' : σ}
    {r : Except Failure α} (h : e.run' w = (r, w')) : view w' = view w := by
  simpa [h] using he w

theorem Keeps.bind {x : Effect σ α} {f : α → Effect σ β} {view : σ → τ} (hx : x.Keeps view)
    (hf : ∀ a, (f a).Keeps view) : (x >>= f).Keeps view := by
  intro w
  rw [run'_bind]
  rcases hr : x.run' w with ⟨_ | a, w₁⟩
  · exact hx.run' hr
  · exact (hf a w₁).trans (hx.run' hr)

theorem Keeps.tryCatch {x : Effect σ α} {h : Failure → Effect σ α} {view : σ → τ}
    (hx : x.Keeps view) (hh : ∀ e, (h e).Keeps view) : (tryCatch x h).Keeps view := by
  intro w
  rw [run'_tryCatch]
  rcases hr : x.run' w with ⟨_ | a, w₁⟩
  · exact (hh _ w₁).trans (hx.run' hr)
  · exact hx.run' hr

theorem keeps_throw_bind (e : Failure) (f : α → Effect σ β) (view : σ → τ) :
    (throw e >>= f : Effect σ β).Keeps view := fun _ => rfl

/-- A bind whose continuations keep `view` leaves it as its first computation left it. -/
theorem Keeps.run'_bind {x : Effect σ α} {f : α → Effect σ β} {view : σ → τ}
    (hf : ∀ a, (f a).Keeps view) (w : σ) : view ((x >>= f).run' w).2 = view (x.run' w).2 := by
  rw [Effect.run'_bind]
  rcases x.run' w with ⟨_ | a, w₁⟩
  · rfl
  · exact hf a w₁

theorem keeps_of_run' {e : Effect σ α} {view : σ → τ}
    (h : ∀ w r w', e.run' w = (r, w') → view w' = view w) : e.Keeps view := fun w => h w _ _ rfl

@[simp] theorem run'_modifyGet_effect (f : σ → α × σ) (w : σ) :
    (modifyGet f : Effect σ α).run' w = (.ok (f w).1, (f w).2) := rfl

end Effect

/-- Saving an activity keeps what the storage's reads and its one write keep, and what taking an
id keeps. -/
theorem Storage.persistActivity_keeps {σ τ : Type} {st : Storage σ} {mint : Effect σ String}
    {view : σ → τ} (hget : ∀ id, (st.getThread id).Keeps view)
    (hcommit : ∀ a t, (st.commitGeneration a t).Keeps view) (hmint : mint.Keeps view) (id : String)
    (states : List SlotState) : (st.persistActivity mint id states).Keeps view := by
  unfold Storage.persistActivity
  -- the checks before the thread is read
  split
  · exact Effect.keeps_throw_bind _ _ _
  dsimp only
  split
  · exact Effect.keeps_throw_bind _ _ _
  refine (hget id).bind fun o => ?_
  cases o with
  | none => exact Effect.keeps_throw_bind _ _ _
  | some t =>
    refine (Effect.keeps_pure t view).bind fun t => hmint.bind fun aid => ?_
    exact (Effect.keeps_ofExcept _ view).bind fun t' =>
      (hcommit _ _).bind fun _ => Effect.keeps_pure _ view

/-- What keeps the channels keeps their size. -/
theorem Effect.Keeps.bus_size {α : Type} {e : Effect LocalWorld α} (h : e.Keeps (·.bus)) :
    e.Keeps (·.bus.size) := fun w => congrArg ProgressBus.size (h w)

/-! ## A turn that keeps a thread -/

/-- **A turn that keeps a thread** started from a thread that takes messages, and keeps it under
the same id, CLARIFYING or READY. -/
theorem Negotiation.turn_keeps {t t' : Thread} {message : Option String}
    {model : String → ModelReply} {r : TurnResult}
    (h : (Negotiation.turn t message model).2 = .ok (r, some t')) :
    t.state.isChat = true ∧ t'.id = t.id ∧ (t'.state = .clarifying ∨ t'.state = .ready) := by
  unfold Negotiation.turn at h
  dsimp only at h
  split at h
  · cases h
  split at h
  · cases h
  next hchat =>
  have hchat : t.state.isChat = true := by simpa using hchat
  split at h
  case h_2 => cases h
  case h_1 r₁ t₁ hn =>
  simp only [Except.ok.injEq, Prod.mk.injEq, Option.some.injEq] at h
  obtain ⟨-, rfl⟩ := h
  -- the negotiation ended the turn, on the thread with the learner's message added
  rcases @Negotiation.negotiate_outcome (t.addMessage .user (Text.trim (message.getD "")))
    (Text.trim (message.getD "")) model hchat with
    ⟨r', t'', d, hok, hend, -⟩ | ⟨e, herr, -⟩
  case inr => rw [hn] at herr; cases herr
  rw [hn, Except.ok.injEq, Prod.mk.injEq] at hok
  obtain ⟨-, rfl⟩ := hok
  refine ⟨hchat, hend.id, ?_⟩
  rcases hend.way with ⟨_, _, hs, _⟩ | ⟨_, _, _, hs, _⟩ | ⟨_, _, hs, _⟩
  all_goals simp [hs]

/-- A turn on a thread that takes messages, with a message whose stated values read and a
dialogue reply that reads, is taken, and keeps a thread. -/
theorem Negotiation.turn_takes {t : Thread} {message : Option String} {reply : ModelReply}
    (htext : (Text.trim (message.getD "")).isEmpty = false) (hchat : t.state.isChat = true)
    (hread : (Shorthand.read (Text.trim (message.getD ""))).isOk = true)
    (hreply : ∃ x, Negotiation.proposal reply = .ok x) :
    ∃ r t', (Negotiation.turn t message fun _ => reply).2 = .ok (r, some t') := by
  unfold Negotiation.turn
  dsimp only
  rw [if_neg (by simp [htext]), if_neg (by simp [hchat])]
  have hout := @Negotiation.negotiate_outcome (t.addMessage .user (Text.trim (message.getD "")))
    (Text.trim (message.getD "")) (fun _ => reply) hchat
  rcases hn : Negotiation.negotiate (t.addMessage .user (Text.trim (message.getD "")))
    (Text.trim (message.getD "")) (fun _ => reply) with ⟨prompt, e | ⟨r, t'⟩⟩
  · -- a negotiation fails only in reading the message or the reply, and both read
    rw [hn] at hout
    rcases hout with ⟨_, _, _, h, -⟩ | ⟨e', h, hcause⟩
    · cases h
    · rcases hcause with hr | ⟨_, hp⟩
      · rw [hr] at hread
        cases hread
      · obtain ⟨x, hx⟩ := hreply
        rw [hx] at hp
        cases hp
  · exact ⟨r, t', rfl⟩

/-- An empty reply reads, as no proposal. -/
theorem Negotiation.proposal_empty : ∃ x, Negotiation.proposal (.text "") = .ok x := by
  have h : (Negotiation.proposal (.text "")).isOk = true := by decide +kernel
  cases hp : Negotiation.proposal (.text "") with
  | error e =>
    rw [hp] at h
    cases h
  | ok x => exact ⟨x, rfl⟩

/-! ## The local service, move by move

The storage acts on the memory and the id counter, the progress channels on the channels, the
telemetry on nothing, and the outside services on what they keep (`Services.Keeps`). -/

/-- How a generation under way for the thread `id` may end in the memory: its activity saved with
the thread SAVED (`Persisted`), or the thread, GENERATING before, written FAILED. -/
def Memory.Concludes (id : String) (m m' : Memory) : Prop :=
  (∃ states aid, m.Persisted id states aid m') ∨
    ∃ t u, m.threads.get? id = some t ∧ t.state = .generating ∧ u.id = id ∧ u.state = .failed ∧
      m'.threads = m.threads.save u ∧ m'.activities = m.activities

namespace LocalWorld

variable {b : Binary64} {gen : Generation.Services LocalWorld}

theorem getThread_keeps_bus (id : String) :
    ((serviceWith b gen).storage.getThread id).Keeps (·.bus) := fun _ => rfl

theorem saveThread_keeps_bus (t : Thread) :
    ((serviceWith b gen).storage.saveThread t).Keeps (·.bus) := fun _ => rfl

theorem mintId_keeps_bus : (serviceWith b gen).mintId.Keeps (·.bus) := fun _ => rfl

theorem persistActivity_keeps_bus (id : String) (states : List SlotState) :
    ((serviceWith b gen).storage.persistActivity (serviceWith b gen).mintId id states).Keeps
      (·.bus) := by
  refine Storage.persistActivity_keeps getThread_keeps_bus (fun a t w => ?_) mintId_keeps_bus id
    states
  rw [serviceWith_storage, commitGeneration_run']
  split <;> rfl

/-- **Keeping a turn** writes the thread the turn keeps, stamped, or nothing; the activities stay
as they were. -/
theorem keepTurn_memory {t : Thread} {message : Option String} {reply : ModelReply}
    {w w' : LocalWorld} {r : Except Failure TurnResult}
    (h : ((serviceWith b gen).keepTurn t message reply).run' w = (r, w')) :
    w'.memory.activities = w.memory.activities ∧ (w'.memory.threads = w.memory.threads ∨
      ∃ r' t' now, (Negotiation.turn t message fun _ => reply).2 = .ok (r', some t') ∧
        w'.memory.threads = w.memory.threads.save (t'.stamp now)) := by
  unfold ThreadService.keepTurn at h
  split at h
  case h_1 r' t' hturn =>
    rw [Effect.run'_bind, serviceWith_storage, saveThread_run'] at h
    dsimp only at h
    rw [Effect.run'_pure, Prod.mk.injEq] at h
    rw [← h.2]
    exact ⟨rfl, .inr ⟨r', t', _, hturn, rfl⟩⟩
  all_goals
    simp only [Effect.run'_pure, Effect.run'_throw, Prod.mk.injEq] at h
    rw [← h.2]
    exact ⟨rfl, .inl rfl⟩

/-- A turn that keeps a thread saves it, stamped, and answers. -/
theorem keepTurn_run'_save {t t' : Thread} {message : Option String} {reply : ModelReply}
    {r : TurnResult} (hturn : (Negotiation.turn t message fun _ => reply).2 = .ok (r, some t'))
    (w : LocalWorld) :
    ((serviceWith b gen).keepTurn t message reply).run' w =
      (.ok r, { w with memory := { w.memory with
        clock := w.memory.clock + 1,
        threads := w.memory.threads.save (t'.stamp (Clock.reading (w.memory.clock + 1))) } }) := by
  unfold ThreadService.keepTurn
  rw [hturn]
  dsimp only
  rw [Effect.run'_bind, serviceWith_storage, saveThread_run']
  rfl

theorem keepTurn_keeps_bus (t : Thread) (message : Option String) (reply : ModelReply) :
    ((serviceWith b gen).keepTurn t message reply).Keeps (·.bus) := by
  unfold ThreadService.keepTurn
  split
  · exact (saveThread_keeps_bus _).bind fun _ => Effect.keeps_pure _ _
  · exact Effect.keeps_pure _ _
  · exact Effect.keeps_throw _ _

/-- **Creating a thread** writes a new thread under the id it takes, or nothing; the activities
stay as they were. -/
theorem createThread_memory {mode : Json} {w w' : LocalWorld} {r : Except Failure CreatedThread}
    (h : ((serviceWith b gen).createThread mode).run' w = (r, w')) :
    w'.memory.activities = w.memory.activities ∧ (w'.memory.threads = w.memory.threads ∨
      ∃ u, u.id = idText (w.ids + 1) ∧ w'.memory.threads = w.memory.threads.save u) := by
  unfold ThreadService.createThread at h
  rw [Effect.run'_bind, serviceWith_mintId, mintId_run'] at h
  dsimp only at h
  rw [Effect.run'_bind, Effect.run'_ofExcept] at h
  cases hmode : (Schema.at_ (.key "learning_mode") (LearningMode.check mode)).mapError
      Failure.invalid with
  | error e =>
    rw [hmode, Prod.mk.injEq] at h
    rw [← h.2]
    exact ⟨rfl, .inl rfl⟩
  | ok mode' =>
    rw [hmode] at h
    dsimp only at h
    rw [Effect.run'_bind, serviceWith_storage, saveThread_run'] at h
    dsimp only at h
    rw [Effect.run'_pure, Prod.mk.injEq] at h
    rw [← h.2]
    refine ⟨rfl, .inr ⟨_, ?_, rfl⟩⟩
    rfl

theorem createThread_keeps_bus (mode : Json) :
    ((serviceWith b gen).createThread mode).Keeps (·.bus) := by
  unfold ThreadService.createThread
  refine mintId_keeps_bus.bind fun i => ?_
  refine (Effect.keeps_ofExcept _ _).bind fun m => ?_
  exact (saveThread_keeps_bus _).bind fun _ => Effect.keeps_pure _ _

/-- Asking the dialogue model, when the turn needs it, gives a reply. -/
theorem askFor_ok {t : Thread} {message : Option String} {w w' : LocalWorld}
    {r : Except Failure ModelReply} (h : ((serviceWith b gen).askFor t message).run' w = (r, w')) :
    ∃ reply, r = .ok reply ∧ (reply = .text "" ∨ ∃ a, reply = (gen.complete a w).1) := by
  unfold ThreadService.askFor at h
  split at h
  · simp only [Effect.run'_modifyGet_effect, serviceWith_services, Prod.mk.injEq] at h
    exact ⟨_, h.1.symm, .inr ⟨_, rfl⟩⟩
  · simp only [Effect.run'_pure, Prod.mk.injEq] at h
    exact ⟨_, h.1.symm, .inl rfl⟩

/-- The outside services that keep a part of the world keep it when the dialogue model is
asked. -/
theorem askFor_keeps {τ : Type} {view : LocalWorld → τ} (hgen : gen.Keeps view) (t : Thread)
    (message : Option String) : ((serviceWith b gen).askFor t message).Keeps view := by
  unfold ThreadService.askFor
  split
  · intro w
    simpa [Effect.run'_modifyGet_effect] using hgen.complete _ w
  · exact Effect.keeps_pure _ _

/-! ### A generation's run

Every computation of a run keeps the size of the channels; the memory changes only where the
activity is saved or the thread marked. -/

theorem onBus_keeps_size {α : Type} {f : ProgressBus → Except Failure (α × ProgressBus)}
    (hf : ∀ bus a bus', f bus = .ok (a, bus') → bus'.size = bus.size) :
    ((serviceWith b gen).onBus f).Keeps (·.bus.size) := by
  intro w
  unfold ThreadService.onBus
  rw [Effect.run'_bind, Effect.run'_get]
  dsimp only
  split
  · next a bus' h =>
    simp only [Effect.run'_bind, Effect.run'_set, Effect.run'_pure]
    exact hf _ _ _ h
  · rfl

theorem announce_keeps_size (id : String) (e : ProgressEvent) :
    ((serviceWith b gen).announce id e).Keeps (·.bus.size) := by
  refine onBus_keeps_size fun bus a bus' h => ?_
  cases hp : bus.publish id e with
  | error e => simp [hp, Except.map] at h
  | ok bus'' =>
    simp only [hp, Except.map, Except.ok.injEq, Prod.mk.injEq] at h
    rw [← h.2]
    exact ProgressBus.publish_size hp

theorem announce_keeps_memory (id : String) (e : ProgressEvent) :
    ((serviceWith b gen).announce id e).Keeps (·.memory) :=
  Effect.keeps_of_run' fun _ _ _ h => onBus_memory h

theorem recordRun_keeps {τ : Type} (view : LocalWorld → τ) (id : String) (run : Nat) (ok : Bool)
    (n : Nat) (aid : Option String) (slot : Option Int) (err : Option String) :
    ((serviceWith b gen).recordRun id run ok n aid slot err).Keeps view :=
  Effect.keeps_of_run' fun _ _ _ h => by rw [recordRun_memory h]

/-- The services of a run keep the size of the channels when the outside services keep the
channels. -/
theorem runServices_keeps_size (hbus : gen.Keeps (·.bus)) (id : String) :
    ((serviceWith b gen).runServices id).Keeps (·.bus.size) where
  complete a w := congrArg ProgressBus.size (hbus.complete a w)
  judge lang files suite w := congrArg ProgressBus.size (hbus.judge lang files suite w)
  sleep d w := congrArg ProgressBus.size (hbus.sleep d w)
  publish e w := by
    simp only [ThreadService.runServices]
    split
    · next bus' hp => exact ProgressBus.publish_size hp
    · rfl

theorem startRun_keeps_size (id : String) :
    ((serviceWith b gen).onBus fun bus => bus.startRun id).Keeps (·.bus.size) :=
  onBus_keeps_size fun _ _ _ h => ProgressBus.startRun_size h

theorem markFailed_keeps_size (id reason : String) (slot : Option Int) :
    ((serviceWith b gen).markFailed id reason slot).Keeps (·.bus.size) := by
  unfold ThreadService.markFailed
  refine (getThread_keeps_bus id).bus_size.bind fun o => ?_
  cases o with
  | none => exact (Effect.keeps_pure _ _).bind fun _ => announce_keeps_size _ _
  | some t =>
    dsimp only
    split
    · exact (Effect.keeps_ofExcept _ _).bind fun _ =>
        (saveThread_keeps_bus _).bus_size.bind fun _ => announce_keeps_size _ _
    · exact announce_keeps_size _ _

theorem produce_keeps_size (hbus : gen.Keeps (·.bus)) (id : String) (t : Thread)
    (spec : ActivitySpec) (run : Nat) :
    ((serviceWith b gen).produce id t spec run).Keeps (·.bus.size) := by
  unfold ThreadService.produce
  refine (Effect.keeps_ofExcept _ _).bind fun slots => (announce_keeps_size _ _).bind fun _ => ?_
  refine Effect.Keeps.bind (fun w => ?_) fun states => ?_
  · obtain ⟨xs, hxs⟩ := Generation.run_trace ((serviceWith b gen).runServices id)
      ⟨(serviceWith b gen).backoff, t.learningMode.name⟩ spec slots w
    exact hxs.keeps (runServices_keeps_size hbus id)
  · exact (persistActivity_keeps_bus id states).bus_size.bind fun _ => Effect.keeps_pure _ _

theorem abandon_keeps_size (id : String) (spec : ActivitySpec) (run : Nat) (e : Failure) :
    ((serviceWith b gen).abandon id spec run e).Keeps (·.bus.size) := by
  unfold ThreadService.abandon
  exact (markFailed_keeps_size _ _ _).bind fun _ =>
    (recordRun_keeps _ _ _ _ _ _ _ _).bind fun _ => Effect.keeps_throw _ _

/-- A generation's run keeps the size of the channels. -/
theorem generate_keeps_size (hbus : gen.Keeps (·.bus)) (id : String) (t : Thread)
    (spec : ActivitySpec) : ((serviceWith b gen).generate id t spec).Keeps (·.bus.size) := by
  unfold ThreadService.generate
  refine (startRun_keeps_size id).bind fun run => ?_
  refine ((produce_keeps_size hbus id t spec run).tryCatch
    (abandon_keeps_size id spec run)).bind fun p => ?_
  exact (recordRun_keeps _ _ _ _ _ _ _ _).bind fun _ =>
    (announce_keeps_size _ _).bind fun _ => Effect.keeps_pure _ _

/-- Marking a GENERATING thread FAILED writes it FAILED, and touches nothing else of the
memory. -/
theorem markFailed_memory {id reason : String} {slot : Option Int} {w w' : LocalWorld}
    {r : Except Failure Unit} {t : Thread} (ht : w.memory.threads.get? id = some t)
    (hgen : t.state = .generating)
    (h : ((serviceWith b gen).markFailed id reason slot).run' w = (r, w')) :
    ∃ u, u.id = id ∧ u.state = .failed ∧ w'.memory.threads = w.memory.threads.save u ∧
      w'.memory.activities = w.memory.activities := by
  unfold ThreadService.markFailed at h
  rw [Effect.run'_bind, serviceWith_storage, getThread_run', ht] at h
  dsimp only at h
  have htf : t.transitionTo .failed = .ok { t with state := .failed } := by
    simp [Thread.transitionTo, hgen, ThreadState.next]
  rw [if_pos (by simp [hgen]), Effect.run'_bind, Effect.run'_ofExcept, htf] at h
  dsimp only at h
  rw [Effect.run'_bind, saveThread_run'] at h
  dsimp only at h
  refine ⟨{ t with state := .failed, lastError := some (shortError reason) }.stamp
    (Clock.reading (w.memory.clock + 1)), (ThreadStore.id_of_get? ht : t.id = id), rfl, ?_, ?_⟩
  · rw [onBus_memory h]
  · rw [onBus_memory h]

/-- Marking the thread FAILED, whatever runs after it that keeps the memory. -/
theorem markFailed_bind_memory {β : Type} {id reason : String} {slot : Option Int}
    {k : Unit → Effect LocalWorld β} (hk : ∀ a, (k a).Keeps (·.memory)) {w w' : LocalWorld}
    {r : Except Failure β} {t : Thread} (ht : w.memory.threads.get? id = some t)
    (hgen : t.state = .generating)
    (h : ((serviceWith b gen).markFailed id reason slot >>= k).run' w = (r, w')) :
    ∃ u, u.id = id ∧ u.state = .failed ∧ w'.memory.threads = w.memory.threads.save u ∧
      w'.memory.activities = w.memory.activities := by
  have hw' : w'.memory = (((serviceWith b gen).markFailed id reason slot).run' w).2.memory := by
    rw [← Effect.Keeps.run'_bind hk, h]
  rw [hw']
  exact markFailed_memory ht hgen rfl

/-- **Abandoning a run** whose thread is stored GENERATING marks it FAILED and touches nothing
else of the memory. -/
theorem abandon_memory {id : String} {spec : ActivitySpec} {run : Nat} {e : Failure}
    {w w' : LocalWorld} {r : Except Failure (String × Nat)} {t : Thread}
    (ht : w.memory.threads.get? id = some t) (hgen : t.state = .generating)
    (h : ((serviceWith b gen).abandon id spec run e).run' w = (r, w')) :
    ∃ u, u.id = id ∧ u.state = .failed ∧ w'.memory.threads = w.memory.threads.save u ∧
      w'.memory.activities = w.memory.activities := by
  unfold ThreadService.abandon at h
  exact markFailed_bind_memory
    (fun _ => (recordRun_keeps _ _ _ _ _ _ _ _).bind fun _ => Effect.keeps_throw _ _) ht hgen h

/-- **A run of the slots** that succeeds has saved the activity, as `Persisted` says; one that
fails leaves the memory as it was. -/
theorem produce_memory (hmem : gen.Keeps (·.memory)) {id : String} {t : Thread}
    {spec : ActivitySpec} {run : Nat} {w w' : LocalWorld} {r : Except Failure (String × Nat)}
    (h : ((serviceWith b gen).produce id t spec run).run' w = (r, w')) :
    (∃ aid n states, r = .ok (aid, n) ∧ w.memory.Persisted id states aid w'.memory) ∨
      (∃ e, r = .error e) ∧ w'.memory = w.memory := by
  unfold ThreadService.produce at h
  rw [Effect.run'_bind, Effect.run'_ofExcept] at h
  cases hp : planSlots spec with
  | error e =>
    rw [hp, Prod.mk.injEq] at h
    exact .inr ⟨⟨e, h.1.symm⟩, by rw [← h.2]⟩
  | ok slots =>
    rw [hp] at h
    dsimp only at h
    rw [Effect.run'_bind] at h
    rcases ha : ((serviceWith b gen).announce id
      (.generationStarted slots.length run)).run' w with ⟨_ | _, w₁⟩
    all_goals rw [ha] at h
    all_goals have hm₁ : w₁.memory = w.memory := onBus_memory ha
    case error e =>
      rw [Prod.mk.injEq] at h
      exact .inr ⟨⟨e, h.1.symm⟩, by rw [← h.2, hm₁]⟩
    dsimp only at h
    rw [Effect.run'_bind] at h
    rcases hrun : (Generation.run ((serviceWith b gen).runServices id)
      ⟨(serviceWith b gen).backoff, t.learningMode.name⟩ spec slots).run' w₁ with
      ⟨_ | states, w₂⟩
    all_goals rw [hrun] at h
    all_goals have hm₂ : w₂.memory = w.memory := (run_memory hmem hrun).trans hm₁
    case error e =>
      rw [Prod.mk.injEq] at h
      exact .inr ⟨⟨e, h.1.symm⟩, by rw [← h.2, hm₂]⟩
    dsimp only at h
    rw [Effect.run'_bind] at h
    have hsave := persistActivity_outcome b id states w₂
    rw [← serviceWith_storage b gen, ← serviceWith_mintId b gen] at hsave
    rcases hpa : ((serviceWith b gen).storage.persistActivity (serviceWith b gen).mintId id
      states).run' w₂ with ⟨_ | aid, w₃⟩
    all_goals rw [hpa] at h hsave
    all_goals dsimp only at h hsave
    case error e =>
      rw [Prod.mk.injEq] at h
      exact .inr ⟨⟨e, h.1.symm⟩, by rw [← h.2, hsave, hm₂]⟩
    rw [Effect.run'_pure, Prod.mk.injEq] at h
    refine .inl ⟨aid, states.length, states, h.1.symm, ?_⟩
    rw [← h.2, ← hm₂]
    exact hsave

/-- **A generation's run ends its thread**: started on channels whose size is not negative, for
a thread stored GENERATING, it saves the activity with the thread SAVED, or writes the thread
FAILED, whatever the models and the judge answer. -/
theorem generate_concludes (hmem : gen.Keeps (·.memory)) {id : String} {t₁ t : Thread}
    {spec : ActivitySpec} {w w' : LocalWorld} {r : Except Failure (String × Nat)}
    (hsize : 0 ≤ w.bus.size) (ht : w.memory.threads.get? id = some t)
    (hgen : t.state = .generating)
    (h : ((serviceWith b gen).generate id t₁ spec).run' w = (r, w')) :
    Memory.Concludes id w.memory w'.memory := by
  obtain ⟨run, bus, hstart⟩ := ProgressBus.startRun_of_size hsize id
  unfold ThreadService.generate at h
  rw [Effect.run'_bind, onBus_run'_ok hstart] at h
  dsimp only at h
  rw [Effect.run'_bind, Effect.run'_tryCatch] at h
  -- what runs after the run is over keeps the memory
  have hafter : ∀ made : String × Nat,
      ((serviceWith b gen).recordRun id run true made.2 (some made.1) none none >>=
      fun _ => (serviceWith b gen).announce id (.generationCompleted made.1 made.2) >>=
      fun _ => pure made).Keeps (·.memory) := fun _ =>
    (recordRun_keeps _ _ _ _ _ _ _ _).bind fun _ =>
      (announce_keeps_memory _ _).bind fun _ => Effect.keeps_pure _ _
  rcases hp : ((serviceWith b gen).produce id t₁ spec run).run' { w with bus := bus } with
    ⟨_ | ⟨aid, n⟩, w₂⟩
  case error e =>
    -- the run failed with the memory as it was, so the thread is still GENERATING
    obtain ⟨-, hm₂⟩ := (produce_memory hmem hp).resolve_left (by simp)
    rw [hp] at h
    dsimp only at h
    rcases ha : ((serviceWith b gen).abandon id spec run e).run' w₂ with ⟨r₃, w₃⟩
    rw [ha] at h
    have hw' : w'.memory = w₃.memory := by
      cases r₃ with
      | error e' =>
        dsimp only at h
        rw [Prod.mk.injEq] at h
        rw [h.2]
      | ok p => exact (hafter p).run' h
    obtain ⟨u, hu, hfail, hts, has⟩ := abandon_memory (by rw [hm₂]; exact ht) hgen ha
    refine .inr ⟨t, u, ht, hgen, hu, hfail, ?_, ?_⟩
    · rw [hw', hts, hm₂]
    · rw [hw', has, hm₂]
  case ok =>
    obtain ⟨aid', n', states, hr, hsaved⟩ := (produce_memory hmem hp).resolve_right (by simp)
    obtain ⟨rfl, rfl⟩ := Prod.mk.inj (Except.ok.inj hr)
    rw [hp] at h
    dsimp only at h
    rw [(hafter (aid, n)).run' h]
    exact .inl ⟨states, aid, hsaved⟩
end LocalWorld

end PracticeForge
