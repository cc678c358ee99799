import PracticeForge.Proofs.Generation.Delivered
import PracticeForge.Proofs.Activity.Persist
import PracticeForge.Proofs.Spec.Freeze

/-!
# Proofs/Service/Trigger — a generation that returns has stored the activity its spec asks for

`triggerGeneration` reads a READY thread, freezes its spec, lays the spec out as slots, saves the
thread as GENERATING, runs the slots, and saves the activity with the thread made SAVED.  Each of
these steps can stop the call, so a call that returns went through all of them
(`ThreadService.triggerGeneration_ok`).  In the local world the memory changes only at the two
saves: the progress channels, the telemetry and the outside services leave it as it was, the
latter so long as they do not write it (`Services.Keeps`).  So the activity stored under the
returned id is the thread's, with its opening message as its prompt, and its problems are the
ones the run delivered, in slot order (`LocalWorld.triggerGeneration_saved`).

The main result, `generation_delivers_plan`, reads that activity against the plan: one problem
per slot of the frozen spec's plan, in the plan's order, each with its slot's difficulty and
topic, the spec's language and style, its pedagogy in guided mode, and no reference material in
its stored form; the problems' ids are pairwise distinct.  It holds whatever the models and the
judge answer.  Such a generation exists: with the scripts used up, a generation returns as soon
as the model's standing reply keeps every slot's contract and the judge passes it
(`LocalWorld.triggerGeneration_succeeds`), as it does for a READY thread asking for one easy
problem on lists (`readyThread_delivers_plan`).
-/

namespace PracticeForge

/-! ## Services that keep a part of the world -/

namespace Generation

variable {σ τ : Type}

/-- Services that never write the part `view` of the world: a model's answer, a judge's
verdict, a pause and a progress event all leave it as it was. -/
structure Services.Keeps (svc : Services σ) (view : σ → τ) : Prop where
  complete : ∀ a w, view (svc.complete a w).2 = view w
  judge : ∀ lang files suite w, view (svc.judge lang files suite w).2 = view w
  sleep : ∀ d w, view (svc.sleep d w) = view w
  publish : ∀ e w, view (svc.publish e w) = view w

/-- A run through services that keep `view` ends where `view` started. -/
theorem Services.Trace.keeps {svc : Services σ} {view : σ → τ} (hk : svc.Keeps view)
    {w w' : σ} {xs : List Exchange} (h : svc.Trace w xs w') : view w' = view w := by
  induction h with
  | nil => rfl
  | @asked w w₁ _ a r _ ha _ ih =>
    have hstep : view w₁ = view w := by simpa [ha] using hk.complete a w
    exact ih.trans hstep
  | @judged w w₁ _ lang files suite r _ hj _ ih =>
    have hstep : view w₁ = view w := by simpa [hj] using hk.judge lang files suite w
    exact ih.trans hstep
  | @slept w _ d _ _ ih => exact ih.trans (hk.sleep d w)
  | @told w _ e _ _ ih => exact ih.trans (hk.publish e w)

end Generation

/-! ## What a run delivers, in slot order -/

theorem Problem.toJson_no_reference (p : Problem) :
    ∃ fs, p.toJson = .obj fs ∧ "reference_solution" ∉ fs.map Prod.fst ∧
      "reference_workspace" ∉ fs.map Prod.fst :=
  ⟨_, rfl, by simp, by simp⟩

/-- Each slot's finished state holds a problem; reading the problems off keeps them aligned with
the slots. -/
theorem forall₂_filterMap_problem {R : Slot → Problem → Prop} :
    ∀ {slots : List Slot} {states : List SlotState},
      List.Forall₂ (fun slot (s : SlotState) => ∃ p, s.problem = some p ∧ R slot p) slots states →
        List.Forall₂ R slots (states.filterMap (·.problem))
  | _, _, .nil => .nil
  | _, _, .cons ⟨_, hp, hr⟩ h => by
    rw [List.filterMap_cons, hp]
    exact .cons hr (forall₂_filterMap_problem h)

namespace Generation.Delivered

variable {mode : String} {slots : List Slot} {states : List SlotState}

/-- The delivered problems, one per slot, each fitting its slot and prepared for the mode. -/
theorem problems (hd : Delivered mode slots states) :
    List.Forall₂ (fun slot p => p.Fits slot ∧ p.PreparedFor mode) slots
      (states.filterMap (·.problem)) :=
  forall₂_filterMap_problem (hd.each.imp fun _ _ ⟨_, _, p, hp, hfit, hprep⟩ => ⟨p, hp, hfit, hprep⟩)

/-- Every delivered state is DONE with its problem, as the activity's save asks. -/
theorem done (hd : Delivered mode slots states) :
    ∀ s ∈ states, s.stage = .done ∧ s.problem.isSome := by
  intro s hs
  obtain ⟨_, -, -, hst, p, hp, -⟩ := forall₂_exists_of_mem hd.each hs
  exact ⟨hst, by rw [hp]; rfl⟩

/-- States delivered for slots numbered in order are in that order. -/
theorem sorted (hd : Delivered mode slots states)
    (hidx : slots.map (·.index) = (List.range slots.length).map Int.ofNat) :
    states.Pairwise fun a b => a.slot.index ≤ b.slot.index := by
  have hmap : slots.map (·.index) = states.map (·.slot.index) :=
    map_eq_map_of_forall₂ (fun _ _ h => by rw [h.1]) hd.each
  have hrange : ((List.range slots.length).map Int.ofNat).Pairwise (· ≤ ·) := by
    rw [List.pairwise_map]
    exact List.pairwise_le_range.imp Int.ofNat_le.2
  rw [← hidx, hmap, List.pairwise_map] at hrange
  exact hrange

end Generation.Delivered

/-! ## A generation that returns, step by step -/

namespace ThreadService

variable {σ : Type} {svc : ThreadService σ}

/-- **A generation that returns went through every step**, each from the world the one before
left: the thread read READY, its spec frozen and planned, the thread saved as GENERATING, the run
started and announced, the slots run, the activity saved, the run recorded and its end
announced. -/
theorem triggerGeneration_ok {id : String} {w w' : σ} {aid : String} {n : Nat}
    (h : (svc.triggerGeneration id).run' w = (.ok (aid, n), w')) :
    ∃ t S t₁ t₂ w₁ w₂ run w₃ slots w₄ states w₅ w₆,
      (svc.thread id).run' w = (.ok t, w₁) ∧ t.state = .ready ∧ t.spec.freeze = .ok S ∧
      t.transitionTo .generating = .ok t₁ ∧ (svc.storage.saveThread t₁).run' w₁ = (.ok t₂, w₂) ∧
      (svc.onBus fun b => b.startRun id).run' w₂ = (.ok run, w₃) ∧ planSlots S = .ok slots ∧
      (svc.announce id (.generationStarted slots.length run)).run' w₃ = (.ok (), w₄) ∧
      (Generation.run (svc.runServices id) ⟨svc.backoff, t₁.learningMode.name⟩ S slots).run' w₄ =
        (.ok states, w₅) ∧
      (svc.storage.persistActivity svc.mintId id states).run' w₅ = (.ok aid, w₆) ∧
      n = states.length ∧
      ∃ w₇, (svc.recordRun id run true n (some aid) none none).run' w₆ = (.ok (), w₇) ∧
        (svc.announce id (.generationCompleted aid n)).run' w₇ = (.ok (), w') := by
  unfold triggerGeneration at h
  obtain ⟨t, w₁, h₁, h⟩ := Effect.run'_bind_eq_ok h
  dsimp only at h
  split at h
  case isTrue => simp at h
  case isFalse hready =>
  split at h
  case h_2 => simp at h
  case h_1 S hS =>
  rw [Effect.run'_bind, Effect.run'_pure] at h
  dsimp only at h
  obtain ⟨t₁, _, htg, h⟩ := Effect.run'_bind_eq_ok h
  rw [Effect.run'_ofExcept, Prod.mk.injEq] at htg
  obtain ⟨htg, rfl⟩ := htg
  obtain ⟨t₂, w₂, h₂, h⟩ := Effect.run'_bind_eq_ok h
  obtain ⟨run, w₃, h₃, h⟩ := Effect.run'_bind_eq_ok h
  obtain ⟨⟨aid', n'⟩, wt, hbody, h⟩ := Effect.run'_bind_eq_ok h
  -- the handler always fails, so the run's own steps succeeded
  replace hbody := Effect.run'_tryCatch_eq_ok (fun e w₁ w₂ => by
    split
    all_goals exact Effect.run'_bind_ne_ok (fun _ _ _ => Effect.run'_bind_ne_ok
      (fun _ _ _ => Effect.run'_throw_ne_ok _ _ _ _) _ _) _ _) hbody
  obtain ⟨slots, _, hp, hbody⟩ := Effect.run'_bind_eq_ok hbody
  rw [Effect.run'_ofExcept, Prod.mk.injEq] at hp
  obtain ⟨hp, rfl⟩ := hp
  obtain ⟨_, w₄, h₄, hbody⟩ := Effect.run'_bind_eq_ok hbody
  obtain ⟨states, w₅, h₅, hbody⟩ := Effect.run'_bind_eq_ok hbody
  obtain ⟨aid'', w₆, h₆, hbody⟩ := Effect.run'_bind_eq_ok hbody
  simp only [Effect.run'_pure, Prod.mk.injEq, Except.ok.injEq] at hbody
  obtain ⟨⟨rfl, rfl⟩, rfl⟩ := hbody
  dsimp only at h
  obtain ⟨_, w₇, h₇, h⟩ := Effect.run'_bind_eq_ok h
  obtain ⟨_, w₈, h₈, h⟩ := Effect.run'_bind_eq_ok h
  simp only [Effect.run'_pure, Prod.mk.injEq, Except.ok.injEq] at h
  obtain ⟨⟨rfl, rfl⟩, rfl⟩ := h
  exact ⟨t, S, t₁, t₂, w₁, w₂, run, w₃, slots, w₄, states, w₅, w₆, h₁, by simpa using hready, hS,
    htg, h₂, h₃, hp, h₄, h₅, h₆, rfl, w₇, h₇, h₈⟩

/-- **A generation whose every step succeeds returns** the id of the saved activity and the
number of its problems: the converse of `triggerGeneration_ok`. -/
theorem triggerGeneration_returns {id : String} {w w' w₁ w₂ w₃ w₄ w₅ w₆ w₇ : σ}
    {t t₁ t₂ : Thread} {S : ActivitySpec} {run : Nat} {slots : List Slot}
    {states : List SlotState} {aid : String}
    (h₁ : (svc.thread id).run' w = (.ok t, w₁)) (hready : t.state = .ready)
    (hS : t.spec.freeze = .ok S) (htg : t.transitionTo .generating = .ok t₁)
    (h₂ : (svc.storage.saveThread t₁).run' w₁ = (.ok t₂, w₂))
    (h₃ : (svc.onBus fun b => b.startRun id).run' w₂ = (.ok run, w₃))
    (hp : planSlots S = .ok slots)
    (h₄ : (svc.announce id (.generationStarted slots.length run)).run' w₃ = (.ok (), w₄))
    (h₅ : (Generation.run (svc.runServices id) ⟨svc.backoff, t₁.learningMode.name⟩ S slots).run' w₄ =
      (.ok states, w₅))
    (h₆ : (svc.storage.persistActivity svc.mintId id states).run' w₅ = (.ok aid, w₆))
    (h₇ : (svc.recordRun id run true states.length (some aid) none none).run' w₆ = (.ok (), w₇))
    (h₈ : (svc.announce id (.generationCompleted aid states.length)).run' w₇ = (.ok (), w')) :
    (svc.triggerGeneration id).run' w = (.ok (aid, states.length), w') := by
  unfold triggerGeneration
  rw [Effect.run'_bind_of_ok h₁]
  dsimp only
  rw [if_neg (by simp [hready]), hS]
  simp only [Effect.run'_bind, Effect.run'_pure, Effect.run'_ofExcept, htg, h₂, h₃,
    Effect.run'_tryCatch, hp, h₄, h₅, h₆, h₇, h₈]

end ThreadService

/-! ## The progress channels keep their size, and take a run and its events while it is not
negative -/

namespace ProgressBus

theorem startRun_size {b b' : ProgressBus} {thread : String} {n : Nat}
    (h : b.startRun thread = .ok (n, b')) : b'.size = b.size := by
  unfold startRun at h
  split at h
  · cases h
  · simp only [pure, Except.pure, Except.ok.injEq, Prod.mk.injEq] at h
    rw [← h.2]

theorem publish_size {b b' : ProgressBus} {thread : String} {e : ProgressEvent}
    (h : b.publish thread e = .ok b') : b'.size = b.size := by
  unfold publish at h
  split at h
  · cases h
  · simp only [pure, Except.pure, Except.ok.injEq] at h
    rw [← h]
    split <;> rfl

/-- A run starts on a channel whose size is not negative. -/
theorem startRun_of_size {b : ProgressBus} (hb : 0 ≤ b.size) (thread : String) :
    ∃ n b', b.startRun thread = .ok (n, b') := by
  unfold startRun
  rw [if_neg (by omega)]
  exact ⟨_, _, rfl⟩

/-- An event is published on a channel whose size is not negative. -/
theorem publish_of_size {b : ProgressBus} (hb : 0 ≤ b.size) (thread : String) (e : ProgressEvent) :
    ∃ b', b.publish thread e = .ok b' := by
  unfold publish
  rw [if_neg (by simp; omega)]
  exact ⟨_, rfl⟩

end ProgressBus

/-! ## The local service, with any outside services -/

namespace LocalWorld

/-- The local service with the outside services `gen` (the models, the judge, the pauses) in
place of the scripted ones. -/
def serviceWith (b : Binary64) (gen : Generation.Services LocalWorld) : ThreadService LocalWorld :=
  { service b with services := gen }

variable (b : Binary64) (gen : Generation.Services LocalWorld)

@[simp] theorem serviceWith_storage : (serviceWith b gen).storage = (service b).storage := rfl

@[simp] theorem serviceWith_mintId : (serviceWith b gen).mintId = (service b).mintId := rfl

@[simp] theorem serviceWith_record (p : Telemetry.Fields) :
    (serviceWith b gen).record p = pure () := rfl

@[simp] theorem serviceWith_services : (serviceWith b gen).services = gen := rfl

@[simp] theorem serviceWith_bus (w : LocalWorld) : (serviceWith b gen).bus w = w.bus := rfl

@[simp] theorem serviceWith_setBus (w : LocalWorld) (bus : ProgressBus) :
    (serviceWith b gen).setBus w bus = { w with bus := bus } := rfl

/-- The scripted services only ever write the script. -/
theorem scripted_keeps_memory : (service b).services.Keeps (·.memory) where
  complete a w := by simp [service, Generation.Services.focus]
  judge lang files suite w := by simp [service, Generation.Services.focus]
  sleep d w := rfl
  publish e w := rfl

variable {b gen}

theorem onBus_run'_ok {α : Type} {f : ProgressBus → Except Failure (α × ProgressBus)}
    {w : LocalWorld} {a : α} {bus : ProgressBus} (h : f w.bus = .ok (a, bus)) :
    ((serviceWith b gen).onBus f).run' w = (.ok a, { w with bus := bus }) := by
  simp only [ThreadService.onBus, Effect.run'_bind, Effect.run'_get, serviceWith_bus, h,
    Effect.run'_set, Effect.run'_pure, serviceWith_setBus]

theorem onBus_run'_error {α : Type} {f : ProgressBus → Except Failure (α × ProgressBus)}
    {w : LocalWorld} {e : Failure} (h : f w.bus = .error e) :
    ((serviceWith b gen).onBus f).run' w = (.error e, w) := by
  simp only [ThreadService.onBus, Effect.run'_bind, Effect.run'_get, serviceWith_bus, h,
    Effect.run'_throw]

theorem thread_run' (id : String) (w : LocalWorld) :
    ((serviceWith b gen).thread id).run' w =
      ((w.memory.threads.get? id).elim (.error (.threadNotFound id)) .ok, w) := by
  unfold ThreadService.thread
  rw [Effect.run'_bind, serviceWith_storage, getThread_run']
  cases w.memory.threads.get? id <;> rfl

theorem thread_run'_eq_ok {id : String} {w w' : LocalWorld} {t : Thread}
    (h : ((serviceWith b gen).thread id).run' w = (.ok t, w')) :
    w' = w ∧ w.memory.threads.get? id = some t := by
  unfold ThreadService.thread at h
  rw [Effect.run'_bind, serviceWith_storage, getThread_run'] at h
  cases ht : w.memory.threads.get? id with
  | none => simp [ht] at h
  | some t' =>
    simp only [ht, Effect.run'_pure, Prod.mk.injEq, Except.ok.injEq] at h
    obtain ⟨rfl, rfl⟩ := h
    exact ⟨rfl, rfl⟩

/-- The progress channels are beside the memory: acting on them never writes it. -/
theorem onBus_memory {α : Type} {f : ProgressBus → Except Failure (α × ProgressBus)}
    {w w' : LocalWorld} {r : Except Failure α} (h : ((serviceWith b gen).onBus f).run' w = (r, w')) :
    w'.memory = w.memory := by
  unfold ThreadService.onBus at h
  rw [Effect.run'_bind, Effect.run'_get] at h
  dsimp only at h
  split at h
  · simp only [Effect.run'_bind, Effect.run'_set, Effect.run'_pure, Prod.mk.injEq] at h
    rw [← h.2]
    rfl
  · simp only [Effect.run'_throw, Prod.mk.injEq] at h
    rw [← h.2]

/-- Recording a run never fails and changes nothing. -/
theorem recordRun_run' {id : String} {run : Nat} {ok : Bool} {n : Nat} {aid : Option String}
    {slot : Option Int} {err : Option String} (w : LocalWorld) :
    ((serviceWith b gen).recordRun id run ok n aid slot err).run' w = (.ok (), w) := by
  unfold ThreadService.recordRun
  dsimp only
  split <;> simp only [serviceWith_record, Effect.run'_pure]

theorem recordRun_memory {id : String} {run : Nat} {ok : Bool} {n : Nat} {aid : Option String}
    {slot : Option Int} {err : Option String} {w w' : LocalWorld} {r : Except Failure Unit}
    (h : ((serviceWith b gen).recordRun id run ok n aid slot err).run' w = (r, w')) : w' = w := by
  rw [recordRun_run'] at h
  exact (Prod.mk.inj h).2.symm

/-- The services a run of the local service uses keep the memory when its outside services do:
the progress events go to the channels. -/
theorem runServices_keeps (hgen : gen.Keeps (·.memory)) (id : String) :
    ((serviceWith b gen).runServices id).Keeps (·.memory) where
  complete := hgen.complete
  judge := hgen.judge
  sleep := hgen.sleep
  publish e w := by
    simp only [ThreadService.runServices]
    split <;> rfl

theorem run_memory (hgen : gen.Keeps (·.memory)) {id : String} {cfg : Generation.RunConfig}
    {S : ActivitySpec} {slots : List Slot} {w w' : LocalWorld} {r : Except Failure (List SlotState)}
    (h : (Generation.run ((serviceWith b gen).runServices id) cfg S slots).run' w = (r, w')) :
    w'.memory = w.memory := by
  obtain ⟨xs, hxs⟩ := Generation.run_trace ((serviceWith b gen).runServices id) cfg S slots w
  rw [h] at hxs
  exact hxs.keeps (runServices_keeps hgen id)

/-- **What a generation that returns has saved.**  The thread was READY with a spec that
freezes and plans; the run delivered its slots; and the activity now stored under the returned
id is the thread's, with its opening message and the delivered problems in slot order. -/
theorem triggerGeneration_saved (hgen : gen.Keeps (·.memory)) {id : String} {w w' : LocalWorld}
    {aid : String} {n : Nat}
    (h : ((serviceWith b gen).triggerGeneration id).run' w = (.ok (aid, n), w')) :
    ∃ t S slots states a, w.memory.threads.get? id = some t ∧ t.state = .ready ∧
      t.spec.freeze = .ok S ∧ planSlots S = .ok slots ∧
      Generation.Delivered t.learningMode.name slots states ∧ n = states.length ∧
      w'.memory.activity? aid = some a ∧ a.threadId = some id ∧ a.prompt = t.opening ∧
      a.problems = inSlotOrder states := by
  obtain ⟨t, S, t₁, t₂, w₁, w₂, run, w₃, slots, w₄, states, w₅, w₆, h₁, hready, hS, htg, h₂, h₃,
    hplan, h₄, h₅, h₆, rfl, w₇, h₇, h₈⟩ := ThreadService.triggerGeneration_ok h
  obtain ⟨hw₁, ht⟩ := thread_run'_eq_ok h₁
  subst w₁
  obtain rfl : t₁ = { t with state := .generating } := Thread.transitionTo_ok htg
  rw [serviceWith_storage, saveThread_run', Prod.mk.injEq] at h₂
  obtain ⟨-, rfl⟩ := h₂
  -- between the two saves only the channels and the outside services act
  have hm₅ := (run_memory hgen h₅).trans ((onBus_memory h₄).trans (onBus_memory h₃))
  have hm' : w'.memory = w₆.memory := (onBus_memory h₈).trans (by rw [recordRun_memory h₇])
  rw [serviceWith_storage, serviceWith_mintId] at h₆
  obtain ⟨t', a, hget, hacts, -, -, haid, hthr, hprompt, hprobs, -⟩ := persistActivity_ok b h₆
  -- the thread the save found is the one saved as GENERATING
  have hid : ({ t with state := .generating }.stamp
      (Clock.reading (w.memory.clock + 1))).id = id := by
    have htid : t.id = id := ThreadStore.id_of_get? ht
    exact htid
  rw [hm₅] at hget
  dsimp only at hget
  rw [ThreadStore.get?_save, if_pos hid, Option.some.injEq] at hget
  subst hget
  refine ⟨t, S, slots, states, a, ht, by simpa using hready, hS, hplan,
    Generation.run_delivered _ _ _ _ w₄ (congrArg Prod.fst h₅), rfl, ?_, by rw [hthr, hid], ?_,
    hprobs⟩
  · simp [hm', Memory.activity?, hacts, haid]
  · rw [hprompt, Thread.opening_stamp]
    rfl

/-! ### A generation that returns

Read forwards, a generation of a READY thread returns when the scripted services, their scripts
used up, answer every slot's request with a draft that keeps the slot's contract and passes the
judge. -/

/-- The worlds in which the scripted services answer every model call with the text `raw` and
every judging with the verdict `v` (their scripts used up), on channels whose size is not
negative. -/
def Standing (raw : String) (v : Verdict) (w : LocalWorld) : Prop :=
  w.script.dialogue = [] ∧ w.script.generation = [] ∧ w.script.verdicts = [] ∧
    w.script.modelDefault = .text raw ∧ w.script.judgeDefault = .verdict v ∧ 0 ≤ w.bus.size

/-- A world is standing by its scripts and the size of its channels alone. -/
theorem Standing.of_eq {raw : String} {v : Verdict} {w w' : LocalWorld} (h : Standing raw v w)
    (hs : w'.script = w.script) (hb : w'.bus.size = w.bus.size) : Standing raw v w' := by
  unfold Standing
  rw [hs, hb]
  exact h

/-- The services of a run of the local service answer as the used-up scripts do, and keep the
world standing. -/
theorem runServices_answers {raw : String} {v : Verdict} (id : String) :
    ((serviceWith b (service b).services).runServices id).Answers (Standing raw v) raw v where
  complete a w h := by
    obtain ⟨hd, hg, -, hm, -⟩ := h
    simp only [ThreadService.runServices, serviceWith_services, service,
      Generation.Services.focus, Generation.Scripted.services, Generation.Scripted.complete,
      Generation.Scripted.next, hd, hg, hm]
    split <;> rfl
  complete_ready a w h := by
    obtain ⟨hd, hg, hv, hm, hj, hb⟩ := h
    simp only [ThreadService.runServices, serviceWith_services, service,
      Generation.Services.focus, Generation.Scripted.services, Generation.Scripted.complete,
      Generation.Scripted.next, hd, hg]
    split <;> exact ⟨rfl, rfl, hv, hm, hj, hb⟩
  judge lang files suite w h := by
    obtain ⟨-, -, hv, -, hj, -⟩ := h
    simp [ThreadService.runServices, service, Generation.Services.focus,
      Generation.Scripted.services, Generation.Scripted.judge, Generation.Scripted.next, hv, hj]
  judge_ready lang files suite w h := by
    obtain ⟨hd, hg, hv, hm, hj, hb⟩ := h
    simp only [ThreadService.runServices, serviceWith_services, service,
      Generation.Services.focus, Generation.Scripted.services, Generation.Scripted.judge,
      Generation.Scripted.next, hv]
    exact ⟨hd, hg, rfl, hm, hj, hb⟩
  sleep d w h := h
  publish e w h := by
    obtain ⟨hd, hg, hv, hm, hj, hb⟩ := h
    simp only [ThreadService.runServices, serviceWith_bus]
    split
    · next bus hp => exact ⟨hd, hg, hv, hm, hj, (ProgressBus.publish_size hp).symm ▸ hb⟩
    · exact ⟨hd, hg, hv, hm, hj, hb⟩

/-- An event is told on channels whose size is not negative, and they keep their size. -/
theorem announce_run' {id : String} {e : ProgressEvent} {w : LocalWorld} (hb : 0 ≤ w.bus.size) :
    ∃ bus, bus.size = w.bus.size ∧
      ((serviceWith b gen).announce id e).run' w = (.ok (), { w with bus := bus }) := by
  obtain ⟨bus, hp⟩ := ProgressBus.publish_of_size hb id e
  refine ⟨bus, ProgressBus.publish_size hp, onBus_run'_ok ?_⟩
  simp [hp, Except.map]

/-- **A generation of a READY thread returns** when the scripted services, their scripts used
up, answer every slot the thread's spec lays out with a draft that keeps the slot's contract,
is prepared for the thread's mode and passes the judge, on channels whose size is not negative,
and no activity is stored yet. -/
theorem triggerGeneration_succeeds {raw : String} {v : Verdict} (hv : v.success = true)
    (hto : v.timedOut = false) {id : String} {w : LocalWorld} {t : Thread} {S : ActivitySpec}
    {slots : List Slot} (ht : w.memory.threads.get? id = some t) (hready : t.state = .ready)
    (hS : t.spec.freeze = .ok S) (hplan : planSlots S = .ok slots)
    (hslots : ∀ slot ∈ slots, ∃ d p, Generation.readDraft slot raw = .ok (.ok d) ∧
      d.finalize t.learningMode.name = .ok p)
    (hw : Standing raw v w) (hnone : w.memory.activities = []) :
    ∃ aid n w', ((serviceWith b (service b).services).triggerGeneration id).run' w =
      (.ok (aid, n), w') := by
  -- the thread is read, moved to GENERATING and saved; the save writes the memory's threads
  have htg : t.transitionTo .generating = .ok { t with state := .generating } := by
    rw [Thread.transitionTo, if_pos (by rw [hready]; decide)]
    rfl
  have h₁ : ((serviceWith b (service b).services).thread id).run' w = (.ok t, w) := by
    rw [thread_run', ht]
    rfl
  have htid : t.id = id := ThreadStore.id_of_get? ht
  obtain ⟨t₂, w₂, h₂, hbus₂, hscript₂, hacts₂, now, hget₂⟩ : ∃ t₂ w₂,
      ((serviceWith b (service b).services).storage.saveThread
        { t with state := .generating }).run' w = (.ok t₂, w₂) ∧
      w₂.bus = w.bus ∧ w₂.script = w.script ∧ w₂.memory.activities = w.memory.activities ∧
      ∃ now, w₂.memory.threads.get? id = some ({ t with state := .generating }.stamp now) :=
    ⟨_, _, saveThread_run' b _ w, rfl, rfl, rfl, _,
      by rw [ThreadStore.get?_save]; exact if_pos htid⟩
  -- the run starts and is announced on the thread's channel
  obtain ⟨run, bus₃, hstart⟩ := ProgressBus.startRun_of_size hw.2.2.2.2.2 id
  have h₃ : ((serviceWith b (service b).services).onBus fun bus => bus.startRun id).run' w₂ =
      (.ok run, { w₂ with bus := bus₃ }) :=
    onBus_run'_ok (by rw [hbus₂]; exact hstart)
  obtain ⟨bus₄, hsize₄, h₄⟩ := @announce_run' b (service b).services id
    (.generationStarted slots.length run) { w₂ with bus := bus₃ }
    (by rw [ProgressBus.startRun_size hstart]; exact hw.2.2.2.2.2)
  -- every slot passes at its first draft, and the services leave the world standing
  have hw₄ : Standing raw v { w₂ with bus := bus₄ } :=
    hw.of_eq hscript₂ (hsize₄.trans (ProgressBus.startRun_size hstart))
  have hpass : ∀ slot ∈ slots, ∃ s : SlotState, s.stage = .done ∧ ∀ w, Standing raw v w →
      ∃ w', Standing raw v w' ∧ (Generation.runSlot ((serviceWith b (service b).services).runServices id)
        ⟨(serviceWith b (service b).services).backoff, t.learningMode.name⟩ S slot).run' w =
          (.ok s, w') := by
    intro slot hslot
    obtain ⟨d, p, hd, hp⟩ := hslots slot hslot
    exact ⟨_, rfl, fun w hw => Generation.runSlot_passes _ S (runServices_answers id) hv hto hd hp hw⟩
  obtain ⟨states, w₅, hw₅, h₅⟩ := Generation.run_passes hpass hw₄
  have hdel := Generation.run_delivered _ _ _ _ _ (congrArg Prod.fst h₅)
  -- the activity is saved: the thread is GENERATING in the memory the run has kept
  have hmem₅ : w₅.memory = w₂.memory :=
    run_memory (w := { w₂ with bus := bus₄ }) (scripted_keeps_memory b) h₅
  have hne : states ≠ [] := by
    rw [← List.length_pos_iff, ← hdel.each.length_eq, List.length_pos_iff]
    exact planSlots_ne_nil hplan
  have hfresh : w₅.memory.activity? (idText (w₅.ids + 1)) = none := by
    rw [Memory.activity?, hmem₅, hacts₂, hnone]
    rfl
  obtain ⟨m, h₆⟩ := persistActivity_succeeds b hne hdel.done (hmem₅ ▸ hget₂) rfl hfresh
  -- the run is recorded and its end announced
  have h₇ := @recordRun_run' b (service b).services id run true states.length
    (some (idText (w₅.ids + 1))) none none { w₅ with ids := w₅.ids + 1, memory := m }
  obtain ⟨bus₈, -, h₈⟩ := @announce_run' b (service b).services id
    (.generationCompleted (idText (w₅.ids + 1)) states.length)
    { w₅ with ids := w₅.ids + 1, memory := m } hw₅.2.2.2.2.2
  exact ⟨_, _, _, ThreadService.triggerGeneration_returns h₁ hready hS htg h₂ h₃ hplan h₄ h₅ h₆ h₇ h₈⟩

end LocalWorld

/-! ## A READY thread -/

namespace ThreadService

/-- One easy Python problem on lists, answered by a return value. -/
def listsSpec : ActivitySpec :=
  ⟨.python, 1, [⟨.easy, 1, by decide⟩], ["lists"], .returned, "Python 3.11", none, by decide,
    by decide, List.cons_ne_nil _ _, List.cons_ne_nil _ _⟩

/-- The thread `t1`, READY with that spec. -/
def readyThread : Thread :=
  { Thread.greeted "t1" .practice with state := .ready, spec := listsSpec.toDraft }

/-- A world holding only that thread, on channels of the given size, with nothing scripted. -/
def readyWorld (size : Int) : LocalWorld :=
  ⟨⟨⟨[readyThread]⟩, [], 0⟩, ProgressBus.empty size, 0,
    Generation.Scripted.start [] [] [] Generation.Scripted.noReply Generation.Scripted.passing⟩

theorem readyThread_freeze : readyThread.spec.freeze = .ok listsSpec :=
  listsSpec.check_toJson (by decide) fun c hc => by
    simpa using List.all_eq_true.1
      (by decide : ("Python 3.11".toList.all fun c => !Text.isStandIn c) = true) c hc

/-- That world with the model answering every request with `Generation.passingDraft`. -/
def draftingWorld : LocalWorld :=
  { readyWorld 8 with
    script := Generation.Scripted.start [] [] [] (.text Generation.passingDraft)
      Generation.Scripted.passing }

theorem listsSpec_plan : planSlots listsSpec = .ok [⟨0, .easy, "lists", .python, .returned⟩] :=
  rfl

/-- The generation of `t1` returns in that world: its one slot passes at the first draft. -/
theorem draftingWorld_generates : ∃ aid n w', ((LocalWorld.serviceWith (Binary64.zero false)
    (LocalWorld.service (Binary64.zero false)).services).triggerGeneration "t1").run'
      draftingWorld = (.ok (aid, n), w') := by
  refine LocalWorld.triggerGeneration_succeeds rfl rfl rfl rfl readyThread_freeze listsSpec_plan
    ?_ ⟨rfl, rfl, rfl, rfl, rfl, by decide⟩ rfl
  intro slot hslot
  rw [List.mem_singleton.1 hslot]
  exact Generation.passingDraft_reads 0

end ThreadService

/-! ## The activity of a generation -/

/-- **A generation that returns has stored the activity its spec asks for**, whatever the
models and the judge answer, so long as they do not write the memory.  The thread was READY and
its spec `S` freezes and plans into `slots`; the returned count is `S`'s problem count; the
activity stored under the returned id belongs to the thread, has its opening message as its
prompt, and holds one problem per slot, in the plan's order, each with its slot's difficulty and
topic, `S`'s language and style, its pedagogy in guided mode, and no reference material in its
stored form; the problems' ids are pairwise distinct. -/
theorem generation_delivers_plan (b : Binary64) (gen : Generation.Services LocalWorld)
    (hgen : gen.Keeps (·.memory)) (id : String) (w : LocalWorld) :
    match ((LocalWorld.serviceWith b gen).triggerGeneration id).run' w with
    | (.ok (aid, n), w') => ∃ t S slots a,
        w.memory.threads.get? id = some t ∧ t.state = .ready ∧ t.spec.freeze = .ok S ∧
        planSlots S = .ok slots ∧ n = S.problemCount ∧
        w'.memory.activity? aid = some a ∧ a.threadId = some id ∧ a.prompt = t.opening ∧
        a.problems.length = n ∧ (a.problems.map (·.id)).Nodup ∧
        List.Forall₂ (fun (slot : Slot) (p : Problem) =>
          p.difficulty = slot.difficulty ∧ p.topicTag = slot.topic ∧
          p.language = S.language ∧ p.problemStyle = S.problemStyle ∧
          (t.learningMode = .guided → p.pedagogy.isSome) ∧
          ∃ fs, p.toJson = .obj fs ∧ "reference_solution" ∉ fs.map Prod.fst ∧
            "reference_workspace" ∉ fs.map Prod.fst) slots a.problems
    | (.error _, _) => True := by
  rcases hrun : ((LocalWorld.serviceWith b gen).triggerGeneration id).run' w with
    ⟨_ | ⟨aid, n⟩, w'⟩
  · trivial
  obtain ⟨t, S, slots, states, a, ht, hready, hS, hplan, hdel, rfl, hact, hthr, hprompt, hprobs⟩ :=
    LocalWorld.triggerGeneration_saved hgen hrun
  obtain ⟨hlen, hidx, hspec⟩ := planSlots_ok hplan
  rw [inSlotOrder_of_sorted (hdel.sorted hidx)] at hprobs
  have hfit := hdel.problems
  rw [← hprobs] at hfit
  refine ⟨t, S, slots, a, ht, hready, hS, hplan, ?_, hact, hthr, hprompt, ?_, ?_, ?_⟩
  · rw [← hlen, hdel.each.length_eq]
  · rw [← hfit.length_eq, hdel.each.length_eq]
  · rw [hprobs]
    exact hdel.distinct
  · refine ((List.forall₂_and_left _ _).2 ⟨hspec, hfit⟩).imp ?_
    rintro slot p ⟨⟨hl, hst⟩, hf, hprep⟩
    exact ⟨hf.difficulty, hf.topic, hf.language.trans hl, hf.style.trans hst,
      fun hg => hprep (by rw [hg]; rfl), p.toJson_no_reference⟩

/-- The generation of the READY thread `t1`, whose one slot the scripted model drafts and the
judge passes, returns and stores the one problem its spec asks for. -/
theorem readyThread_delivers_plan :
    (LocalWorld.service (Binary64.zero false)).services.Keeps (·.memory) ∧
    ∃ aid n w', ((LocalWorld.serviceWith (Binary64.zero false)
        (LocalWorld.service (Binary64.zero false)).services).triggerGeneration "t1").run'
        ThreadService.draftingWorld = (.ok (aid, n), w') ∧ ∃ t S slots a,
      ThreadService.draftingWorld.memory.threads.get? "t1" = some t ∧ t.state = .ready ∧
      t.spec.freeze = .ok S ∧ planSlots S = .ok slots ∧ n = S.problemCount ∧
      w'.memory.activity? aid = some a ∧ a.threadId = some "t1" ∧ a.prompt = t.opening ∧
      a.problems.length = n ∧ (a.problems.map (·.id)).Nodup ∧
      List.Forall₂ (fun (slot : Slot) (p : Problem) =>
        p.difficulty = slot.difficulty ∧ p.topicTag = slot.topic ∧
        p.language = S.language ∧ p.problemStyle = S.problemStyle ∧
        (t.learningMode = .guided → p.pedagogy.isSome) ∧
        ∃ fs, p.toJson = .obj fs ∧ "reference_solution" ∉ fs.map Prod.fst ∧
          "reference_workspace" ∉ fs.map Prod.fst) slots a.problems := by
  obtain ⟨aid, n, w', hrun⟩ := ThreadService.draftingWorld_generates
  -- the world stays opaque, so that only the run's result is read off
  generalize ThreadService.draftingWorld = w at hrun ⊢
  have hsaved := generation_delivers_plan (Binary64.zero false)
    (LocalWorld.service (Binary64.zero false)).services
    (LocalWorld.scripted_keeps_memory (Binary64.zero false)) "t1" w
  rw [hrun] at hsaved
  exact ⟨LocalWorld.scripted_keeps_memory _, aid, n, w', hrun, hsaved⟩

end PracticeForge
