import PracticeForge.Proofs.Effect
import PracticeForge.Service.Local

/-!
# Proofs/Activity/Persist — saving a finished run in memory is all or nothing

`persistActivity` checks all it needs before it writes: at least one slot, every slot DONE with
its problem, the thread there and allowed to become SAVED; the in-memory storage then refuses
an id it already holds, and otherwise writes the activity and the thread in one step.  So saving
in memory either adds exactly one activity under the new id, with the slots' problems in slot
order and the thread's opening message as its prompt, and makes the thread SAVED with that id,
or it fails and leaves the memory as it was (`persistActivity_outcome`).

The calls of the storage of a local world are run one equation each (`LocalWorld.getThread_run'`
and the others), so the proofs never open the storage itself.
-/

namespace PracticeForge

theorem Effect.run'_focus {σ τ α : Type} (view : τ → σ) (update : τ → σ → τ) (e : Effect σ α)
    (t : τ) : (e.focus view update).run' t = ((e.run' (view t)).1, update t (e.run' (view t)).2) :=
  rfl

/-! ## Threads and activities in memory -/

namespace ThreadStore

/-- Reading a thread back after a save: the saved thread under its own id, the others as
before. -/
theorem get?_save (s : ThreadStore) (t : Thread) (id : String) :
    (s.save t).get? id = if t.id = id then some t else s.get? id := by
  unfold get? save
  rw [List.find?_cons]
  by_cases h : t.id = id
  · simp [h]
  · have hb : (t.id == id) = false := by simpa using h
    simp only [hb, h, if_false, List.find?_filter]
    congr 1
    funext u
    by_cases hu : u.id = id
    · simp [hu, Ne.symm h]
    · simp [hu]

theorem id_of_get? {s : ThreadStore} {id : String} {t : Thread} (h : s.get? id = some t) :
    t.id = id := by
  simpa using List.find?_some h

end ThreadStore

/-- The learner's first message in a thread, which an activity keeps as its prompt. -/
def Thread.opening (t : Thread) : String :=
  ((t.messages.find? (·.role == .user)).map (·.content)).getD ""

/-- Stamping a thread keeps its messages' roles and texts, hence its opening message. -/
@[simp] theorem Thread.opening_stamp (t : Thread) (now : String) :
    (t.stamp now).opening = t.opening := by
  have hrole : ∀ m : Message,
      (if m.createdAt == "" then { m with createdAt := now } else m).role = m.role := by
    intro m
    split <;> rfl
  have hcontent : ∀ m : Message,
      (if m.createdAt == "" then { m with createdAt := now } else m).content = m.content := by
    intro m
    split <;> rfl
  simp only [Thread.opening, Thread.stamp, List.find?_map, Option.map_map, Function.comp_def,
    hrole, hcontent]

/-- A move the graph allows changes the state and nothing else. -/
theorem Thread.transitionTo_ok {t t' : Thread} {s : ThreadState} (h : t.transitionTo s = .ok t') :
    t' = { t with state := s } := by
  unfold Thread.transitionTo at h
  split at h
  case isTrue => exact (Except.ok.inj h).symm
  case isFalse => cases h

/-- The only way into SAVED is from GENERATING, and it changes nothing else. -/
theorem Thread.transitionTo_saved {t t' : Thread} (h : t.transitionTo .saved = .ok t') :
    t.state = .generating ∧ t' = { t with state := .saved } := by
  unfold Thread.transitionTo at h
  split at h
  case isTrue =>
    refine ⟨?_, (Except.ok.inj h).symm⟩
    cases hst : t.state <;> simp_all [ThreadState.next]
  case isFalse => cases h

/-- The problems of finished slots, in the order of the slots' indices. -/
def inSlotOrder (states : List SlotState) : List Problem :=
  (states.mergeSort fun a b => decide (a.slot.index ≤ b.slot.index)).filterMap (·.problem)

/-- States already in slot order keep their order. -/
theorem inSlotOrder_of_sorted {states : List SlotState}
    (h : states.Pairwise fun a b => a.slot.index ≤ b.slot.index) :
    inSlotOrder states = states.filterMap (·.problem) := by
  unfold inSlotOrder
  rw [List.mergeSort_of_pairwise (by simpa using h)]

/-! ## The storage of a local world, one call at a time -/

namespace LocalWorld

variable (b : Binary64)

@[simp] theorem getThread_run' (id : String) (w : LocalWorld) :
    ((service b).storage.getThread id).run' w = (.ok (w.memory.threads.get? id), w) := rfl

@[simp] theorem mintId_run' (w : LocalWorld) :
    (service b).mintId.run' w = (.ok (idText (w.ids + 1)), { w with ids := w.ids + 1 }) := rfl

theorem saveThread_run' (t : Thread) (w : LocalWorld) :
    ((service b).storage.saveThread t).run' w =
      (.ok (t.stamp (Clock.reading (w.memory.clock + 1))), { w with memory := { w.memory with
        clock := w.memory.clock + 1,
        threads := w.memory.threads.save (t.stamp (Clock.reading (w.memory.clock + 1))) } }) :=
  rfl

/-- Creating an activity with its thread: refused for an id already held, else both written in
one step, the activity first among the activities. -/
theorem commitGeneration_run' (a : Activity) (t : Thread) (w : LocalWorld) :
    ((service b).storage.commitGeneration a t).run' w =
      if (w.memory.activity? a.id).isSome then
        (.error (.persistenceInvariant ("activity " ++ a.id ++ " already exists")), w)
      else (.ok (), { w with memory := { w.memory with
        clock := w.memory.clock + 2,
        activities := (if a.createdAt == "" then
            { a with createdAt := Clock.reading (w.memory.clock + 1) } else a) ::
          w.memory.activities,
        threads := w.memory.threads.save (t.stamp (Clock.reading (w.memory.clock + 2))) } }) := by
  split
  case isTrue h =>
    simp only [service, Storage.focus, Effect.run'_focus, Memory.storage, Effect.run'_bind,
      Effect.run'_get, h, if_true]
    rfl
  case isFalse h =>
    simp only [service, Storage.focus, Effect.run'_focus, Memory.storage, Effect.run'_bind,
      Effect.run'_get, h]
    rfl

end LocalWorld

/-! ## Saving, all or nothing -/

/-- What saving the finished slots `states` of the thread `tid` under the id `aid` made of the
memory `m`: one activity more, first among them, under the new id, for the thread, with the
thread's opening message as its prompt and the slots' problems in slot order; and the thread,
GENERATING before, SAVED with the new id. -/
def Memory.Persisted (tid : String) (states : List SlotState) (aid : String) (m m' : Memory) :
    Prop :=
  ∃ t a, m.threads.get? tid = some t ∧ m'.activities = a :: m.activities ∧
    t.state = .generating ∧ m.activity? aid = none ∧
    a.id = aid ∧ a.threadId = some t.id ∧ a.prompt = t.opening ∧ a.problems = inSlotOrder states ∧
    ∃ now, m'.threads = m.threads.save
      ({ t with state := .saved, activityId := some aid, lastError := none }.stamp now)

namespace LocalWorld

variable (b : Binary64)

/-- **Saving in memory, all or nothing**: a save that succeeds adds the one activity and makes
the thread SAVED, as `Persisted` says; one that fails leaves the memory as it was. -/
theorem persistActivity_outcome (tid : String) (states : List SlotState) (w : LocalWorld) :
    match ((service b).storage.persistActivity (service b).mintId tid states).run' w with
    | (.ok aid, w') => w.memory.Persisted tid states aid w'.memory
    | (.error _, w') => w'.memory = w.memory := by
  unfold Storage.persistActivity
  dsimp only
  -- the checks before any write: slots, their stages, the thread
  by_cases hempty : states.isEmpty = true
  · rw [if_pos hempty, Effect.run'_bind, Effect.run'_throw]
  rw [if_neg hempty]
  by_cases hdone : (!(states.filter fun s => s.stage != .done || s.problem.isNone).isEmpty) = true
  · rw [if_pos hdone, Effect.run'_bind, Effect.run'_throw]
  rw [if_neg hdone, Effect.run'_bind, getThread_run']
  cases ht : w.memory.threads.get? tid with
  | none => simp only [Effect.run'_bind, Effect.run'_throw]
  | some t =>
    simp only [Effect.run'_bind, Effect.run'_pure, mintId_run', Effect.run'_ofExcept]
    cases htr : t.transitionTo .saved with
    | error e => rfl
    | ok t' =>
      obtain ⟨hgen, rfl⟩ := Thread.transitionTo_saved htr
      dsimp only
      rw [commitGeneration_run']
      -- the one write: refused for an id already held
      by_cases hex : (w.memory.activity? (idText (w.ids + 1))).isSome = true
      · rw [if_pos hex]
      · rw [if_neg hex]
        exact ⟨t, _, ht, rfl, hgen, by simpa using hex, rfl, rfl, rfl, rfl,
          Clock.reading (w.memory.clock + 2), rfl⟩

theorem persistActivity_ok {tid : String} {states : List SlotState} {w w' : LocalWorld}
    {aid : String}
    (h : ((service b).storage.persistActivity (service b).mintId tid states).run' w =
      (.ok aid, w')) :
    w.memory.Persisted tid states aid w'.memory := by
  have ho := persistActivity_outcome b tid states w
  rw [h] at ho
  exact ho

/-- **Saving succeeds** when there is a slot, every slot is DONE with its problem, the thread is
stored GENERATING and the next id names no activity yet: it gives that id, and it takes the id
and writes the memory, nothing else. -/
theorem persistActivity_succeeds {tid : String} {states : List SlotState} {w : LocalWorld}
    {t : Thread} (hne : states ≠ []) (hdone : ∀ s ∈ states, s.stage = .done ∧ s.problem.isSome)
    (ht : w.memory.threads.get? tid = some t) (hgen : t.state = .generating)
    (hfresh : w.memory.activity? (idText (w.ids + 1)) = none) :
    ∃ m, ((service b).storage.persistActivity (service b).mintId tid states).run' w =
      (.ok (idText (w.ids + 1)), { w with ids := w.ids + 1, memory := m }) := by
  have hempty : ¬ states.isEmpty = true := by simpa using hne
  have hall : ¬ (!(states.filter fun s => s.stage != .done || s.problem.isNone).isEmpty) = true := by
    simp only [Bool.not_eq_true', Bool.not_eq_false, List.isEmpty_iff, List.filter_eq_nil_iff]
    intro s hs
    simp [(hdone s hs).1, Option.isSome_iff_ne_none.1 (hdone s hs).2]
  have hsaved : t.transitionTo .saved = .ok { t with state := .saved } := by
    rw [Thread.transitionTo, if_pos (by rw [hgen]; decide)]
    rfl
  unfold Storage.persistActivity
  dsimp only
  rw [if_neg hempty, if_neg hall, Effect.run'_bind, getThread_run']
  simp only [ht, Effect.run'_bind, Effect.run'_pure, mintId_run', Effect.run'_ofExcept, hsaved]
  rw [commitGeneration_run', if_neg (by simp [hfresh])]
  exact ⟨_, rfl⟩

end LocalWorld

end PracticeForge
