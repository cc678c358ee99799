import PracticeForge.Proofs.Service.Lifecycle

/-!
# Proofs/Service/Served — the lifecycle of threads among requests side by side

The service answers requests on one event loop: a chat turn and a generation each read their
thread, await, and later save a copy of it, and the requests in flight interleave at those
awaits (`ThreadService.Move`).  A run of the loop keeps the lifecycle of threads
(`ThreadService.KeepsLifecycle`) when after every move each stored thread stays stored and moves
only along the graph of states (`Follows`), every activity belongs to the SAVED thread that names
it and no two share an id (`Memory.Owned`), and every generation that saved its thread as
GENERATING and has ended left it SAVED or FAILED (`ThreadService.Concluded`).

What a move may do to the memory is said once: a write of one thread that the thread stored
under its id allows (`Memory.Writes`), or the end of a generation (`Memory.Concludes`).  The
invariant `ThreadService.Inv` adds what the requests in flight hold: the thread of a running
generation is stored GENERATING, at most one generation of a thread runs, and the channels'
size is not negative.

Main statements:
* `ThreadService.lifecycle_kept` — when every save of a copy read earlier finds that copy still
  stored, the lifecycle is kept along every run, whatever the models and the judge answer.
* `ThreadService.chat_over_generation` — when a save writes its copy back whatever was saved in
  between, as the event loop lets it, a chat turn that read a READY thread before a generation
  saved it as GENERATING writes it back to a chat state (`ThreadService.keepTurn_over_generating`
  says so of every such save).
* `ThreadService.negative_buffer_strands` — on channels of negative size a generation saves its
  thread as GENERATING and fails before anything would mark it FAILED.
-/

namespace PracticeForge

/-! ## What a move may do to the memory -/

/-- The thread stored under an id after a move follows the one stored before: a stored thread
stays stored, in its state or in one the graph of states allows after it. -/
def Follows (before after : Option Thread) : Prop :=
  ∀ t, before = some t → ∃ t', after = some t' ∧ (t'.state = t.state ∨ t'.state ∈ t.state.next)

/-- A thread that moves from a state that takes messages to CLARIFYING or READY follows it. -/
theorem ThreadState.follows_talk {s s' : ThreadState} (hs : s.isChat = true)
    (hs' : s' = .clarifying ∨ s' = .ready) : s' = s ∨ s' ∈ s.next := by
  cases s <;> rcases hs' with rfl | rfl <;> simp_all [ThreadState.isChat, ThreadState.next]

/-- The store holds the SAVED thread that the activity `a` names, and that thread's activity is
`a`. -/
def ThreadStore.Owns (s : ThreadStore) (a : Activity) : Prop :=
  ∃ i t, a.threadId = some i ∧ s.get? i = some t ∧ t.state = .saved ∧ t.activityId = some a.id

/-- An activity's owner stays its owner through a save of a thread that was not SAVED. -/
theorem ThreadStore.Owns.save {s : ThreadStore} {a : Activity} (h : s.Owns a) {u : Thread}
    (hu : ∀ t, s.get? u.id = some t → t.state ≠ .saved) : (s.save u).Owns a := by
  obtain ⟨i, t, hi, ht, hsaved, hid⟩ := h
  -- the owner is SAVED, so it is not the thread written
  have hne : u.id ≠ i := by
    rintro rfl
    exact hu t ht hsaved
  exact ⟨i, t, hi, by rw [ThreadStore.get?_save, if_neg hne, ht], hsaved, hid⟩

namespace Memory

/-- Every activity belongs to a SAVED thread whose activity it is, and no two activities share an
id. -/
def Owned (m : Memory) : Prop :=
  (∀ a ∈ m.activities, m.threads.Owns a) ∧ (m.activities.map (·.id)).Nodup

/-- **No second activity for a thread**: two owned activities of one thread are one. -/
theorem Owned.unique {m : Memory} (h : m.Owned) {a a' : Activity} (ha : a ∈ m.activities)
    (ha' : a' ∈ m.activities) (hthread : a.threadId = a'.threadId) : a = a' := by
  obtain ⟨i, t, hi, ht, -, hid⟩ := h.1 a ha
  obtain ⟨i', t', hi', ht', -, hid'⟩ := h.1 a' ha'
  have hii : i = i' := Option.some.inj (hi.symm.trans (hthread.trans hi'))
  subst hii
  obtain rfl : t = t' := Option.some.inj (ht.symm.trans ht')
  exact List.inj_on_of_nodup_map h.2 ha ha' (Option.some.inj (hid.symm.trans hid'))

/-- The thread `u` may be written over what the memory holds under its id: nothing, or a thread
that takes messages and that `u` follows in the graph of states. -/
def Writable (m : Memory) (u : Thread) : Prop :=
  ∀ t, m.threads.get? u.id = some t → t.state.isChat = true ∧
    (u.state = t.state ∨ u.state ∈ t.state.next)

/-- What a move other than the end of a generation may do to the memory: the activities stay,
and the threads stay or take one write that `Writable` allows. -/
def Writes (m m' : Memory) : Prop :=
  m'.activities = m.activities ∧
    (m'.threads = m.threads ∨ ∃ u, m.Writable u ∧ m'.threads = m.threads.save u)

theorem Writes.of_eq {m m' : Memory} (h : m' = m) : m.Writes m' := by
  subst h
  exact ⟨rfl, .inl rfl⟩

variable {m m' : Memory}

/-- A write allowed over chat states leaves every thread that is past chatting where it was. -/
theorem get?_write {u t : Thread} {id : String} (hu : m.Writable u)
    (ht : m.threads.get? id = some t) (hchat : t.state.isChat = false) :
    (m.threads.save u).get? id = some t := by
  rw [ThreadStore.get?_save, if_neg, ht]
  rintro rfl
  rw [(hu t ht).1] at hchat
  cases hchat

/-- A thread past chatting stays where it was through every write a move may make. -/
theorem Writes.get?_past {t : Thread} {id : String} (h : m.Writes m')
    (ht : m.threads.get? id = some t) (hchat : t.state.isChat = false) :
    m'.threads.get? id = some t := by
  rcases h.2 with hts | ⟨u, hu, hts⟩
  · rw [hts, ht]
  · rw [hts, get?_write hu ht hchat]

theorem Writes.follows (h : m.Writes m') (id : String) :
    Follows (m.threads.get? id) (m'.threads.get? id) := by
  intro t ht
  rcases h.2 with hts | ⟨u, hu, hts⟩
  · exact ⟨t, by rw [hts, ht], .inl rfl⟩
  · rw [hts, ThreadStore.get?_save]
    by_cases hid : u.id = id
    · subst hid
      exact ⟨u, if_pos rfl, (hu t ht).2⟩
    · exact ⟨t, by rw [if_neg hid, ht], .inl rfl⟩

/-- Ownership survives a save of a thread over one that is not SAVED. -/
theorem Owned.save (ho : m.Owned) {u : Thread} (hts : m'.threads = m.threads.save u)
    (hacts : m'.activities = m.activities)
    (hu : ∀ t, m.threads.get? u.id = some t → t.state ≠ .saved) : m'.Owned := by
  refine ⟨fun a ha => ?_, by rw [hacts]; exact ho.2⟩
  rw [hts]
  exact (ho.1 a (hacts ▸ ha)).save hu

theorem Writes.owned (h : m.Writes m') (ho : m.Owned) : m'.Owned := by
  rcases h.2 with hts | ⟨u, hu, hts⟩
  · exact ⟨fun a ha => by rw [hts]; exact ho.1 a (h.1 ▸ ha), by rw [h.1]; exact ho.2⟩
  · refine ho.save hts h.1 fun t ht hsaved => ?_
    have := (hu t ht).1
    simp [hsaved, ThreadState.isChat] at this

/-- The end of a generation writes its thread once, SAVED or FAILED over GENERATING. -/
theorem Concludes.threads {id : String} (h : m.Concludes id m') :
    ∃ t u, m.threads.get? id = some t ∧ t.state = .generating ∧ u.id = id ∧
      (u.state = .saved ∨ u.state = .failed) ∧ m'.threads = m.threads.save u := by
  rcases h with ⟨states, aid, t, a, ht, -, hgen, -, -, -, -, -, now, hts⟩ |
    ⟨t, u, ht, hgen, hu, hfail, hts, -⟩
  · exact ⟨t, { t with state := .saved, activityId := some aid, lastError := none }.stamp now, ht,
      hgen, (ThreadStore.id_of_get? ht : t.id = id), .inl rfl, hts⟩
  · exact ⟨t, u, ht, hgen, hu, .inr hfail, hts⟩

theorem Concludes.follows {id : String} (h : m.Concludes id m') (i : String) :
    Follows (m.threads.get? i) (m'.threads.get? i) := by
  obtain ⟨t, u, ht, hgen, hu, hend, hts⟩ := h.threads
  intro t' ht'
  rw [hts, ThreadStore.get?_save]
  by_cases hid : u.id = i
  · -- the generation's own thread: GENERATING, now SAVED or FAILED
    subst hid
    rw [hu, ht, Option.some.injEq] at ht'
    subst ht'
    refine ⟨u, if_pos rfl, .inr ?_⟩
    rw [hgen]
    rcases hend with h | h <;> simp [h, ThreadState.next]
  · exact ⟨t', by rw [if_neg hid, ht'], .inl rfl⟩

/-- An id that no activity holds is not among the activities' ids. -/
theorem id_not_mem_of_activity? {aid : String} (h : m.activity? aid = none) :
    aid ∉ m.activities.map (·.id) := by
  intro hmem
  obtain ⟨a, ha, rfl⟩ := List.mem_map.1 hmem
  have := List.find?_eq_none.1 h a ha
  simp at this

theorem Concludes.owned {id : String} (h : m.Concludes id m') (ho : m.Owned) : m'.Owned := by
  -- the thread written was GENERATING, so it owned no activity
  have hgen_saved : ∀ t, m.threads.get? id = some t → t.state = .generating → t.state ≠ .saved :=
    fun t _ hgen hsaved => by rw [hgen] at hsaved; cases hsaved
  rcases h with ⟨states, aid, t, a, ht, hacts, hgen, hnone, haid, hthr, -, -, now, hts⟩ |
    ⟨t, u, ht, hgen, hu, -, hts, hacts⟩
  · -- the new activity is the thread's, now SAVED with its id; the others keep their owners
    obtain ⟨u, hu, hsaved, hactid, hts⟩ : ∃ u : Thread, u.id = id ∧ u.state = .saved ∧
        u.activityId = some aid ∧ m'.threads = m.threads.save u :=
      ⟨{ t with state := .saved, activityId := some aid, lastError := none }.stamp now,
        (ThreadStore.id_of_get? ht : t.id = id), rfl, rfl, hts⟩
    refine ⟨fun a' ha' => ?_, ?_⟩
    · rw [hacts, List.mem_cons] at ha'
      rw [hts]
      rcases ha' with rfl | ha'
      · exact ⟨id, u, by rw [hthr, ThreadStore.id_of_get? ht], by
          rw [ThreadStore.get?_save, if_pos hu], hsaved, by rw [hactid, haid]⟩
      · refine (ho.1 a' ha').save fun t' ht' => ?_
        rw [hu, ht] at ht'
        cases ht'
        exact hgen_saved t ht hgen
    · rw [hacts, List.map_cons, List.nodup_cons, haid]
      exact ⟨id_not_mem_of_activity? hnone, ho.2⟩
  · refine ho.save hts hacts fun t' ht' => ?_
    rw [hu, ht] at ht'
    cases ht'
    exact hgen_saved t ht hgen

end Memory

namespace LocalWorld

variable (b : Binary64)

/-- The scripted services only ever write the script, so they keep the channels. -/
theorem scripted_keeps_bus : (service b).services.Keeps (·.bus) where
  complete a w := by simp [service, Generation.Services.focus]
  judge lang files suite w := by simp [service, Generation.Services.focus]
  sleep d w := rfl
  publish e w := rfl

variable {b}

/-- Scripted services with nothing left in their scripts answer every model call with their
standing reply. -/
theorem scripted_complete_unscripted {w : LocalWorld} (hd : w.script.dialogue = [])
    (hg : w.script.generation = []) (a : Gateway.Ask) :
    ((service b).services.complete a w).1 = w.script.modelDefault := by
  simp only [service, Generation.Services.focus, Generation.Scripted.services,
    Generation.Scripted.complete, hd, hg, Generation.Scripted.next]
  split <;> rfl

end LocalWorld

namespace ThreadService

/-! ## Runs of the loop, and what they keep -/

variable (svc : ThreadService LocalWorld) (fresh : LocalWorld → Thread → Prop)

/-- The requests in flight served on the event loop, their moves interleaved in any order. -/
def Served : LocalWorld × List Stage → LocalWorld × List Stage → Prop :=
  Relation.ReflTransGen (Move svc fresh)

/-- Every generation that saved its thread as GENERATING and has ended left it SAVED or
FAILED. -/
def Concluded (s : LocalWorld × List Stage) : Prop :=
  ∀ id, Stage.genEnded id ∈ s.2 →
    ∃ u, s.1.memory.threads.get? id = some u ∧ (u.state = .saved ∨ u.state = .failed)

/-- **The lifecycle of threads is kept** along every run of the loop that serves the requests
`reqs` from the world `w`: at every move each stored thread stays stored, in its state or in one
the graph of states allows after it; every activity belongs to the SAVED thread that names it,
and no two share an id; and every generation that saved its thread as GENERATING and has ended
left it SAVED or FAILED. -/
def KeepsLifecycle (w : LocalWorld) (reqs : List Request) : Prop :=
  ∀ s s', Served svc fresh (w, reqs.map .waiting) s → Move svc fresh s s' →
    (∀ id, Follows (s.1.memory.threads.get? id) (s'.1.memory.threads.get? id)) ∧
      s'.1.memory.Owned ∧ Concluded s'

/-! ## What the requests in flight hold -/

/-- Whether the stage is a generation of the thread `id` whose run is under way. -/
def Stage.runs (id : String) : Stage → Bool
  | .genRunning i .. => i == id
  | _ => false

/-- What a stage in flight holds, of the memory `m`: a generation holds the thread of its id,
READY before it registers and moved to GENERATING after; a running generation's thread is stored
GENERATING, and an ended one's SAVED or FAILED. -/
def Stage.Sound (m : Memory) : Stage → Prop
  | .genRead id t => t.id = id
  | .genStarting id t t₁ _ => t.id = id ∧ t.state = .ready ∧ t₁ = { t with state := .generating }
  | .genRunning id _ _ => ∃ t, m.threads.get? id = some t ∧ t.state = .generating
  | .genEnded id => ∃ u, m.threads.get? id = some u ∧ (u.state = .saved ∨ u.state = .failed)
  | _ => True

/-- What holds along every run of the loop: the activities are owned, the channels' size is not
negative, every stage in flight is sound, and at most one generation of a thread runs. -/
structure Inv (s : LocalWorld × List Stage) : Prop where
  owned : s.1.memory.Owned
  size : 0 ≤ s.1.bus.size
  sound : ∀ x ∈ s.2, x.Sound s.1.memory
  single : ∀ id, s.2.countP (·.runs id) ≤ 1

/-- A running generation's thread is stored GENERATING. -/
theorem Stage.Sound.running {m : Memory} {x : Stage} {id : String} (hx : x.Sound m)
    (hr : x.runs id = true) : ∃ t, m.threads.get? id = some t ∧ t.state = .generating := by
  cases x with
  | genRunning i t₁ spec =>
    obtain rfl : i = id := by simpa [Stage.runs] using hr
    exact hx
  | _ => simp [Stage.runs] at hr

theorem Stage.Sound.writes {m m' : Memory} {x : Stage} (hx : x.Sound m) (h : m.Writes m') :
    x.Sound m' := by
  -- what a stage holds of the memory is a thread past chatting, which no write touches
  cases x with
  | genRunning id t₁ spec =>
    obtain ⟨t, ht, hgen⟩ := hx
    exact ⟨t, h.get?_past ht (by simp [hgen, ThreadState.isChat]), hgen⟩
  | genEnded id =>
    obtain ⟨u, hu, hend⟩ := hx
    refine ⟨u, h.get?_past hu ?_, hend⟩
    rcases hend with h | h <;> simp [h, ThreadState.isChat]
  | _ => exact hx

theorem Stage.Sound.concludes {m m' : Memory} {x : Stage} {id : String} (hx : x.Sound m)
    (hr : x.runs id = false) (h : m.Concludes id m') : x.Sound m' := by
  obtain ⟨t, u, ht, hgen, hu, -, hts⟩ := h.threads
  -- a stage that holds a thread of the memory holds one other than the generation's own
  have hkeep : ∀ i v, m.threads.get? i = some v → v.state ≠ .generating →
      m'.threads.get? i = some v := by
    intro i v hv hne
    rw [hts, ThreadStore.get?_save, if_neg, hv]
    rintro rfl
    rw [hu, ht] at hv
    cases hv
    exact hne hgen
  cases x with
  | genRunning i t₁ spec =>
    have hi : i ≠ id := by simpa [Stage.runs] using hr
    obtain ⟨v, hv, hvgen⟩ := hx
    refine ⟨v, ?_, hvgen⟩
    rw [hts, ThreadStore.get?_save, if_neg (by rw [hu]; exact hi.symm), hv]
  | genEnded i =>
    obtain ⟨v, hv, hend⟩ := hx
    refine ⟨v, hkeep i v hv ?_, hend⟩
    rcases hend with h | h <;> simp [h]
  | _ => exact hx

/-- A stage among the requests in flight is the moved request's, or another request's. -/
theorem mem_moved {pre post : List Stage} {x y : Stage} :
    x ∈ pre ++ y :: post ↔ x = y ∨ x ∈ pre ++ post := by
  simp only [List.mem_append, List.mem_cons]
  tauto

theorem countP_moved (pre post : List Stage) (x : Stage) (id : String) :
    (pre ++ x :: post).countP (·.runs id) =
      (pre ++ post).countP (·.runs id) + if x.runs id then 1 else 0 := by
  simp only [List.countP_append, List.countP_cons]
  omega

/-- **A move that writes as `Writes` allows** keeps the invariant, when the moved request's new
stage is sound and runs no generation that another request runs. -/
theorem Inv.replace {w w' : LocalWorld} {pre post : List Stage} {x x' : Stage}
    (hi : Inv (w, pre ++ x :: post)) (hw : w.memory.Writes w'.memory)
    (hsize : w'.bus.size = w.bus.size) (hx' : x'.Sound w'.memory)
    (hrun : ∀ id, x'.runs id = true → (pre ++ post).countP (·.runs id) = 0) :
    Inv (w', pre ++ x' :: post) where
  owned := hw.owned hi.owned
  size := hsize ▸ hi.size
  sound y hy := by
    rcases mem_moved.1 hy with rfl | hy
    · exact hx'
    · exact (hi.sound y (mem_moved.2 (.inr hy))).writes hw
  single id := by
    have hold := hi.single id
    rw [countP_moved] at hold
    rw [countP_moved]
    by_cases hr : x'.runs id = true
    · rw [hrun id hr, if_pos hr]
    · rw [if_neg hr]
      omega

/-- **The end of a generation** keeps the invariant. -/
theorem Inv.finish {w w' : LocalWorld} {pre post : List Stage} {id : String} {t₁ : Thread}
    {spec : ActivitySpec} (hi : Inv (w, pre ++ .genRunning id t₁ spec :: post))
    (hc : w.memory.Concludes id w'.memory) (hsize : w'.bus.size = w.bus.size) :
    Inv (w', pre ++ .genEnded id :: post) where
  owned := hc.owned hi.owned
  size := hsize ▸ hi.size
  sound y hy := by
    -- the generation was the only one of its thread
    have hnone : (pre ++ post).countP (·.runs id) = 0 := by
      have hold := hi.single id
      rw [countP_moved, if_pos (by simp [Stage.runs])] at hold
      omega
    rcases mem_moved.1 hy with rfl | hy
    · obtain ⟨t, u, -, -, hu, hend, hts⟩ := hc.threads
      exact ⟨u, by rw [hts, ThreadStore.get?_save, if_pos hu], hend⟩
    · refine (hi.sound y (mem_moved.2 (.inr hy))).concludes ?_ hc
      by_contra hr
      have hpos : 0 < (pre ++ post).countP (·.runs id) :=
        List.countP_pos_iff.2 ⟨y, hy, by simpa using hr⟩
      omega
  single i := by
    have hold := hi.single i
    rw [countP_moved] at hold
    rw [countP_moved, if_neg (by simp [Stage.runs])]
    omega

theorem Inv.concluded {s : LocalWorld × List Stage} (hi : Inv s) : Concluded s :=
  fun _ h => hi.sound _ h

/-- The requests all waiting, from owned activities and channels whose size is not negative. -/
theorem Inv.begin {w : LocalWorld} (howned : w.memory.Owned) (hsize : 0 ≤ w.bus.size)
    (reqs : List Request) : Inv (w, reqs.map .waiting) where
  owned := howned
  size := hsize
  sound x hx := by
    obtain ⟨r, -, rfl⟩ := List.mem_map.1 hx
    trivial
  single id := by
    rw [List.countP_eq_zero.2]
    · omega
    · intro x hx
      obtain ⟨r, -, rfl⟩ := List.mem_map.1 hx
      simp [Stage.runs]

/-! ## Every move keeps the invariant -/

section Moves

variable {b : Binary64} {gen : Generation.Services LocalWorld}

/-- A move that leaves the world as it was keeps the invariant, when the moved request's new
stage is sound and runs nothing. -/
theorem Inv.stay {w : LocalWorld} {pre post : List Stage} {x x' : Stage}
    (hi : Inv (w, pre ++ x :: post)) (hx' : x'.Sound w.memory) (hrun : ∀ id, x'.runs id = false) :
    Inv (w, pre ++ x' :: post) :=
  hi.replace (Memory.Writes.of_eq rfl) rfl hx' fun id h => by rw [hrun id] at h; cases h

/-- **One move keeps the invariant**, when every save of a copy read earlier finds the copy still
stored; and each stored thread follows the one stored before. -/
theorem Inv.move (hmem : gen.Keeps (·.memory)) (hbus : gen.Keeps (·.bus))
    {s s' : LocalWorld × List Stage} (hi : Inv s)
    (hm : Move (LocalWorld.serviceWith b gen) current s s') :
    Inv s' ∧ ∀ id, Follows (s.1.memory.threads.get? id) (s'.1.memory.threads.get? id) := by
  cases hm with
  | @create w w' res pre post mode hid h =>
    -- the id taken names no stored thread, so the new thread is written over nothing
    obtain ⟨hacts, hts⟩ := LocalWorld.createThread_memory h
    have hfresh := hid _ _ (LocalWorld.mintId_run' b w)
    have hw : w.memory.Writes w'.memory := by
      refine ⟨hacts, ?_⟩
      rcases hts with hts | ⟨u, hu, hts⟩
      · exact .inl hts
      refine .inr ⟨u, fun t ht => ?_, hts⟩
      rw [hu, hfresh] at ht
      cases ht
    exact ⟨hi.replace hw ((LocalWorld.createThread_keeps_bus mode).bus_size.run' h) trivial
      (fun _ h => by cases h), hw.follows⟩
  | @chatRead w w' res pre post id message h =>
    rw [LocalWorld.thread_run', Prod.mk.injEq] at h
    obtain ⟨-, rfl⟩ := h
    refine ⟨hi.stay ?_ fun _ => ?_, (Memory.Writes.of_eq rfl).follows⟩
    · cases res <;> trivial
    · cases res <;> rfl
  | @chatAsk w w' res pre post t message h =>
    have hw : w.memory.Writes w'.memory :=
      Memory.Writes.of_eq ((LocalWorld.askFor_keeps hmem t message).run' h)
    have hsize : w'.bus.size = w.bus.size :=
      (LocalWorld.askFor_keeps hbus t message).bus_size.run' h
    refine ⟨hi.replace hw hsize ?_ fun _ hr => ?_, hw.follows⟩
    · cases res <;> trivial
    · cases res <;> cases hr
  | @chatSave w w' res pre post t message reply hfresh h =>
    -- the turn's thread is written over the copy it read, which is still stored
    obtain ⟨hacts, hts⟩ := LocalWorld.keepTurn_memory h
    have hw : w.memory.Writes w'.memory := by
      refine ⟨hacts, ?_⟩
      rcases hts with hts | ⟨r, t', now, hturn, hts⟩
      · exact .inl hts
      refine .inr ⟨t'.stamp now, ?_, hts⟩
      obtain ⟨hchat, hid, hstate⟩ := Negotiation.turn_keeps hturn
      intro t'' ht''
      have htid : (t'.stamp now).id = t.id := hid
      rw [htid, hfresh] at ht''
      cases ht''
      exact ⟨hchat, ThreadState.follows_talk hchat hstate⟩
    exact ⟨hi.replace hw ((LocalWorld.keepTurn_keeps_bus t message reply).bus_size.run' h)
      trivial (fun _ h => by cases h), hw.follows⟩
  | @genRead w w' res pre post id h =>
    have h' := h
    rw [LocalWorld.thread_run', Prod.mk.injEq] at h'
    obtain ⟨-, rfl⟩ := h'
    refine ⟨hi.stay ?_ fun _ => ?_, (Memory.Writes.of_eq rfl).follows⟩
    · cases res with
      | error e => trivial
      | ok t => exact ThreadStore.id_of_get? (LocalWorld.thread_run'_eq_ok h).2
    · cases res <;> rfl
  | genStart w pre post id t =>
    -- the checks move the generation on and leave the world as it was
    have htid : t.id = id := hi.sound _ (mem_moved.2 (.inl rfl))
    cases hstart : startGeneration (registered (pre ++ post) id) t with
    | error e => exact ⟨hi.stay trivial fun _ => rfl, (Memory.Writes.of_eq rfl).follows⟩
    | ok p =>
      obtain ⟨t₁, spec⟩ := p
      obtain ⟨-, hready, -, ht₁⟩ := startGeneration_ok hstart
      exact ⟨hi.stay ⟨htid, hready, ht₁⟩ fun _ => rfl, (Memory.Writes.of_eq rfl).follows⟩
  | @genSave w w' res pre post id t t₁ spec hfresh h =>
    obtain ⟨htid, hready, rfl⟩ : t.id = id ∧ t.state = .ready ∧
        t₁ = { t with state := .generating } := hi.sound _ (mem_moved.2 (.inl rfl))
    rw [LocalWorld.serviceWith_storage, LocalWorld.saveThread_run', Prod.mk.injEq] at h
    obtain ⟨rfl, rfl⟩ := h
    -- the thread, READY as read and still stored, is written GENERATING
    have hw : w.memory.Writes { w.memory with
        clock := w.memory.clock + 1,
        threads := w.memory.threads.save ({ t with state := .generating }.stamp
          (Clock.reading (w.memory.clock + 1))) } := by
      refine ⟨rfl, .inr ⟨_, fun t' ht' => ?_, rfl⟩⟩
      change w.memory.threads.get? t.id = some t' at ht'
      rw [hfresh] at ht'
      cases ht'
      rw [hready]
      exact ⟨rfl, .inr (by simp [ThreadState.next])⟩
    refine ⟨hi.replace hw rfl ⟨_, (ThreadStore.get?_save _ _ _).trans (if_pos htid), rfl⟩ ?_,
      hw.follows⟩
    intro i hr
    obtain rfl : id = i := by simpa [Stage.runs, Stage.afterSave] using hr
    -- another running generation of the thread would have found it GENERATING, not READY
    refine List.countP_eq_zero.2 fun y hy hry => ?_
    obtain ⟨t', ht', hgen⟩ := (hi.sound y (mem_moved.2 (.inr hy))).running hry
    rw [← htid, hfresh] at ht'
    cases ht'
    rw [hready] at hgen
    cases hgen
  | @genFinish w w' res pre post id t₁ spec h =>
    obtain ⟨t, ht, hgen⟩ : ∃ t, w.memory.threads.get? id = some t ∧ t.state = .generating :=
      hi.sound _ (mem_moved.2 (.inl rfl))
    have hc := LocalWorld.generate_concludes hmem hi.size ht hgen h
    exact ⟨hi.finish hc ((LocalWorld.generate_keeps_size hbus id t₁ spec).run' h), hc.follows⟩

/-- **Every run keeps the invariant**, by induction on the moves made. -/
theorem Inv.served (hmem : gen.Keeps (·.memory)) (hbus : gen.Keeps (·.bus))
    {s s' : LocalWorld × List Stage} (hi : Inv s)
    (hrun : Served (LocalWorld.serviceWith b gen) current s s') : Inv s' := by
  induction hrun with
  | refl => exact hi
  | tail _ hm ih => exact (ih.move hmem hbus hm).1

end Moves

/-- **The lifecycle of threads is kept among requests side by side**, when every save of a copy
read earlier finds the copy still stored.  Whatever the models and the judge answer, so long as
they write neither the memory nor the channels, every run of the event loop that serves requests
from a memory whose activities are owned, on channels whose size is not negative, moves each
stored thread only along the graph of states, keeps every activity owned by its SAVED thread
with no two sharing an id, and leaves every thread whose generation saved it as GENERATING and
has ended SAVED or FAILED. -/
theorem lifecycle_kept (b : Binary64) (gen : Generation.Services LocalWorld)
    (hmem : gen.Keeps (·.memory)) (hbus : gen.Keeps (·.bus)) (w : LocalWorld)
    (hsize : 0 ≤ w.bus.size) (howned : w.memory.Owned) (reqs : List Request) :
    KeepsLifecycle (LocalWorld.serviceWith b gen) current w reqs := by
  intro s s' hrun hm
  have hi : Inv s := (Inv.begin howned hsize reqs).served hmem hbus hrun
  obtain ⟨hi', hfollows⟩ := hi.move hmem hbus hm
  exact ⟨hfollows, hi'.owned, hi'.concluded⟩

/-! ## A thread to serve -/

theorem readyWorld_owned (size : Int) : (readyWorld size).memory.Owned :=
  ⟨by simp [readyWorld], by simp [readyWorld]⟩

/-- With every save finding its copy still stored, a chat turn and a generation of the READY
thread keep the lifecycle in every order, with the scripted services. -/
theorem lifecycle_kept_ready :
    (LocalWorld.service (Binary64.zero false)).services.Keeps (·.memory) ∧
    (LocalWorld.service (Binary64.zero false)).services.Keeps (·.bus) ∧
    0 ≤ (readyWorld 8).bus.size ∧ (readyWorld 8).memory.Owned ∧
    KeepsLifecycle (LocalWorld.serviceWith (Binary64.zero false)
        (LocalWorld.service (Binary64.zero false)).services) current (readyWorld 8)
      [.chat "t1" (some "go"), .generate "t1"] :=
  ⟨LocalWorld.scripted_keeps_memory _, LocalWorld.scripted_keeps_bus _, by decide,
    readyWorld_owned 8,
    lifecycle_kept _ _ (LocalWorld.scripted_keeps_memory _) (LocalWorld.scripted_keeps_bus _) _
      (by decide) (readyWorld_owned 8) _⟩

/-! ## Where the lifecycle breaks -/

/-- **A stale save breaks the graph of states**: keeping a turn on a copy of a thread that is now
stored GENERATING writes the thread back to CLARIFYING or READY. -/
theorem keepTurn_over_generating {b : Binary64} {gen : Generation.Services LocalWorld}
    {t t' u : Thread} {message : Option String} {reply : ModelReply} {r : TurnResult}
    {w w' : LocalWorld} {res : Except Failure TurnResult}
    (hturn : (Negotiation.turn t message fun _ => reply).2 = .ok (r, some t'))
    (h : ((LocalWorld.serviceWith b gen).keepTurn t message reply).run' w = (res, w'))
    (hu : w.memory.threads.get? t.id = some u) (hgen : u.state = .generating) :
    ¬ Follows (w.memory.threads.get? t.id) (w'.memory.threads.get? t.id) := by
  intro hfollows
  obtain ⟨-, hid, hstate⟩ := Negotiation.turn_keeps hturn
  rw [LocalWorld.keepTurn_run'_save hturn w, Prod.mk.injEq] at h
  obtain ⟨-, rfl⟩ := h
  obtain ⟨v, hv, hfollow⟩ := hfollows u hu
  -- what is stored under the id now is the turn's thread, stamped
  change (w.memory.threads.save (t'.stamp _)).get? t.id = some v at hv
  rw [ThreadStore.get?_save, if_pos (by rw [Thread.stamp_id, hid]), Option.some.injEq] at hv
  subst hv
  rw [hgen] at hfollow
  rcases hstate with h | h <;> simp [h, ThreadState.next] at hfollow

/-- **A chat turn across a generation puts the thread back to chatting.**  When a save writes
its copy back whatever was saved in between, as the event loop lets it: a chat turn reads the
READY thread `t1`; a generation reads it too, passes its checks and saves it as GENERATING; the
chat turn then asks the dialogue model and saves its copy with the turn taken, CLARIFYING or
READY, over the GENERATING thread, which the graph of states does not allow. -/
theorem chat_over_generation :
    ¬ KeepsLifecycle (LocalWorld.serviceWith (Binary64.zero false)
        (LocalWorld.service (Binary64.zero false)).services) (fun _ _ => True) (readyWorld 8)
      [.chat "t1" (some "go"), .generate "t1"] := by
  intro hkeep
  have hread : ((LocalWorld.serviceWith (Binary64.zero false)
      (LocalWorld.service (Binary64.zero false)).services).thread "t1").run' (readyWorld 8) =
      (.ok readyThread, readyWorld 8) := by
    rw [LocalWorld.thread_run']
    rfl
  -- the chat turn reads the READY thread, and so does the generation
  have m₁ := @Move.chatRead _ (fun _ _ => True) _ _ _ [] [.waiting (.generate "t1")] "t1"
    (some "go") hread
  have m₂ := @Move.genRead _ (fun _ _ => True) _ _ _ [.chatRead readyThread (some "go")] [] "t1"
    hread
  -- the generation passes its checks, nothing being registered, and saves the thread GENERATING
  have m₃ := @Move.genStart (LocalWorld.serviceWith (Binary64.zero false)
    (LocalWorld.service (Binary64.zero false)).services) (fun _ _ => True) (readyWorld 8)
    [.chatRead readyThread (some "go")] [] "t1" readyThread
  have hreg : registered ([Stage.chatRead readyThread (some "go")] ++ []) "t1" = false := rfl
  rw [hreg, startGeneration_ready rfl readyThread_freeze] at m₃
  obtain ⟨u, w₁, hsave, hscript, hgen, hugen⟩ : ∃ u w₁, ((LocalWorld.serviceWith (Binary64.zero false)
      (LocalWorld.service (Binary64.zero false)).services).storage.saveThread
        { readyThread with state := .generating }).run' (readyWorld 8) = (.ok u, w₁) ∧
      w₁.script = (readyWorld 8).script ∧
      w₁.memory.threads.get? "t1" = some u ∧ u.state = .generating := by
    refine ⟨_, _, LocalWorld.saveThread_run' _ _ _, rfl, ?_, rfl⟩
    exact (ThreadStore.get?_save _ _ _).trans (if_pos rfl)
  have m₄ := @Move.genSave _ (fun _ _ => True) _ _ _ [.chatRead readyThread (some "go")] [] "t1"
    readyThread _ listsSpec trivial hsave
  -- the chat turn asks the dialogue model, whose reply reads
  rcases hask : ((LocalWorld.serviceWith (Binary64.zero false)
    (LocalWorld.service (Binary64.zero false)).services).askFor readyThread (some "go")).run' w₁
    with ⟨res, w₂⟩
  obtain ⟨reply, rfl, hreply⟩ := LocalWorld.askFor_ok hask
  have m₅ := @Move.chatAsk _ (fun _ _ => True) _ _ _ []
    [Stage.afterSave "t1" { readyThread with state := .generating } listsSpec (.ok u)] readyThread
    (some "go") hask
  have hmem₂ : w₂.memory = w₁.memory :=
    (LocalWorld.askFor_keeps (LocalWorld.scripted_keeps_memory _) _ _).run' hask
  have hreads : ∃ x, Negotiation.proposal reply = .ok x := by
    rcases hreply with rfl | ⟨a, rfl⟩
    · exact Negotiation.proposal_empty
    · rw [LocalWorld.scripted_complete_unscripted (by rw [hscript]; rfl) (by rw [hscript]; rfl),
        hscript]
      exact ⟨_, rfl⟩
  -- and saves the thread the turn keeps over the GENERATING one
  obtain ⟨r, t', hturn⟩ := @Negotiation.turn_takes readyThread (some "go") reply (by decide) rfl
    (by decide +kernel) hreads
  have hsave₂ := @LocalWorld.keepTurn_run'_save (Binary64.zero false)
    (LocalWorld.service (Binary64.zero false)).services _ _ _ _ _ hturn w₂
  have m₆ := @Move.chatSave (LocalWorld.serviceWith (Binary64.zero false)
    (LocalWorld.service (Binary64.zero false)).services) (fun _ _ => True) _ _ _ []
    [Stage.afterSave "t1" { readyThread with state := .generating } listsSpec (.ok u)] readyThread
    (some "go") reply trivial hsave₂
  exact keepTurn_over_generating hturn hsave₂ (by rw [hmem₂]; exact hgen) hugen
    ((hkeep _ _ ((((Relation.ReflTransGen.single m₁).tail m₂).tail m₃).tail m₄ |>.tail m₅)
      m₆).1 "t1")

/-- **A negative buffer size strands the thread.**  On channels of negative size, a generation
of a READY thread whose spec freezes saves the thread as GENERATING, then fails to start its run,
before the handler that would mark the thread FAILED is in place: the call fails and leaves the
thread GENERATING, whatever the models and the judge. -/
theorem negative_buffer_strands (b : Binary64) (gen : Generation.Services LocalWorld)
    {id : String} {w : LocalWorld} {t : Thread} {spec : ActivitySpec} (hsize : w.bus.size < 0)
    (ht : w.memory.threads.get? id = some t) (hready : t.state = .ready)
    (hfreeze : t.spec.freeze = .ok spec) :
    ∃ e w' u, ((LocalWorld.serviceWith b gen).triggerGeneration id).run' w = (.error e, w') ∧
      w'.memory.threads.get? id = some u ∧ u.state = .generating := by
  have htid : t.id = id := ThreadStore.id_of_get? ht
  rw [triggerGeneration_eq, Effect.run'_bind, LocalWorld.thread_run', ht]
  dsimp only [Option.elim]
  rw [Effect.run'_bind, Effect.run'_ofExcept, startGeneration_ready hready hfreeze]
  dsimp only
  rw [Effect.run'_bind, LocalWorld.serviceWith_storage, LocalWorld.saveThread_run']
  dsimp only
  -- the saved thread is GENERATING, and the run cannot start
  unfold generate
  rw [Effect.run'_bind, LocalWorld.onBus_run'_error (by
    show ProgressBus.startRun _ id = _
    unfold ProgressBus.startRun
    rw [if_pos hsize]
    rfl)]
  exact ⟨_, _, _, rfl, (ThreadStore.get?_save _ _ _).trans (if_pos htid), rfl⟩

/-- The READY thread, on channels of size `-1`, is left GENERATING by its generation. -/
theorem readyThread_stranded :
    (readyWorld (-1)).bus.size < 0 ∧
    (readyWorld (-1)).memory.threads.get? "t1" = some readyThread ∧ readyThread.state = .ready ∧
    readyThread.spec.freeze = .ok listsSpec ∧
    ∃ e w' u, ((LocalWorld.serviceWith (Binary64.zero false)
        (LocalWorld.service (Binary64.zero false)).services).triggerGeneration "t1").run'
        (readyWorld (-1)) = (.error e, w') ∧
      w'.memory.threads.get? "t1" = some u ∧ u.state = .generating :=
  ⟨by decide, rfl, rfl, readyThread_freeze,
    negative_buffer_strands _ _ (by decide) rfl rfl readyThread_freeze⟩

end ThreadService

end PracticeForge
