import PracticeForge.Proofs.Basic
import PracticeForge.Progress.Bus

/-!
# Proofs/Progress/Window — the progress channels as windows onto everything published

Picture the progress channels with room for everything (`Ledger`): each thread keeps every
event, heartbeats apart, published since its run began, and each listener keeps every event
delivered to it since it last read, starting from the replay it got when it subscribed.  The
real channels keep a window of size `B` onto that: a thread's replay buffer holds the last `B`
events of its run, and a subscriber's queue the last `B` of what it has not read, counting the
older ones it lost.  A window of size `0` keeps nothing for a replay buffer but everything for
a subscriber: its queue has no bound then, and loses nothing.

Main statements:
* `Windowed.perform` — every operation keeps the real channels a window onto the ledger.
* `perform_windowed` — so does every sequence of operations from empty channels.
* `startRun_numbered`, `drain_windowed`, `queue_length_le` — what that says about run numbers,
  what a read returns, and the bound of a queue.
-/

namespace PracticeForge

/-! ## The last items of a list -/

section LastItems

variable {α : Type}

@[simp] theorem lastItems_nil (n : Nat) : lastItems n ([] : List α) = [] := by simp [lastItems]

theorem length_lastItems (n : Nat) (xs : List α) : (lastItems n xs).length = min n xs.length := by
  simp only [lastItems, List.length_drop]
  omega

theorem lastItems_of_length_le {n : Nat} {xs : List α} (h : xs.length ≤ n) : lastItems n xs = xs := by
  simp [lastItems, Nat.sub_eq_zero_of_le h]

/-- Cutting to the last `n` items before appending changes nothing about the last `n` items
after. -/
theorem lastItems_lastItems_append (n : Nat) (xs ys : List α) :
    lastItems n (lastItems n xs ++ ys) = lastItems n (xs ++ ys) := by
  have hk : xs.length - n ≤ xs.length := Nat.sub_le _ _
  simp only [lastItems, ← List.drop_append_of_le_length hk, List.drop_drop, List.length_drop,
    List.length_append]
  congr 1
  omega

theorem lastItems_lastItems (n : Nat) (xs : List α) : lastItems n (lastItems n xs) = lastItems n xs := by
  simpa using lastItems_lastItems_append n xs []

/-- A full window moves on by one: the oldest item leaves and the new one comes in. -/
theorem tail_lastItems_append {n : Nat} {xs : List α} (hn : 0 < n) (h : n ≤ xs.length) (x : α) :
    (lastItems n xs).tail ++ [x] = lastItems n (xs ++ [x]) := by
  simp only [lastItems, List.tail_drop, List.length_append, List.length_singleton]
  rw [List.drop_append_of_le_length (by omega)]
  congr 2
  omega

end LastItems

/-! ## Entry lists -/

namespace ProgressBus

section Entries

variable {α : Type}

/-- The value of a key in an entry list. -/
def valueAt (xs : List (String × α)) (k : String) : Option α := (xs.find? (·.1 == k)).map (·.2)

theorem valueAt_cons (e : String × α) (xs : List (String × α)) (k : String) :
    valueAt (e :: xs) k = if e.1 = k then some e.2 else valueAt xs k := by
  by_cases h : e.1 = k <;> simp [valueAt, h]

theorem valueAt_append (xs ys : List (String × α)) (k : String) :
    valueAt (xs ++ ys) k = (valueAt xs k).or (valueAt ys k) := by
  induction xs with
  | nil => simp [valueAt]
  | cons e xs ih => by_cases h : e.1 = k <;> simp [valueAt_cons, h, ih]

theorem valueAt_eq_none {xs : List (String × α)} {k : String} (h : xs.any (·.1 == k) = false) :
    valueAt xs k = none := by
  induction xs with
  | nil => rfl
  | cons e xs ih =>
    have he : ¬ e.1 = k := by simpa using (List.any_eq_false.1 h) e (by simp)
    rw [valueAt_cons, if_neg he]
    exact ih (by simpa [he] using h)

theorem valueAt_map_set (xs : List (String × α)) (k k' : String) (v : α) :
    valueAt (xs.map fun e => if e.1 == k then (k, v) else e) k' =
      if k' = k then (if xs.any (·.1 == k) then some v else none) else valueAt xs k' := by
  induction xs with
  | nil => by_cases h : k' = k <;> simp [valueAt, h]
  | cons e xs ih =>
    rw [List.map_cons, valueAt_cons, ih, valueAt_cons, List.any_cons]
    by_cases he : e.1 = k <;> by_cases h : k' = k
    · simp [he, h]
    · simp [he, h, Ne.symm h]
    · subst h
      have hb : (e.1 == k') = false := by simpa using he
      simp only [hb, Bool.false_eq_true, if_false, he, if_true, Bool.false_or]
    · simp [he, h]

/-- **A write then a read**: the written key holds the new value, every other key its old
one. -/
theorem valueAt_setEntry (xs : List (String × α)) (k k' : String) (v : α) :
    valueAt (setEntry xs k v) k' = if k' = k then some v else valueAt xs k' := by
  unfold setEntry
  split
  case isTrue hk => rw [valueAt_map_set, if_pos hk]
  case isFalse hk =>
    rw [valueAt_append, valueAt_cons]
    by_cases h : k' = k
    · subst h
      simp [valueAt_eq_none (Bool.eq_false_iff.2 hk)]
    · simp [h, Ne.symm h, valueAt]

end Entries

/-- The number of runs begun for a thread. -/
def runCount (b : ProgressBus) (thread : String) : Nat := (valueAt b.runs thread).getD 0

theorem buffered_eq (b : ProgressBus) (thread : String) :
    b.buffered thread = (valueAt b.buffers thread).getD [] := rfl

end ProgressBus

/-! ## Channels with room for everything -/

/-- An operation on the progress channels. -/
inductive BusOp where
  | startRun (thread : String)
  | publish (thread : String) (e : ProgressEvent)
  | subscribe (thread : String)
  | drain (n : Nat)
  | unsubscribe (n : Nat)

namespace ProgressBus

/-- Performs an operation; one that is refused leaves the channels as they were. -/
def perform (b : ProgressBus) : BusOp → ProgressBus
  | .startRun t =>
    match b.startRun t with
    | .ok (_, b') => b'
    | .error _ => b
  | .publish t e =>
    match b.publish t e with
    | .ok b' => b'
    | .error _ => b
  | .subscribe t => (b.subscribe t).2
  | .drain n =>
    match b.drain n with
    | some (_, b') => b'
    | none => b
  | .unsubscribe n => (b.unsubscribe n).getD b

end ProgressBus

/-- A listener with room for everything. -/
structure Listener where
  thread : String
  live : Bool
  /-- Every event delivered since the last read, oldest first. -/
  unread : List ProgressEvent
  /-- How many events earlier reads missed for want of room. -/
  missed : Nat

/-- The progress channels with room for everything. -/
structure Ledger where
  /-- The events, heartbeats apart, published to each thread since its last run began. -/
  since : String → List ProgressEvent
  /-- The runs begun for each thread. -/
  runs : String → Nat
  /-- The listeners, in the order they subscribed. -/
  listeners : List Listener

namespace Ledger

/-- Nothing published, no run begun, nobody listening. -/
def empty : Ledger := ⟨fun _ => [], fun _ => 0, []⟩

/-- Performs an operation, for replay buffers of size `B`.  A new listener starts from the last
`B` events of its thread's run: the replay it is handed. -/
def perform (B : Nat) (L : Ledger) : BusOp → Ledger
  | .startRun t =>
    { L with
      since := Function.update L.since t [],
      runs := Function.update L.runs t (L.runs t + 1) }
  | .publish t e =>
    { since := if e.isHeartbeat then L.since else Function.update L.since t (L.since t ++ [e]),
      runs := L.runs,
      listeners := L.listeners.map fun l =>
        if l.live ∧ l.thread = t then { l with unread := l.unread ++ [e] } else l }
  | .subscribe t => { L with listeners := L.listeners ++ [⟨t, true, lastItems B (L.since t), 0⟩] }
  | .drain n =>
    match L.listeners[n]? with
    | some l =>
      let read := { l with
        unread := [], missed := l.missed + (if B = 0 then 0 else l.unread.length - B) }
      { L with listeners := L.listeners.set n read }
    | none => L
  | .unsubscribe n =>
    match L.listeners[n]? with
    | some l => { L with listeners := L.listeners.set n { l with live := false } }
    | none => L

end Ledger

/-! ## The window -/

/-- What a queue of size `B` keeps of the unread events: the last `B`, or all when `B` is `0`. -/
def keptOf (B : Nat) (unread : List ProgressEvent) : List ProgressEvent :=
  if B = 0 then unread else lastItems B unread

/-- How many unread events a queue of size `B` has lost: those beyond the last `B`, none when
`B` is `0`. -/
def lostOf (B : Nat) (unread : List ProgressEvent) : Nat :=
  if B = 0 then 0 else unread.length - B

/-- The subscriber a listener is seen as through a window of size `B`. -/
def Listener.window (B : Nat) (l : Listener) : Subscription :=
  ⟨l.thread, keptOf B l.unread, l.missed + lostOf B l.unread, l.live⟩

/-- **The real channels `b` are a window of size `B` onto the ledger `L`**: each replay buffer
holds the last `B` events of its thread's run, the run counts agree, and each subscriber is its
listener seen through the window. -/
structure Windowed (B : Nat) (b : ProgressBus) (L : Ledger) : Prop where
  size : b.size = B
  buffers : ∀ t, b.buffered t = lastItems B (L.since t)
  runs : ∀ t, b.runCount t = L.runs t
  subs : b.subs.toList = L.listeners.map (Listener.window B)

/-- **Offering an event to a subscriber** is delivering it to the listener it stands for. -/
theorem offer_window (B : Nat) (l : Listener) (e : ProgressEvent) :
    (l.window B).offer B e = { l with unread := l.unread ++ [e] }.window B := by
  simp only [Subscription.offer, Listener.window, keptOf, lostOf]
  by_cases hB : B = 0
  · simp [hB]
  · by_cases hfull : B ≤ l.unread.length
    · -- the queue is full: its oldest event is lost
      have hcond : (B : Int) ≤ ((lastItems B l.unread).length : Int) := by
        rw [length_lastItems]; omega
      simp only [hB, if_false, show (0 : Int) < B by omega, decide_true, Bool.true_and, hcond,
        if_true, tail_lastItems_append (Nat.pos_of_ne_zero hB) hfull, List.length_append,
        List.length_singleton]
      congr 1
      omega
    · -- room is left: the event joins the queue
      have hq : lastItems B l.unread = l.unread := lastItems_of_length_le (by omega)
      have hq' : lastItems B (l.unread ++ [e]) = l.unread ++ [e] :=
        lastItems_of_length_le (by simp; omega)
      have hcond : ¬ (B : Int) ≤ (l.unread.length : Int) := by omega
      simp only [hB, if_false, hq, hq', hcond, decide_false, Bool.and_false, Bool.false_eq_true,
        List.length_append, List.length_singleton]
      congr 1
      omega

/-- A listener offered events one by one has them all delivered. -/
theorem foldl_offer_window (B : Nat) (es : List ProgressEvent) (l : Listener) :
    es.foldl (Subscription.offer B) (l.window B) = { l with unread := l.unread ++ es }.window B := by
  induction es generalizing l with
  | nil => simp
  | cons e es ih =>
    rw [List.foldl_cons, offer_window, ih]
    simp

/-- A new subscriber is handed the replay window and has lost nothing. -/
theorem window_replay (B : Nat) (t : String) (es : List ProgressEvent) :
    (lastItems B es).foldl (Subscription.offer B) ⟨t, [], 0, true⟩ =
      Listener.window B ⟨t, true, lastItems B es, 0⟩ := by
  have h := foldl_offer_window B (lastItems B es) ⟨t, true, [], 0⟩
  simp only [List.nil_append] at h
  rw [← h]
  simp [Listener.window, keptOf, lostOf]

/-! ## Every operation keeps the window -/

namespace Windowed

variable {B : Nat} {b : ProgressBus} {L : Ledger}

theorem empty (B : Nat) : Windowed B (ProgressBus.empty B) Ledger.empty where
  size := rfl
  buffers _ := by simp [ProgressBus.buffered_eq, ProgressBus.empty, ProgressBus.valueAt, Ledger.empty]
  runs _ := by simp [ProgressBus.runCount, ProgressBus.empty, ProgressBus.valueAt, Ledger.empty]
  subs := by simp [ProgressBus.empty, Ledger.empty]

theorem size_nonneg (h : Windowed B b L) : ¬ b.size < 0 := by
  rw [h.size]
  omega

/-- A run begins at the number after the runs begun so far. -/
theorem startRun_eq (h : Windowed B b L) (t : String) :
    b.startRun t = .ok (L.runs t + 1, { b with
      buffers := ProgressBus.setEntry b.buffers t [],
      runs := ProgressBus.setEntry b.runs t (L.runs t + 1) }) := by
  rw [ProgressBus.startRun, if_neg h.size_nonneg, ← h.runs t]
  rfl

theorem startRun (h : Windowed B b L) (t : String) :
    Windowed B (b.perform (.startRun t)) (L.perform B (.startRun t)) := by
  simp only [ProgressBus.perform, h.startRun_eq t, Ledger.perform]
  refine ⟨h.size, fun t' => ?_, fun t' => ?_, h.subs⟩
  · by_cases ht : t' = t
    · simp [ProgressBus.buffered_eq, ProgressBus.valueAt_setEntry, ht]
    · simp [ProgressBus.buffered_eq, ProgressBus.valueAt_setEntry, ht, ← h.buffers t']
  · by_cases ht : t' = t
    · simp [ProgressBus.runCount, ProgressBus.valueAt_setEntry, ht]
    · simp [ProgressBus.runCount, ProgressBus.valueAt_setEntry, ht, ← h.runs t']

/-- What publishing does: the event goes to every live subscriber of its thread, and into the
thread's replay buffer unless it is a heartbeat. -/
theorem publish_eq (h : Windowed B b L) (t : String) (e : ProgressEvent) :
    b.publish t e = .ok { (if e.isHeartbeat then b else { b with
      buffers := ProgressBus.setEntry b.buffers t (lastItems b.size.toNat (b.buffered t ++ [e])) }) with
      subs := b.subs.map fun s => if s.live && s.thread == t then s.offer b.size e else s } := by
  rw [ProgressBus.publish, if_neg (by simp [h.size_nonneg])]
  cases e.isHeartbeat <;> rfl

/-- Publishing delivers the event to every live listener of its thread, and files it in the
thread's run unless it is a heartbeat. -/
theorem publish (h : Windowed B b L) (t : String) (e : ProgressEvent) :
    Windowed B (b.perform (.publish t e)) (L.perform B (.publish t e)) := by
  -- the subscribers after the event, read through the window
  have hsubs : (b.subs.map fun s => if s.live && s.thread == t then s.offer b.size e else s).toList =
      (L.listeners.map fun l =>
        if l.live ∧ l.thread = t then { l with unread := l.unread ++ [e] } else l).map
          (Listener.window B) := by
    rw [Array.toList_map, h.subs, List.map_map, List.map_map, h.size]
    refine List.map_congr_left fun l _ => ?_
    simp only [Function.comp_apply]
    by_cases hl : l.live ∧ l.thread = t
    · have hl' : (l.live && l.thread == t) = true := by simpa using hl
      rw [if_pos hl, show (l.window B).live = l.live from rfl,
        show (l.window B).thread = l.thread from rfl, if_pos hl', offer_window]
    · have hl' : (l.live && l.thread == t) = false := by simpa using hl
      rw [if_neg hl, show (l.window B).live = l.live from rfl,
        show (l.window B).thread = l.thread from rfl, hl']
      rfl
  simp only [ProgressBus.perform, h.publish_eq t e, Ledger.perform]
  by_cases hb : e.isHeartbeat = true
  · simp only [hb, if_true]
    exact ⟨h.size, h.buffers, h.runs, hsubs⟩
  · simp only [hb, Bool.false_eq_true, if_false]
    refine ⟨h.size, fun t' => ?_, h.runs, hsubs⟩
    rw [ProgressBus.buffered_eq, ProgressBus.valueAt_setEntry]
    by_cases ht : t' = t
    · -- the thread's buffer: the last `B` of its run, the new event included
      subst ht
      rw [if_pos rfl, Option.getD_some, h.buffers, h.size, Int.toNat_natCast,
        lastItems_lastItems_append]
      simp
    · rw [if_neg ht, ← ProgressBus.buffered_eq, h.buffers]
      simp [Function.update_of_ne ht]

/-- A new subscriber is a new listener handed its thread's replay window. -/
theorem subscribe (h : Windowed B b L) (t : String) :
    Windowed B (b.perform (.subscribe t)) (L.perform B (.subscribe t)) := by
  refine ⟨h.size, h.buffers, h.runs, ?_⟩
  simp only [ProgressBus.perform, ProgressBus.subscribe, Ledger.perform, Array.toList_push, h.subs,
    List.map_append, List.map_cons, List.map_nil, h.buffers t, h.size]
  rw [← window_replay]

/-- The subscriber numbered `n` is the window onto the listener numbered `n`. -/
theorem sub?_eq (h : Windowed B b L) (n : Nat) :
    b.sub? n = (L.listeners[n]?).map (Listener.window B) := by
  simp [ProgressBus.sub?, ← Array.getElem?_toList, h.subs]

/-- Reading a subscriber empties its queue and counts what its listener lost. -/
theorem drain (h : Windowed B b L) (n : Nat) :
    Windowed B (b.perform (.drain n)) (L.perform B (.drain n)) := by
  simp only [ProgressBus.perform, ProgressBus.drain, h.sub?_eq n, Ledger.perform]
  cases hl : L.listeners[n]? with
  | none => exact h
  | some l =>
    refine ⟨h.size, h.buffers, h.runs, ?_⟩
    simp only [Option.map_some, Array.toList_set!, h.subs, List.map_set]
    congr 1
    simp [Listener.window, keptOf, lostOf]

/-- A subscriber that unsubscribes is a listener that stops listening. -/
theorem unsubscribe (h : Windowed B b L) (n : Nat) :
    Windowed B (b.perform (.unsubscribe n)) (L.perform B (.unsubscribe n)) := by
  simp only [ProgressBus.perform, ProgressBus.unsubscribe, h.sub?_eq n, Ledger.perform]
  cases hl : L.listeners[n]? with
  | none => exact h
  | some l =>
    refine ⟨h.size, h.buffers, h.runs, ?_⟩
    simp only [Option.map_some, Option.getD_some, Array.toList_set!, h.subs, List.map_set]
    rfl

/-- **Every operation keeps the real channels a window onto the ledger.** -/
theorem perform (h : Windowed B b L) : ∀ op, Windowed B (b.perform op) (L.perform B op)
  | .startRun t => h.startRun t
  | .publish t e => h.publish t e
  | .subscribe t => h.subscribe t
  | .drain n => h.drain n
  | .unsubscribe n => h.unsubscribe n

end Windowed

/-- **Every sequence of operations** from empty channels leaves the channels a window of size
`B` onto the ledger of the same operations. -/
theorem perform_windowed (B : Nat) (ops : List BusOp) :
    Windowed B (ops.foldl ProgressBus.perform (ProgressBus.empty B))
      (ops.foldl (Ledger.perform B) Ledger.empty) := by
  suffices key : ∀ (b : ProgressBus) (L : Ledger), Windowed B b L →
      Windowed B (ops.foldl ProgressBus.perform b) (ops.foldl (Ledger.perform B) L) from
    key _ _ (Windowed.empty B)
  induction ops with
  | nil => exact fun _ _ h => h
  | cons op ops ih => exact fun b L h => ih _ _ (h.perform op)

/-! ## What the window says -/

/-- Whether an operation begins a run of a thread. -/
def BusOp.begins (t : String) : BusOp → Bool
  | .startRun t' => t' == t
  | _ => false

/-- An operation begins one run of the thread it names, and no other. -/
theorem Ledger.runs_perform (B : Nat) (t : String) (L : Ledger) (op : BusOp) :
    (L.perform B op).runs t = L.runs t + if op.begins t then 1 else 0 := by
  cases op with
  | startRun t' =>
    by_cases ht : t' = t
    · subst ht
      simp [Ledger.perform, BusOp.begins]
    · simp [Ledger.perform, BusOp.begins, ht, Function.update_of_ne (Ne.symm ht)]
  | publish t' e => simp [Ledger.perform, BusOp.begins]
  | subscribe t' => simp [Ledger.perform, BusOp.begins]
  | drain n =>
    simp only [Ledger.perform, BusOp.begins]
    split <;> simp
  | unsubscribe n =>
    simp only [Ledger.perform, BusOp.begins]
    split <;> simp

/-- The ledger counts the runs begun. -/
theorem Ledger.runs_foldl (B : Nat) (t : String) (ops : List BusOp) (L : Ledger) :
    (ops.foldl (Ledger.perform B) L).runs t = L.runs t + (ops.filter (BusOp.begins t)).length := by
  induction ops generalizing L with
  | nil => rfl
  | cons op ops ih =>
    rw [List.foldl_cons, ih, Ledger.runs_perform, List.filter_cons]
    by_cases hb : op.begins t = true
    · simp only [hb, if_true, List.length_cons]
      omega
    · simp [hb]

/-- **Runs are numbered** 1, 2, 3, … per thread: a run begun after `ops` gets one more than
the runs of its thread begun in `ops`. -/
theorem startRun_numbered (B : Nat) (ops : List BusOp) (t : String) :
    ∃ b', (ops.foldl ProgressBus.perform (ProgressBus.empty B)).startRun t =
      .ok ((ops.filter (BusOp.begins t)).length + 1, b') := by
  have h := (perform_windowed B ops).startRun_eq t
  rw [Ledger.runs_foldl, show Ledger.empty.runs t = 0 from rfl, Nat.zero_add] at h
  exact ⟨_, h⟩

/-- **A read returns the window onto what was delivered**: the last `B` events delivered to the
subscriber since its last read (all of them when `B` is `0`), and the count of the events lost
so far. -/
theorem drain_windowed {B : Nat} {b : ProgressBus} {L : Ledger} (h : Windowed B b L) {n : Nat}
    {l : Listener} (hl : L.listeners[n]? = some l) :
    ∃ b', b.drain n = some ((keptOf B l.unread, l.missed + lostOf B l.unread), b') := by
  simp [ProgressBus.drain, h.sub?_eq n, hl, Listener.window]

/-- **A queue of a positive size never holds more than that many events.** -/
theorem queue_length_le {B : Nat} {b : ProgressBus} {L : Ledger} (h : Windowed B b L)
    (hB : 0 < B) : ∀ s ∈ b.subs.toList, s.queue.length ≤ B := by
  intro s hs
  rw [h.subs, List.mem_map] at hs
  obtain ⟨l, -, rfl⟩ := hs
  simp [Listener.window, keptOf, Nat.pos_iff_ne_zero.1 hB, length_lastItems]

end PracticeForge
