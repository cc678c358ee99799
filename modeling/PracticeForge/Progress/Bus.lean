import PracticeForge.Progress.Event

/-!
# Progress/Bus — progress channels keyed by thread

Each thread has a replay buffer for its current run, holding the latest `size` events that were
not heartbeats; starting a run empties it and counts the run.  A subscriber gets a copy of the
buffer when it subscribes, then every event published to its thread, heartbeats included, until
it unsubscribes.  A subscriber's queue holds at most `size` events too (no bound when `size` is
not positive): when it is full, the oldest event is dropped and counted.

A negative size is refused by the replay buffers, at every run start and every publish of an
event that is not a heartbeat; subscriber queues take it as no bound.

Subscriptions are numbered from 0 in the order they were made, and keep their queue after they
unsubscribe.
-/

namespace PracticeForge

/-- The message of a refused buffer size. -/
def negativeBufferMessage : String := "maxlen must be non-negative"

/-- The last `n` items of a list. -/
def lastItems {α : Type} (n : Nat) (xs : List α) : List α := xs.drop (xs.length - n)

/-- One subscriber. -/
structure Subscription where
  /-- The thread listened to. -/
  thread : String
  /-- The events not yet read, oldest first. -/
  queue : List ProgressEvent
  /-- How many events were dropped because the queue was full. -/
  dropped : Nat
  /-- Whether it still listens. -/
  live : Bool
  deriving Repr

namespace Subscription

/-- Adds an event to a queue holding at most `size` events, dropping the oldest when full;
a size that is not positive sets no bound. -/
def offer (size : Int) (s : Subscription) (e : ProgressEvent) : Subscription :=
  if 0 < size && size ≤ s.queue.length then
    { s with queue := s.queue.tail ++ [e], dropped := s.dropped + 1 }
  else { s with queue := s.queue ++ [e] }

end Subscription

/-- The progress channels of every thread. -/
structure ProgressBus where
  /-- The bound of replay buffers and subscriber queues. -/
  size : Int
  /-- The replay buffer of each thread that has one, oldest event first. -/
  buffers : List (String × List ProgressEvent)
  /-- The number of runs started for each thread. -/
  runs : List (String × Nat)
  /-- Every subscription made, by number. -/
  subs : Array Subscription
  deriving Repr

namespace ProgressBus

/-- A bus with no channels yet. -/
def empty (size : Int) : ProgressBus := ⟨size, [], [], #[]⟩

/-- Replaces the entry of a key in an entry list, or adds it at the end. -/
def setEntry {α : Type} (xs : List (String × α)) (key : String) (v : α) : List (String × α) :=
  if xs.any (·.1 == key) then xs.map fun e => if e.1 == key then (key, v) else e
  else xs ++ [(key, v)]

/-- The replay buffer of a thread; none for a thread that never had one. -/
def buffered (b : ProgressBus) (thread : String) : List ProgressEvent :=
  ((b.buffers.find? (·.1 == thread)).map (·.2)).getD []

/-- Starts a new run of a thread: its buffer is emptied, and the run's number is returned. -/
def startRun (b : ProgressBus) (thread : String) : Except Failure (Nat × ProgressBus) :=
  if b.size < 0 then throw (.badValue negativeBufferMessage)
  else
    let n := ((b.runs.find? (·.1 == thread)).map (·.2)).getD 0 + 1
    pure (n, { b with buffers := setEntry b.buffers thread [], runs := setEntry b.runs thread n })

/-- Publishes an event to a thread: into its replay buffer unless it is a heartbeat, then to
every live subscriber of the thread. -/
def publish (b : ProgressBus) (thread : String) (e : ProgressEvent) : Except Failure ProgressBus :=
  if !e.isHeartbeat && b.size < 0 then throw (.badValue negativeBufferMessage)
  else
    let kept := lastItems b.size.toNat (b.buffered thread ++ [e])
    let b := if e.isHeartbeat then b else { b with buffers := setEntry b.buffers thread kept }
    let subs := b.subs.map fun s => if s.live && s.thread == thread then s.offer b.size e else s
    pure { b with subs }

/-- Subscribes to a thread, starting from a copy of its buffer; gives the new number. -/
def subscribe (b : ProgressBus) (thread : String) : Nat × ProgressBus :=
  let fresh := (b.buffered thread).foldl (Subscription.offer b.size) ⟨thread, [], 0, true⟩
  (b.subs.size, { b with subs := b.subs.push fresh })

/-- The number a position names: a negative position counts back from the latest
subscription. -/
def numberAt? (b : ProgressBus) (i : Int) : Option Nat :=
  let j := if i < 0 then i + b.subs.size else i
  if 0 ≤ j && j < b.subs.size then some j.toNat else none

/-- The subscription of a number, if there is one. -/
def sub? (b : ProgressBus) (n : Nat) : Option Subscription := b.subs[n]?

/-- Takes every waiting event of a subscription, with its count of dropped events. -/
def drain (b : ProgressBus) (n : Nat) : Option ((List ProgressEvent × Nat) × ProgressBus) :=
  (b.sub? n).map fun s =>
    ((s.queue, s.dropped), { b with subs := b.subs.set! n { s with queue := [] } })

/-- Stops a subscription listening; a second time does nothing. -/
def unsubscribe (b : ProgressBus) (n : Nat) : Option ProgressBus :=
  (b.sub? n).map fun s => { b with subs := b.subs.set! n { s with live := false } }

/-- The number of live subscribers of a thread. -/
def subscriberCount (b : ProgressBus) (thread : String) : Nat :=
  (b.subs.toList.filter fun s => s.live && s.thread == thread).length

end ProgressBus

end PracticeForge
