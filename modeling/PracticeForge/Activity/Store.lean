import PracticeForge.Activity.Basic
import PracticeForge.Chat.Store
import PracticeForge.Clock

/-!
# Activity/Store — where threads and activities are kept

A storage keeps threads and activities behind a handful of calls, acting on a state `σ` of its
own: threads are read, saved and listed newest save first; activities are read, listed newest
first, updated in place, and created together with the thread whose run produced them.  Any call
may fail, and a failed call keeps what it did before failing.

The in-memory storage keeps both in lists.  Updating an activity it does not hold, or creating
one it already holds, is a defect of the caller.
-/

namespace PracticeForge

/-- The first items of a list as a slice `[:limit]` takes them: a negative limit leaves that
many out at the end. -/
def sliceTo {α : Type} (xs : List α) (limit : Int) : List α :=
  if 0 ≤ limit then xs.take limit.toNat else xs.take (xs.length - limit.natAbs)

/-- The calls a storage answers, over its state `σ`. -/
structure Storage (σ : Type) where
  getThread : String → Effect σ (Option Thread)
  saveThread : Thread → Effect σ Thread
  listThreads : Int → Effect σ (List Thread)
  getActivity : String → Effect σ (Option Activity)
  listActivities : Int → Effect σ (List Activity)
  updateActivity : Activity → Effect σ Activity
  /-- Creates an activity and saves the thread that produced it, as one step. -/
  commitGeneration : Activity → Thread → Effect σ Unit

/-- A storage over a part of a larger state, seen through `view` and written back with
`update`. -/
def Storage.focus {σ τ : Type} (st : Storage σ) (view : τ → σ) (update : τ → σ → τ) : Storage τ where
  getThread id := (st.getThread id).focus view update
  saveThread t := (st.saveThread t).focus view update
  listThreads n := (st.listThreads n).focus view update
  getActivity id := (st.getActivity id).focus view update
  listActivities n := (st.listActivities n).focus view update
  updateActivity a := (st.updateActivity a).focus view update
  commitGeneration a t := (st.commitGeneration a t).focus view update

/-- Threads and activities kept in memory, with the clock that times what is stored. -/
structure Memory where
  threads : ThreadStore
  /-- The activities, the most recently created first. -/
  activities : List Activity
  /-- The readings taken so far. -/
  clock : Nat
  deriving Repr

namespace Memory

/-- Nothing kept yet. -/
def empty : Memory := ⟨ThreadStore.empty, [], 0⟩

/-- Reads the clock. -/
def now : Effect Memory String :=
  modifyGet fun m => (Clock.reading (m.clock + 1), { m with clock := m.clock + 1 })

/-- The activity with an id. -/
def activity? (m : Memory) (id : String) : Option Activity := m.activities.find? (·.id == id)

/-- The in-memory storage. -/
def storage : Storage Memory where
  getThread id := do pure ((← get).threads.get? id)
  saveThread t := do
    let t := t.stamp (← now)
    modify fun m => { m with threads := m.threads.save t }
    pure t
  listThreads limit := do pure (sliceTo (← get).threads.threads limit)
  getActivity id := do pure ((← get).activity? id)
  listActivities limit := do pure (sliceTo (← get).activities limit)
  updateActivity a := do
    let m ← get
    if (m.activity? a.id).isNone then
      throw (.persistenceInvariant ("update of unknown activity " ++ a.id))
    set { m with activities := m.activities.map fun (b : Activity) => if b.id == a.id then a else b }
    pure a
  commitGeneration a t := do
    let m ← get
    if (m.activity? a.id).isSome then
      throw (.persistenceInvariant ("activity " ++ a.id ++ " already exists"))
    let created ← now
    let a := if a.createdAt == "" then { a with createdAt := created } else a
    let t := t.stamp (← now)
    modify fun m => { m with activities := a :: m.activities, threads := m.threads.save t }

end Memory

end PracticeForge
