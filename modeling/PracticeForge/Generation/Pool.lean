import PracticeForge.Generation.Run

/-!
# Generation/Pool — the slot runs of an activity as concurrent tasks

A run of an activity's slots may run several slots at once: one task per slot, in input order,
at most `concurrency` of them inside a slot run at any time (the permits of a semaphore), and a
flag, shared by the tasks, that a slot ending FAILED raises.  A task that gets a permit once the
flag is up skips its slot.  When every task has ended, the run settles their outcomes in input
order as `settle` does.

The tasks share one event loop, so a task runs alone between two of its await points.  The
loop's moves are therefore whole steps of one task: a task takes a permit and then either skips
(the flag is up; it gives the permit back at once) or starts its slot, telling the watchers; or
a task's slot run ends, with a state or a defect, the task raises the flag if the slot FAILED,
and it gives its permit back.  A schedule is any list of such moves; the results of the slot
runs are part of the schedule, and what a slot run can end with is said beside the proofs.  Run one
task at a time in input order, this is the sequential `runEach`.
-/

namespace PracticeForge

namespace Generation

/-- Where the task of one slot is. -/
inductive Task where
  /-- Waiting for a permit. -/
  | waiting
  /-- Inside its slot run, holding a permit. -/
  | running
  /-- Ended, with what its slot came to. -/
  | ended (o : SlotOutcome)

/-- What a slot run's result makes of its task: the state the run ended in, or the defect it
raised. -/
def SlotOutcome.ofResult : Except Failure SlotState → SlotOutcome
  | .ok s => .ran s
  | .error f => .defect f

/-- What a task's slot came to, once the task has ended. -/
def Task.outcome : Task → Option SlotOutcome
  | .ended o => some o
  | _ => none

/-- Whether an outcome is a slot run that ended FAILED. -/
def SlotOutcome.failed : SlotOutcome → Bool
  | .ran s => s.stage == .failed
  | _ => false

/-- What the tasks of a run tell, in order: the slot at a position starts its run; the task at
a position ends. -/
inductive PoolEvent where
  | started (k : Nat)
  | ended (k : Nat) (o : SlotOutcome)

/-- Whether an event is the start of a slot run. -/
def PoolEvent.starts : PoolEvent → Bool
  | .started _ => true
  | .ended _ _ => false

/-- Whether an event is the end of a slot run that FAILED. -/
def PoolEvent.endsFailed : PoolEvent → Bool
  | .started _ => false
  | .ended _ o => o.failed

/-- The tasks of a run, one per slot in input order, the free permits, the failure flag and
what the tasks have told so far. -/
structure Pool where
  tasks : List Task
  permits : Nat
  failed : Bool
  log : List PoolEvent

/-- A move of the event loop: a whole step of one task between two await points. -/
inductive PoolMove where
  /-- The task at position `k` takes a permit, then skips its slot or starts it. -/
  | enter (k : Nat)
  /-- The slot run of the task at position `k` ends with the result `r`; the task gives its
  permit back. -/
  | finish (k : Nat) (r : Except Failure SlotState)

namespace Pool

/-- The tasks of `n` slots, none started, with `concurrency` permits. -/
def start (concurrency n : Nat) : Pool :=
  ⟨List.replicate n .waiting, concurrency, false, []⟩

/-- The task at position `k` skips its slot, the flag being up; the permit it took is given
back at once. -/
def skip (p : Pool) (k : Nat) : Pool :=
  { p with tasks := p.tasks.set k (.ended .skipped), log := p.log ++ [.ended k .skipped] }

/-- The task at position `k` starts its slot with the permit it took. -/
def begin (p : Pool) (k : Nat) : Pool :=
  { p with
    tasks := p.tasks.set k .running
    permits := p.permits - 1
    log := p.log ++ [.started k] }

/-- The slot run of the task at position `k` ends with `r`: the task raises the flag if the slot
FAILED and gives its permit back. -/
def close (p : Pool) (k : Nat) (r : Except Failure SlotState) : Pool :=
  { p with
    tasks := p.tasks.set k (.ended (.ofResult r))
    permits := p.permits + 1
    failed := p.failed || (SlotOutcome.ofResult r).failed
    log := p.log ++ [.ended k (.ofResult r)] }

/-- One move, when the task it names can make it: a waiting task enters while a permit is free,
a running task finishes. -/
def move (p : Pool) : PoolMove → Option Pool
  | .enter k =>
    match p.tasks[k]? with
    | some .waiting => if 0 < p.permits then some (if p.failed then p.skip k else p.begin k) else none
    | _ => none
  | .finish k r =>
    match p.tasks[k]? with
    | some .running => some (p.close k r)
    | _ => none

/-- A schedule of moves, each from the pool the one before left. -/
def run (p : Pool) : List PoolMove → Option Pool
  | [] => some p
  | m :: ms => (p.move m).bind (·.run ms)

/-- The outcomes of the slots in input order, once every task has ended. -/
def outcomes (p : Pool) : Option (List SlotOutcome) :=
  p.tasks.mapM Task.outcome

/-- What the run comes to once every task has ended. -/
def result (p : Pool) : Option (Except Failure (List SlotState)) :=
  p.outcomes.map settle

end Pool

end Generation

end PracticeForge
