import PracticeForge.Generation.Pool
import PracticeForge.Proofs.Generation.Delivered

/-!
# Proofs/Generation/Pool — the slot tasks of a run are all or nothing, under every schedule

A schedule of the slot tasks (`Pool.run`) is any interleaving of their moves, each slot run
ending with a result that a run of its slot can give (`SlotRunEnds`).  Every schedule from the
start keeps one invariant (`Pool.Inv`): the permits and the running tasks add up to the
concurrency, the flag is up exactly when a slot run has ended FAILED, a task skips only under
the flag, and no slot starts after a slot ended FAILED.  Every move leaves less to do, so a
schedule of `n` slots has at most `2 * n` moves, and until every task has ended some task can
move.  Once every task has ended, the outcomes stand one per slot as a run of that slot ends,
so what the run settles to is all or nothing (`concurrent_run_all_or_nothing`): it returns every
slot DONE with a problem for its slot and the ids distinct, or, with no defect, fails naming the
least index that FAILED.

The sequential run is the schedule with one permit that runs the slots in order
(`run_schedule`), so its answer is one of these.  Schedules of two slots show each answer
reached: both DONE, or the first FAILED and the second skipped.  What the model leaves out: the
services' effects on the world while several slot runs are under way; each slot run's result is
taken from a run of its slot from some world.
-/

namespace PracticeForge

namespace Generation

/-! ## Tasks, outcomes and positions -/

/-- Whether a task is inside its slot run. -/
def Task.isRunning : Task → Bool
  | .running => true
  | _ => false

/-- Whether a task waits for a permit. -/
def Task.isWaiting : Task → Bool
  | .waiting => true
  | _ => false

@[simp] theorem SlotOutcome.ofResult_ne_skipped (r : Except Failure SlotState) :
    SlotOutcome.ofResult r ≠ .skipped := by
  cases r <;> simp [SlotOutcome.ofResult]

/-- An outcome that FAILED is a slot run that returned a FAILED state. -/
theorem SlotOutcome.failed_ofResult {r : Except Failure SlotState}
    (h : (SlotOutcome.ofResult r).failed = true) : ∃ s, r = .ok s ∧ s.stage = .failed := by
  cases r with
  | ok s => exact ⟨s, rfl, by simpa [SlotOutcome.ofResult, SlotOutcome.failed] using h⟩
  | error f => simp [SlotOutcome.ofResult, SlotOutcome.failed] at h

theorem countP_set_add {α : Type} {l : List α} {k : Nat} {t : α} (h : l[k]? = some t) (t' : α)
    (f : α → Bool) :
    (l.set k t').countP f + (if f t then 1 else 0) = l.countP f + (if f t' then 1 else 0) := by
  obtain ⟨hk, rfl⟩ := List.getElem?_eq_some_iff.1 h
  rw [List.countP_set hk]
  have hle : (if f l[k] then 1 else 0) ≤ l.countP f := by
    split
    case isTrue hf => exact List.countP_pos_iff.2 ⟨_, List.getElem_mem hk, hf⟩
    case isFalse => exact Nat.zero_le _
  omega

theorem getElem?_set_cases {α : Type} {l : List α} {k j : Nat} {t t' u : α} (h : l[k]? = some t)
    (hj : (l.set k t')[j]? = some u) : j = k ∧ u = t' ∨ j ≠ k ∧ l[j]? = some u := by
  by_cases hjk : j = k
  · subst hjk
    rw [List.getElem?_set_self (List.getElem?_eq_some_iff.1 h).1, Option.some.injEq] at hj
    exact .inl ⟨rfl, hj.symm⟩
  · rw [List.getElem?_set_ne (Ne.symm hjk)] at hj
    exact .inr ⟨hjk, hj⟩

/-- Setting a task that has not ended keeps every task that has. -/
theorem set_keeps_ended {l : List Task} {k j : Nat} {t t' : Task} {o : SlotOutcome}
    (hk : l[k]? = some t) (ht : t.outcome = none) (hj : l[j]? = some (.ended o)) :
    (l.set k t')[j]? = some (.ended o) := by
  have hkj : k ≠ j := by
    rintro rfl
    rw [hk, Option.some.injEq] at hj
    subst hj
    simp [Task.outcome] at ht
  rw [List.getElem?_set_ne hkj]
  exact hj

theorem mapM_outcome_eq_some :
    ∀ {ts : List Task} {outs : List SlotOutcome}, ts.mapM Task.outcome = some outs ↔ ts = outs.map .ended
  | [], outs => by
    cases outs <;> simp
  | t :: ts, outs => by
    cases t <;> cases outs <;> simp [Task.outcome, Option.bind_eq_some_iff, mapM_outcome_eq_some, and_comm]

theorem mapM_outcome_eq_none :
    ∀ {ts : List Task}, ts.mapM Task.outcome = none → ∃ (k : Nat) (t : Task), ts[k]? = some t ∧ t.outcome = none
  | [], h => by simp at h
  | t :: ts, h => by
    cases ht : t.outcome with
    | none => exact ⟨0, t, rfl, ht⟩
    | some o =>
      have hts : ts.mapM Task.outcome = none := by
        cases hm : ts.mapM Task.outcome with
        | none => rfl
        | some os => simp [ht, hm] at h
      obtain ⟨k, u, hk, hu⟩ := mapM_outcome_eq_none hts
      exact ⟨k + 1, u, hk, hu⟩

theorem set_length_append {α : Type} (l rest : List α) (t t' : α) :
    (l ++ t :: rest).set l.length t' = l ++ t' :: rest := by
  simp [List.set_append_right]

namespace Pool

/-- The tasks inside a slot run. -/
def running (p : Pool) : Nat := p.tasks.countP Task.isRunning

/-- The moves left at most: two for a waiting task, one for a running one. -/
def pending (p : Pool) : Nat := 2 * p.tasks.countP Task.isWaiting + p.running

/-! ## The three steps of a task -/

variable {p : Pool} {k : Nat}

@[simp] theorem skip_tasks : (p.skip k).tasks = p.tasks.set k (.ended .skipped) := rfl
@[simp] theorem skip_permits : (p.skip k).permits = p.permits := rfl
@[simp] theorem skip_failed : (p.skip k).failed = p.failed := rfl
@[simp] theorem skip_log : (p.skip k).log = p.log ++ [PoolEvent.ended k .skipped] := rfl
@[simp] theorem begin_tasks : (p.begin k).tasks = p.tasks.set k .running := rfl
@[simp] theorem begin_permits : (p.begin k).permits = p.permits - 1 := rfl
@[simp] theorem begin_failed : (p.begin k).failed = p.failed := rfl
@[simp] theorem begin_log : (p.begin k).log = p.log ++ [PoolEvent.started k] := rfl

section close

variable {r : Except Failure SlotState}

@[simp] theorem close_tasks : (p.close k r).tasks = p.tasks.set k (.ended (.ofResult r)) := rfl
@[simp] theorem close_permits : (p.close k r).permits = p.permits + 1 := rfl
@[simp] theorem close_failed : (p.close k r).failed = (p.failed || (SlotOutcome.ofResult r).failed) :=
  rfl
@[simp] theorem close_log : (p.close k r).log = p.log ++ [PoolEvent.ended k (.ofResult r)] := rfl

end close

/-- A task enters only while waiting and a permit is free, and then skips under the flag or
starts. -/
theorem move_enter {p' : Pool} (h : p.move (.enter k) = some p') :
    p.tasks[k]? = some .waiting ∧ 0 < p.permits ∧ p' = if p.failed then p.skip k else p.begin k := by
  simp only [move] at h
  split at h
  case h_1 hk =>
    split at h
    case isTrue hp => exact ⟨hk, hp, (Option.some.inj h).symm⟩
    case isFalse => cases h
  case h_2 => cases h

/-- A task finishes only while running. -/
theorem move_finish {p' : Pool} {r : Except Failure SlotState} (h : p.move (.finish k r) = some p') :
    p.tasks[k]? = some .running ∧ p' = p.close k r := by
  simp only [move] at h
  split at h
  case h_1 hk => exact ⟨hk, (Option.some.inj h).symm⟩
  case h_2 => cases h

/-! ## Counting the tasks -/

theorem running_skip (hk : p.tasks[k]? = some .waiting) : (p.skip k).running = p.running := by
  have h := countP_set_add hk (.ended .skipped) Task.isRunning
  simp [Task.isRunning] at h
  simpa [running] using h

theorem running_begin (hk : p.tasks[k]? = some .waiting) : (p.begin k).running = p.running + 1 := by
  have h := countP_set_add hk .running Task.isRunning
  simp [Task.isRunning] at h
  simpa [running] using h

theorem running_close {r : Except Failure SlotState} (hk : p.tasks[k]? = some .running) :
    (p.close k r).running + 1 = p.running := by
  have h := countP_set_add hk (.ended (.ofResult r)) Task.isRunning
  simp [Task.isRunning] at h
  simpa [running] using h

theorem pending_skip (hk : p.tasks[k]? = some .waiting) : (p.skip k).pending + 2 = p.pending := by
  have h := countP_set_add hk (.ended .skipped) Task.isWaiting
  simp [Task.isWaiting] at h
  simp only [pending, running_skip hk, skip_tasks]
  omega

theorem pending_begin (hk : p.tasks[k]? = some .waiting) : (p.begin k).pending + 1 = p.pending := by
  have h := countP_set_add hk .running Task.isWaiting
  simp [Task.isWaiting] at h
  simp only [pending, running_begin hk, begin_tasks]
  omega

theorem pending_close {r : Except Failure SlotState} (hk : p.tasks[k]? = some .running) :
    (p.close k r).pending + 1 = p.pending := by
  have h := countP_set_add hk (.ended (.ofResult r)) Task.isWaiting
  simp [Task.isWaiting] at h
  have hr := running_close (r := r) hk
  simp only [pending, close_tasks] at hr ⊢
  omega

/-- Every move leaves less to do. -/
theorem pending_move {m : PoolMove} {p' : Pool} (h : p.move m = some p') : p'.pending < p.pending := by
  cases m with
  | enter k =>
    obtain ⟨hk, -, rfl⟩ := move_enter h
    split
    · have := pending_skip hk
      omega
    · have := pending_begin hk
      omega
  | finish k r =>
    obtain ⟨hk, rfl⟩ := move_finish h
    have := pending_close (r := r) hk
    omega

/-- A schedule makes at most as many moves as there was left to do. -/
theorem run_length : ∀ {ms : List PoolMove} {p p' : Pool}, p.run ms = some p' →
    ms.length + p'.pending ≤ p.pending
  | [], p, p', h => by
    cases h
    simp
  | m :: ms, p, p', h => by
    obtain ⟨q, hq, h⟩ := Option.bind_eq_some_iff.1 h
    have hlt := pending_move hq
    have hrest := run_length h
    simp only [List.length_cons]
    omega

theorem pending_start (c n : Nat) : (start c n).pending = 2 * n := by
  simp [pending, running, start, List.countP_replicate, Task.isWaiting, Task.isRunning]

end Pool

/-! ## What every schedule keeps -/

/-- A move ends a slot run only with a result `ends` allows at that position. -/
def PoolMove.Allowed (ends : Nat → Except Failure SlotState → Prop) : PoolMove → Prop
  | .enter _ => True
  | .finish k r => ends k r

namespace Pool

variable {p : Pool} {k : Nat}

/-- Appending an event keeps the log free of a start after a FAILED end, when the event is no
start or no slot has yet ended FAILED. -/
theorem ordered_append {log : List PoolEvent}
    (h : log.Pairwise fun e e' => e.endsFailed = true → e'.starts = false) {e : PoolEvent}
    (he : e.starts = false ∨ log.any PoolEvent.endsFailed = false) :
    (log ++ [e]).Pairwise fun e e' => e.endsFailed = true → e'.starts = false := by
  refine List.pairwise_append.2 ⟨h, List.pairwise_singleton _ _, ?_⟩
  intro a ha b hb hfa
  rw [List.mem_singleton] at hb
  subst hb
  rcases he with he | he
  · exact he
  · exact absurd (List.any_eq_true.2 ⟨a, ha, hfa⟩) (by simp [he])

/-- What holds of every pool a schedule reaches from `start c n`, when each slot run it ends has
a result `ends` allows at its position. -/
structure Inv (c n : Nat) (ends : Nat → Except Failure SlotState → Prop) (p : Pool) : Prop where
  /-- One task per slot. -/
  length : p.tasks.length = n
  /-- A permit is free or held by a running task. -/
  permits : p.permits + p.running = c
  /-- The flag is up exactly when a slot run has ended FAILED. -/
  flag : p.failed = p.log.any PoolEvent.endsFailed
  /-- Under the flag, some task has ended with a FAILED state. -/
  flag_task : p.failed = true →
    ∃ (j : Nat) (s : SlotState), p.tasks[j]? = some (.ended (.ran s)) ∧ s.stage = .failed
  /-- A task skips only under the flag. -/
  skipped : ∀ j : Nat, p.tasks[j]? = some (.ended .skipped) → p.failed = true
  /-- No slot starts after a slot ended FAILED. -/
  ordered : p.log.Pairwise fun e e' => e.endsFailed = true → e'.starts = false
  /-- Every ended task skipped, or ended with a result its position allows. -/
  ended : ∀ (j : Nat) (o : SlotOutcome), p.tasks[j]? = some (.ended o) →
    o = .skipped ∨ ∃ r, ends j r ∧ o = .ofResult r

variable {c n : Nat} {ends : Nat → Except Failure SlotState → Prop}

theorem inv_start (c n : Nat) (ends : Nat → Except Failure SlotState → Prop) :
    (start c n).Inv c n ends where
  length := by simp [start]
  permits := by simp [start, running, List.countP_replicate, Task.isRunning]
  flag := rfl
  flag_task h := by simp [start] at h
  skipped j h := by simp [start, List.getElem?_replicate] at h
  ordered := List.Pairwise.nil
  ended j o h := by simp [start, List.getElem?_replicate] at h

/-- A task that skips keeps the invariant: the flag was up. -/
theorem Inv.skip (hi : p.Inv c n ends) (hk : p.tasks[k]? = some .waiting) (hf : p.failed = true) :
    (p.skip k).Inv c n ends where
  length := by simp [hi.length]
  permits := by rw [skip_permits, running_skip hk, hi.permits]
  flag := by simp [hi.flag, PoolEvent.endsFailed, SlotOutcome.failed]
  flag_task _ := by
    obtain ⟨j, s, hj, hs⟩ := hi.flag_task hf
    exact ⟨j, s, by rw [skip_tasks]; exact set_keeps_ended hk rfl hj, hs⟩
  skipped _ _ := hf
  ordered := ordered_append hi.ordered (.inl rfl)
  ended j o hj := by
    rcases getElem?_set_cases hk hj with ⟨-, ho⟩ | ⟨-, hj⟩
    · cases ho
      exact .inl rfl
    · exact hi.ended j o hj

/-- A task that starts keeps the invariant: no slot has ended FAILED yet. -/
theorem Inv.begin (hi : p.Inv c n ends) (hk : p.tasks[k]? = some .waiting) (hp : 0 < p.permits)
    (hf : p.failed = false) : (p.begin k).Inv c n ends where
  length := by simp [hi.length]
  permits := by
    rw [begin_permits, running_begin hk]
    have := hi.permits
    omega
  flag := by simp [hi.flag, PoolEvent.endsFailed]
  flag_task h := by simp [hf] at h
  skipped j hj := by
    rcases getElem?_set_cases hk hj with ⟨-, ho⟩ | ⟨-, hj⟩
    · cases ho
    · exact hi.skipped j hj
  ordered := ordered_append hi.ordered (.inr (hi.flag ▸ hf))
  ended j o hj := by
    rcases getElem?_set_cases hk hj with ⟨-, ho⟩ | ⟨-, hj⟩
    · cases ho
    · exact hi.ended j o hj

/-- A slot run that ends keeps the invariant, when its result is one its position allows. -/
theorem Inv.close {r : Except Failure SlotState} (hi : p.Inv c n ends)
    (hk : p.tasks[k]? = some .running) (hr : ends k r) : (p.close k r).Inv c n ends where
  length := by simp [hi.length]
  permits := by
    have h₁ := running_close (r := r) hk
    have h₂ := hi.permits
    rw [close_permits]
    omega
  flag := by simp [hi.flag, PoolEvent.endsFailed]
  flag_task h := by
    rw [close_failed, Bool.or_eq_true] at h
    rcases h with hf | hf
    · obtain ⟨j, s, hj, hs⟩ := hi.flag_task hf
      exact ⟨j, s, by rw [close_tasks]; exact set_keeps_ended hk rfl hj, hs⟩
    · -- the slot that just ended is the FAILED one
      obtain ⟨s, rfl, hs⟩ := SlotOutcome.failed_ofResult hf
      refine ⟨k, s, ?_, hs⟩
      rw [close_tasks, List.getElem?_set_self (List.getElem?_eq_some_iff.1 hk).1]
      rfl
  skipped j hj := by
    rcases getElem?_set_cases hk hj with ⟨-, ho⟩ | ⟨-, hj⟩
    · exact absurd (Task.ended.inj ho).symm (SlotOutcome.ofResult_ne_skipped r)
    · simp [hi.skipped j hj]
  ordered := ordered_append hi.ordered (.inl rfl)
  ended j o hj := by
    rcases getElem?_set_cases hk hj with ⟨rfl, ho⟩ | ⟨-, hj⟩
    · cases ho
      exact .inr ⟨r, hr, rfl⟩
    · exact hi.ended j o hj

/-- **One move keeps the invariant.** -/
theorem Inv.move (hi : p.Inv c n ends) {m : PoolMove} {p' : Pool} (hm : m.Allowed ends)
    (h : p.move m = some p') : p'.Inv c n ends := by
  cases m with
  | enter k =>
    obtain ⟨hk, hp, rfl⟩ := move_enter h
    cases hf : p.failed
    · rw [if_neg (by simp)]
      exact hi.begin hk hp hf
    · rw [if_pos rfl]
      exact hi.skip hk hf
  | finish k r =>
    obtain ⟨hk, rfl⟩ := move_finish h
    exact hi.close hk hm

/-- **Every schedule keeps the invariant.** -/
theorem Inv.run : ∀ {ms : List PoolMove} {p p' : Pool}, p.Inv c n ends →
    (∀ m ∈ ms, m.Allowed ends) → p.run ms = some p' → p'.Inv c n ends
  | [], p, p', hi, _, h => by
    cases h
    exact hi
  | m :: ms, p, p', hi, hms, h => by
    obtain ⟨q, hq, h⟩ := Option.bind_eq_some_iff.1 h
    have hq' := hi.move (hms m (List.mem_cons_self ..)) hq
    exact Inv.run hq' (fun m' hm' => hms m' (List.mem_cons_of_mem _ hm')) h

/-! ## An ended run -/

theorem outcomes_eq_some {outs : List SlotOutcome} :
    p.outcomes = some outs ↔ p.tasks = outs.map .ended :=
  mapM_outcome_eq_some

/-- **No deadlock**: until every task has ended, some task can move, a running one by ending or
a waiting one by entering, every permit being free when none runs. -/
theorem Inv.available (hi : p.Inv c n ends) (hc : 0 < c) (h : p.outcomes = none) :
    ∃ k, p.tasks[k]? = some .running ∨ (p.move (.enter k)).isSome = true := by
  obtain ⟨k, t, hk, ht⟩ := mapM_outcome_eq_none h
  cases t with
  | running => exact ⟨k, .inl hk⟩
  | ended o => simp [Task.outcome] at ht
  | waiting =>
    by_cases hr : 0 < p.running
    · obtain ⟨t, ht, htr⟩ := List.countP_pos_iff.1 hr
      obtain ⟨j, hj⟩ := List.mem_iff_getElem?.1 ht
      cases t with
      | running => exact ⟨j, .inl hj⟩
      | _ => simp [Task.isRunning] at htr
    · have hp : 0 < p.permits := by
        have := hi.permits
        omega
      refine ⟨k, .inr ?_⟩
      simp only [Pool.move, hk, if_pos hp, Option.isSome_some]

/-- A skipped slot in an ended run means a slot of it ran and FAILED. -/
theorem Inv.skipped_mem {outs : List SlotOutcome} (hi : p.Inv c n ends)
    (h : p.outcomes = some outs) (hs : .skipped ∈ outs) :
    ∃ s, .ran s ∈ outs ∧ s.stage = .failed := by
  have htasks := outcomes_eq_some.1 h
  obtain ⟨j, hj⟩ := List.mem_iff_getElem?.1 hs
  have hf := hi.skipped j (by rw [htasks, List.getElem?_map, hj]; rfl)
  obtain ⟨j', s, hj', hs'⟩ := hi.flag_task hf
  rw [htasks, List.getElem?_map, Option.map_eq_some_iff] at hj'
  obtain ⟨o, ho, heq⟩ := hj'
  cases heq
  exact ⟨s, List.mem_of_getElem? ho, hs'⟩

end Pool

/-! ## The slot runs -/

section Slots

variable {σ : Type} (svc : Services σ) (cfg : RunConfig) (spec : ActivitySpec) (slots : List Slot)

/-- What the slot run at position `k` of `slots` can end with: the result that the run of the
slot there gives, from some world. -/
def SlotRunEnds (k : Nat) (r : Except Failure SlotState) : Prop :=
  ∃ slot, slots[k]? = some slot ∧ ∃ w : σ, ((runSlot svc cfg spec slot).run' w).1 = r

theorem ofResult_of {slot : Slot} {w : σ} {r : Except Failure SlotState}
    (h : ((runSlot svc cfg spec slot).run' w).1 = r) :
    (SlotOutcome.ofResult r).Of cfg.learningMode slot := by
  cases r with
  | ok s => exact runSlot_finished svc cfg spec slot w h
  | error f => trivial

variable {svc cfg spec slots}

/-- The outcomes of an ended run stand one per slot, each as a run of its slot ends. -/
theorem Pool.Inv.outcomes_of {c : Nat} {p : Pool} {outs : List SlotOutcome}
    (hi : p.Inv c slots.length (SlotRunEnds svc cfg spec slots)) (h : p.outcomes = some outs) :
    List.Forall₂ (SlotOutcome.Of cfg.learningMode) slots outs := by
  have htasks := Pool.outcomes_eq_some.1 h
  have hlen : slots.length = outs.length := by rw [← hi.length, htasks, List.length_map]
  refine List.forall₂_iff_get.2 ⟨hlen, fun j h₁ h₂ => ?_⟩
  have hj : p.tasks[j]? = some (.ended (outs.get ⟨j, h₂⟩)) := by
    rw [htasks, List.getElem?_map, List.getElem?_eq_getElem h₂]
    rfl
  rcases hi.ended j _ hj with ho | ⟨r, ⟨slot, hslot, w, hw⟩, ho⟩
  · rw [ho]
    trivial
  · have hs : slots.get ⟨j, h₁⟩ = slot := by
      rw [List.getElem?_eq_getElem h₁, Option.some.injEq] at hslot
      exact hslot
    rw [ho, hs]
    exact ofResult_of svc cfg spec hw

end Slots

/-! ## All or nothing, under every schedule -/

/-- What a run of the slot tasks guarantees of a pool a schedule reached, with `c` permits, for
`slots` in the learning mode `mode`. -/
structure Pool.AllOrNothing (c : Nat) (mode : String) (slots : List Slot) (p : Pool) : Prop where
  /-- At most `c` tasks are inside a slot run. -/
  bounded : p.running ≤ c
  /-- No slot starts after a slot ended FAILED. -/
  no_start_after_failure : p.log.Pairwise fun e e' => e.endsFailed = true → e'.starts = false
  /-- Until every task has ended, some task can move. -/
  live : p.outcomes = none → ∃ k, p.tasks[k]? = some .running ∨ (p.move (.enter k)).isSome = true
  /-- A run that returns hands back every slot DONE, in input order, each with a problem for its
  slot, the ids distinct: it never returns once a slot FAILED or was skipped. -/
  returns : ∀ outs states, p.outcomes = some outs → settle outs = .ok states →
    Delivered mode slots states ∧ ∀ o ∈ outs, ∃ s, o = .ran s ∧ s.stage = .done
  /-- With no defect, a FAILED slot makes the run fail, naming the least index that FAILED. -/
  fails : ∀ outs, p.outcomes = some outs → (∀ f, SlotOutcome.defect f ∉ outs) →
    (∃ s, SlotOutcome.ran s ∈ outs ∧ s.stage = .failed) →
    ∃ s, settle outs = .error (.runFailed (shortError ("Problem " ++ toString (s.slot.index + 1) ++
        " failed: " ++ s.lastError.getD "None")) (some s.slot.index)) ∧
      SlotOutcome.ran s ∈ outs ∧ s.stage = .failed ∧
      ∀ t, SlotOutcome.ran t ∈ outs → t.stage = .failed → s.slot.index ≤ t.slot.index

section Schedules

variable {σ : Type} (svc : Services σ) (cfg : RunConfig) (spec : ActivitySpec) (slots : List Slot)

/-- **The slot tasks of a run are all or nothing, under every schedule.**  With at least one
permit, whatever the interleaving and whatever each slot run ends with, so long as a run of its
slot can end so, a schedule from the start makes at most two moves per slot and reaches a pool
of which `AllOrNothing` holds. -/
theorem concurrent_run_all_or_nothing {c : Nat} (hc : 1 ≤ c) {moves : List PoolMove} {p : Pool}
    (hmoves : ∀ m ∈ moves, m.Allowed (SlotRunEnds svc cfg spec slots))
    (hrun : (Pool.start c slots.length).run moves = some p) :
    moves.length ≤ 2 * slots.length ∧ p.AllOrNothing c cfg.learningMode slots := by
  have hi := (Pool.inv_start c slots.length _).run hmoves hrun
  have hlen : moves.length ≤ 2 * slots.length := by
    have := Pool.run_length hrun
    rw [Pool.pending_start] at this
    omega
  refine ⟨hlen, ⟨by have := hi.permits; omega, hi.ordered, hi.available hc, ?_, ?_⟩⟩
  · intro outs states h hset
    have hof := hi.outcomes_of h
    obtain ⟨hdef, hran, -⟩ := settle_ok hset
    refine ⟨settle_delivered hof (hi.skipped_mem h) hset, fun o ho => ?_⟩
    cases o with
    | ran s =>
      obtain ⟨slot, -, hfin⟩ := forall₂_exists_of_mem hof ho
      rcases hfin.ended with ⟨hst, -⟩ | ⟨hst, -⟩
      · exact absurd hst (hran s ho)
      · exact ⟨s, rfl, hst⟩
    | defect f => exact absurd ho (hdef f)
    | skipped =>
      obtain ⟨s, hs, hsf⟩ := hi.skipped_mem h ho
      exact absurd hsf (hran s hs)
  · intro outs _ hdef hfail
    exact settle_runFailed hdef hfail

end Schedules

/-! ## Schedules of two slots

Three schedules of two slot tasks with two permits: both inside their runs at once and both
broken down by the gateway; both inside at once and both DONE; and the first FAILED before the
second took its permit, which it then skips. -/

/-- Services whose model gateway breaks down at once: every slot run ends in that defect. -/
def gatewayDown : Services Unit where
  complete _ w := (.broken (.crash "gateway down"), w)
  judge _ _ _ w := (.unavailable "no judge", w)
  sleep _ w := w
  publish _ w := w

/-- A spec of two easy problems. -/
def twoEasy : ActivitySpec :=
  ⟨.python, 2, [⟨.easy, 2, by decide⟩], ["math"], .returned, "Python 3.11", none, by decide,
    by decide, by simp, by simp⟩

/-- Its two slots. -/
def twoEasySlots : List Slot :=
  [⟨0, .easy, "math", .python, .returned⟩, ⟨1, .easy, "math", .python, .returned⟩]

/-- Practice mode, no wait between attempts. -/
def practiceNow : RunConfig := ⟨Binary64.zero false, "practice"⟩

theorem gatewayDown_ends (slot : Slot) :
    ((runSlot gatewayDown practiceNow twoEasy slot).run' ()).1 = .error (.crash "gateway down") :=
  rfl

/-- Both tasks enter before either slot run ends; the second ends first. -/
def bothAtOnce : List PoolMove :=
  [.enter 0, .enter 1, .finish 1 (.error (.crash "gateway down")),
    .finish 0 (.error (.crash "gateway down"))]

/-- Where that schedule leaves the tasks. -/
def bothDown : Pool :=
  ⟨[.ended (.defect (.crash "gateway down")), .ended (.defect (.crash "gateway down"))], 2, false,
    [.started 0, .started 1, .ended 1 (.defect (.crash "gateway down")),
      .ended 0 (.defect (.crash "gateway down"))]⟩

/-- Services whose model drafts `passingDraft` while the world says it is up and cannot be
reached otherwise; the judge passes every run. -/
def modelWhenUp : Services Bool where
  complete _ up := (if up then .text passingDraft else .unavailable "fake" "model down", up)
  judge _ _ _ up := (.verdict ⟨true, Contract.testCaseNames, [], "", "", false, some 0, 0⟩, up)
  sleep _ up := up
  publish _ up := up

theorem modelWhenUp_answers : modelWhenUp.Answers (· = true) passingDraft
    ⟨true, Contract.testCaseNames, [], "", "", false, some 0, 0⟩ where
  complete _ _ h := by simp [modelWhenUp, h]
  complete_ready _ _ h := h
  judge _ _ _ _ _ := rfl
  judge_ready _ _ _ _ h := h
  sleep _ _ h := h
  publish _ _ h := h

/-- A spec of two easy problems on lists. -/
def twoLists : ActivitySpec :=
  ⟨.python, 2, [⟨.easy, 2, by decide⟩], ["lists"], .returned, "Python 3.11", none, by decide,
    by decide, by simp, by simp⟩

/-- Its two slots. -/
def twoListsSlots : List Slot :=
  [⟨0, .easy, "lists", .python, .returned⟩, ⟨1, .easy, "lists", .python, .returned⟩]

/-- With the model out of reach, a slot spends its three attempts and ends FAILED. -/
theorem modelDown_fails (slot : Slot) :
    ((runSlot modelWhenUp practiceNow twoLists slot).run' false).1 =
      .ok { SlotState.queued slot with
            stage := .failed, attempt := 3, lastError := some "Model request failed" } :=
  rfl

/-- A slot on lists passes at its first attempt while the model is up. -/
theorem modelUp_passes (i : Int) : ∃ p, ((runSlot modelWhenUp practiceNow twoLists
    ⟨i, .easy, "lists", .python, .returned⟩).run' true).1 = .ok { SlotState.queued
      ⟨i, .easy, "lists", .python, .returned⟩ with stage := .done, attempt := 1, problem := some p } := by
  obtain ⟨d, p, hd, hp⟩ := passingDraft_reads i
  obtain ⟨w', -, h⟩ := runSlot_passes practiceNow twoLists modelWhenUp_answers rfl rfl hd hp
    (w := true) rfl
  exact ⟨p, by rw [h]⟩

/-- Schedules of two slots with two permits: both inside their runs at once and both ending in
the gateway's defect; both inside at once and both DONE, when the run returns what `Delivered`
says; and the first FAILED before the second entered, when the second is skipped and the run
fails naming the first. -/
theorem bothAtOnce_all_or_nothing :
    (1 ≤ 2 ∧ (∀ m ∈ bothAtOnce, m.Allowed (SlotRunEnds gatewayDown practiceNow twoEasy twoEasySlots)) ∧
      (Pool.start 2 twoEasySlots.length).run bothAtOnce = some bothDown ∧
      bothAtOnce.length ≤ 2 * twoEasySlots.length ∧
      bothDown.AllOrNothing 2 practiceNow.learningMode twoEasySlots) ∧
    (∃ moves p states,
      (∀ m ∈ moves, m.Allowed (SlotRunEnds modelWhenUp practiceNow twoLists twoListsSlots)) ∧
      (Pool.start 2 twoListsSlots.length).run moves = some p ∧
      moves.length ≤ 2 * twoListsSlots.length ∧
      p.AllOrNothing 2 practiceNow.learningMode twoListsSlots ∧
      p.result = some (.ok states) ∧ Delivered practiceNow.learningMode twoListsSlots states) ∧
    (∃ moves p reason,
      (∀ m ∈ moves, m.Allowed (SlotRunEnds modelWhenUp practiceNow twoLists twoListsSlots)) ∧
      (Pool.start 2 twoListsSlots.length).run moves = some p ∧
      moves.length ≤ 2 * twoListsSlots.length ∧
      p.AllOrNothing 2 practiceNow.learningMode twoListsSlots ∧
      p.result = some (.error (.runFailed reason (some 0)))) := by
  -- the runs of the slots on lists, DONE while the model is up
  obtain ⟨p₀, h₀⟩ := modelUp_passes 0
  obtain ⟨p₁, h₁⟩ := modelUp_passes 1
  let s₀ : SlotState := { SlotState.queued ⟨0, .easy, "lists", .python, .returned⟩ with
    stage := .done, attempt := 1, problem := some p₀ }
  let s₁ : SlotState := { SlotState.queued ⟨1, .easy, "lists", .python, .returned⟩ with
    stage := .done, attempt := 1, problem := some p₁ }
  refine ⟨?_, ?_, ?_⟩
  · -- both slots inside their runs at once, the second ending first, both broken down
    have hmoves : ∀ m ∈ bothAtOnce,
        m.Allowed (SlotRunEnds gatewayDown practiceNow twoEasy twoEasySlots) := by
      intro m hm
      simp only [bothAtOnce, List.mem_cons, List.mem_nil_iff, or_false] at hm
      rcases hm with rfl | rfl | rfl | rfl
      · trivial
      · trivial
      · exact ⟨_, rfl, (), gatewayDown_ends _⟩
      · exact ⟨_, rfl, (), gatewayDown_ends _⟩
    have hrun : (Pool.start 2 twoEasySlots.length).run bothAtOnce = some bothDown := rfl
    exact ⟨by decide, hmoves, hrun,
      concurrent_run_all_or_nothing gatewayDown practiceNow twoEasy twoEasySlots (by decide) hmoves
        hrun⟩
  · -- both slots inside their runs at once, the second ending first, both DONE
    let moves : List PoolMove := [.enter 0, .enter 1, .finish 1 (.ok s₁), .finish 0 (.ok s₀)]
    have hmoves : ∀ m ∈ moves,
        m.Allowed (SlotRunEnds modelWhenUp practiceNow twoLists twoListsSlots) := by
      intro m hm
      simp only [moves, List.mem_cons, List.mem_nil_iff, or_false] at hm
      rcases hm with rfl | rfl | rfl | rfl
      · trivial
      · trivial
      · exact ⟨_, rfl, true, h₁⟩
      · exact ⟨_, rfl, true, h₀⟩
    have houts : ((Pool.start 2 twoListsSlots.length).run moves).bind Pool.outcomes =
        some ([s₀, s₁].map .ran) := rfl
    obtain ⟨p, hrun⟩ : ∃ p, (Pool.start 2 twoListsSlots.length).run moves = some p := ⟨_, rfl⟩
    rw [hrun, Option.bind_some] at houts
    obtain ⟨states, hsettle⟩ : ∃ states, settle ([s₀, s₁].map .ran) = .ok states :=
      settle_ran (by simp [s₀, s₁])
    obtain ⟨hlen, hall⟩ :=
      concurrent_run_all_or_nothing modelWhenUp practiceNow twoLists twoListsSlots (by decide)
        hmoves hrun
    exact ⟨moves, p, states, hmoves, hrun, hlen, hall,
      by rw [Pool.result, houts, Option.map_some, hsettle],
      (hall.returns _ _ houts hsettle).1⟩
  · -- the first slot FAILED before the second took its permit, which it then skips
    let f₀ : SlotState := { SlotState.queued ⟨0, .easy, "lists", .python, .returned⟩ with
      stage := .failed, attempt := 3, lastError := some "Model request failed" }
    let moves : List PoolMove := [.enter 0, .finish 0 (.ok f₀), .enter 1]
    have hmoves : ∀ m ∈ moves,
        m.Allowed (SlotRunEnds modelWhenUp practiceNow twoLists twoListsSlots) := by
      intro m hm
      simp only [moves, List.mem_cons, List.mem_nil_iff, or_false] at hm
      rcases hm with rfl | rfl | rfl
      · trivial
      · exact ⟨_, rfl, false, modelDown_fails _⟩
      · trivial
    have houts : ((Pool.start 2 twoListsSlots.length).run moves).bind Pool.outcomes =
        some [.ran f₀, .skipped] := rfl
    obtain ⟨p, hrun⟩ : ∃ p, (Pool.start 2 twoListsSlots.length).run moves = some p := ⟨_, rfl⟩
    rw [hrun, Option.bind_some] at houts
    obtain ⟨hlen, hall⟩ :=
      concurrent_run_all_or_nothing modelWhenUp practiceNow twoLists twoListsSlots (by decide)
        hmoves hrun
    obtain ⟨s, hsettle, hs, -⟩ := hall.fails _ houts (by simp) ⟨f₀, by simp, rfl⟩
    -- the slot the failure names is the one that ran
    obtain rfl : s = f₀ := by simpa using hs
    exact ⟨moves, p, _, hmoves, hrun, hlen, hall,
      by rw [Pool.result, houts, Option.map_some, hsettle]; rfl⟩

/-! ## One permit, the slots in order -/

section Sequential

variable {σ : Type} (svc : Services σ) (cfg : RunConfig) (spec : ActivitySpec)

/-- **The slots run one after another are a schedule of their tasks with one permit.**  From a
pool whose first tasks have ended with `done` and whose other tasks wait, with one permit and
the flag up exactly when skipping has begun, running the remaining slots in order moves the pool
to their outcomes, each slot run ending as a run of its slot can. -/
theorem runEach_schedule :
    ∀ (rest pre : List Slot) (skip : Bool) (done : List SlotOutcome) (p : Pool) (w : σ),
      pre.length = done.length →
      p.tasks = done.map .ended ++ List.replicate rest.length .waiting → p.permits = 1 →
      p.failed = skip →
      ∃ moves p', (∀ m ∈ moves, m.Allowed (SlotRunEnds svc cfg spec (pre ++ rest))) ∧
        p.run moves = some p' ∧
        p'.tasks = (done ++ ((runEach svc cfg spec skip rest).run w).1).map .ended
  | [], pre, skip, done, p, w, _, htasks, _, _ =>
    ⟨[], p, by simp, rfl, by simp [runEach, htasks]; rfl⟩
  | slot :: rest, pre, true, done, p, w, hlen, htasks, hperm, hflag => by
    have hk : p.tasks[done.length]? = some .waiting := by simp [htasks]
    -- the flag is up, so the task skips its slot
    have hmove : p.move (.enter done.length) = some (p.skip done.length) := by
      simp [Pool.move, hk, hperm, hflag]
    have htasks₁ : (p.skip done.length).tasks =
        (done ++ [SlotOutcome.skipped]).map .ended ++ List.replicate rest.length .waiting := by
      rw [Pool.skip_tasks, htasks, List.length_cons, List.replicate_succ, ← List.length_map (f := Task.ended),
        set_length_append]
      simp
    obtain ⟨moves, p', hallowed, hrun, htasks'⟩ :=
      runEach_schedule rest (pre ++ [slot]) true (done ++ [SlotOutcome.skipped]) (p.skip done.length) w
        (by simp [hlen]) htasks₁ (by simp [hperm]) (by simp [hflag])
    refine ⟨.enter done.length :: moves, p', ?_, by simp [Pool.run, hmove, hrun], ?_⟩
    · intro m hm
      rcases List.mem_cons.1 hm with rfl | hm
      · trivial
      · simpa using hallowed m hm
    · have hcons : ((runEach svc cfg spec true (slot :: rest)).run w).1 =
          .skipped :: ((runEach svc cfg spec true rest).run w).1 := rfl
      rw [htasks', hcons]
      simp
  | slot :: rest, pre, false, done, p, w, hlen, htasks, hperm, hflag => by
    rcases h₁ : (runSlot svc cfg spec slot).run' w with ⟨r, w₁⟩
    have hk : p.tasks[done.length]? = some .waiting := by simp [htasks]
    -- the flag is down: the task starts its slot, which runs to its end
    have hbegin : p.move (.enter done.length) = some (p.begin done.length) := by
      simp [Pool.move, hk, hperm, hflag]
    have hk₁ : (p.begin done.length).tasks[done.length]? = some .running := by
      simp [htasks]
    have hclose : (p.begin done.length).move (.finish done.length r) =
        some ((p.begin done.length).close done.length r) := by
      simp only [Pool.move, hk₁]
    set q := (p.begin done.length).close done.length r with hq
    have htasks₁ : q.tasks =
        (done ++ [SlotOutcome.ofResult r]).map .ended ++ List.replicate rest.length .waiting := by
      rw [hq, Pool.close_tasks, Pool.begin_tasks, htasks, List.length_cons, List.replicate_succ,
        ← List.length_map (f := Task.ended), set_length_append, set_length_append]
      simp
    obtain ⟨moves, p', hallowed, hrun, htasks'⟩ :=
      runEach_schedule rest (pre ++ [slot]) (SlotOutcome.ofResult r).failed
        (done ++ [SlotOutcome.ofResult r]) q w₁ (by simp [hlen]) htasks₁
        (by simp [hq, hperm]) (by simp [hq, hflag])
    refine ⟨.enter done.length :: .finish done.length r :: moves, p', ?_,
      by simp [Pool.run, hbegin, hclose, hrun], ?_⟩
    · intro m hm
      rcases List.mem_cons.1 hm with rfl | hm
      · trivial
      rcases List.mem_cons.1 hm with rfl | hm
      · exact ⟨slot, by simp [hlen], w, by rw [h₁]⟩
      · simpa using hallowed m hm
    · -- the next slots are skipped exactly when this one FAILED
      have hcons : ((runEach svc cfg spec false (slot :: rest)).run w).1 = .ofResult r ::
          ((runEach svc cfg spec (SlotOutcome.ofResult r).failed rest).run w₁).1 := by
        simp only [runEach, stateM_run_bind]
        rw [show StateT.run (ExceptT.run (runSlot svc cfg spec slot)) w = (r, w₁) from h₁]
        cases r <;> rfl
      rw [htasks', hcons]
      simp

/-- **The sequential run is one schedule of the slot tasks with one permit**: its answer is what
the pool that schedule reaches settles to. -/
theorem run_schedule (slots : List Slot) (w : σ) :
    ∃ moves p, (∀ m ∈ moves, m.Allowed (SlotRunEnds svc cfg spec slots)) ∧
      (Pool.start 1 slots.length).run moves = some p ∧
      p.result = some ((run svc cfg spec slots).run' w).1 := by
  obtain ⟨moves, p, hallowed, hrun, htasks⟩ :=
    runEach_schedule svc cfg spec slots [] false [] (Pool.start 1 slots.length) w rfl
      (by simp [Pool.start]) rfl rfl
  refine ⟨moves, p, by simpa using hallowed, hrun, ?_⟩
  have hout : p.outcomes = some ((runEach svc cfg spec false slots).run w).1 :=
    Pool.outcomes_eq_some.2 (by simpa using htasks)
  simp only [Pool.result, hout, Option.map_some, run, Effect.run'_bind, Effect.run'_lift, run'_step]

end Sequential

end Generation

end PracticeForge
