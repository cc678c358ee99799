import PracticeForge.Proofs.Generation.SlotRun

/-!
# Proofs/Generation/Stages — what the stages of a slot promise

The five steps of a slot (`startDrafting`, `toContractCheck`, `toSandboxCheck`, `attemptFailed`,
`complete`) are its moves (`SlotState.Move`).  Each is made from a fixed list of stages and
refused from any other as an invalid transition; the state it leads to is `Move.after`.

Main statement: `SlotState.moves_keep_wellFormed` — along any sequence of moves from a queued
slot, every state is well formed (`SlotState.WellFormed`: the attempt counts from 1 once the
slot left the queue and never passes `maxAttempts`, a draft is held exactly while the judge
runs, a problem exactly once DONE and then with no error, and FAILED only with every attempt
spent), each move is refused without a trace or leads to a well-formed state, and DONE and
FAILED take no move at all.  It rests on one step lemma, `Move.after_wellFormed`, and the run
lemma `runMoves_wellFormed` built from it.
-/

namespace PracticeForge

namespace SlotState

/-- What a slot's state holds at every point of its life: no attempt before the first move and
between 1 and `maxAttempts` after it, a draft exactly while the judge runs, a problem exactly
once DONE and then no error, and FAILED only with the whole budget spent and an error to
show. -/
structure WellFormed (s : SlotState) : Prop where
  queued_iff : s.stage = .queued ↔ s.attempt = 0
  attempt_range : s.stage ≠ .queued → 1 ≤ s.attempt ∧ s.attempt ≤ maxAttempts
  draft_iff : s.draft.isSome ↔ s.stage = .sandboxCheck
  problem_iff : s.problem.isSome ↔ s.stage = .done
  done_clean : s.stage = .done → s.lastError = none
  failed_spent : s.stage = .failed → s.attempt = maxAttempts ∧ s.lastError.isSome

theorem wellFormed_queued (slot : Slot) : (queued slot).WellFormed where
  queued_iff := by simp [queued]
  attempt_range := by simp [queued]
  draft_iff := by simp [queued]
  problem_iff := by simp [queued]
  done_clean := by simp [queued]
  failed_spent := by simp [queued]

/-- A move of a slot, with what its step is given. -/
inductive Move where
  | startDrafting
  | toContractCheck
  | toSandboxCheck (d : ProblemDraft)
  | attemptFailed (error : String) (feedback : Option String) (timedOut : Bool)
  | complete (p : Problem)

namespace Move

/-- Makes a move by its step. -/
def apply : Move → SlotState → Except Failure SlotState
  | startDrafting, s => s.startDrafting
  | toContractCheck, s => s.toContractCheck
  | toSandboxCheck d, s => s.toSandboxCheck d
  | attemptFailed e f t, s => s.attemptFailed e f t
  | complete p, s => s.complete p

/-- The stages a move is made from. -/
def sources : Move → List SlotStage
  | startDrafting => [.queued]
  | toContractCheck => [.drafting]
  | toSandboxCheck _ => [.contractCheck]
  | attemptFailed .. => [.drafting, .contractCheck, .sandboxCheck]
  | complete _ => [.sandboxCheck]

/-- The state a move leads to from a stage it is made from. -/
def after : Move → SlotState → SlotState
  | startDrafting, s => { s with stage := .drafting, attempt := 1 }
  | toContractCheck, s => { s with stage := .contractCheck }
  | toSandboxCheck d, s => { s with stage := .sandboxCheck, draft := some d }
  | attemptFailed e f t, s =>
    if maxAttempts ≤ s.attempt then { s with stage := .failed, lastError := some e, timedOut := t, draft := none }
    else { s with
      stage := .drafting, attempt := s.attempt + 1, feedback := f, lastError := some e, timedOut := t,
      draft := none }
  | complete p, s => { s with stage := .done, draft := none, problem := some p, lastError := none }

/-- Every step checks its stage first and then makes the move. -/
theorem apply_eq (m : Move) (s : SlotState) :
    m.apply s = (s.expect m.sources).bind fun _ => .ok (m.after s) := by
  cases m with
  | attemptFailed e f t =>
    simp only [apply, SlotState.attemptFailed, sources, after]
    split <;> rfl
  | _ => rfl

/-- **A move is made exactly from its stages**, and leads to `after`. -/
theorem apply_eq_ok {m : Move} {s s' : SlotState} :
    m.apply s = .ok s' ↔ s.stage ∈ m.sources ∧ m.after s = s' := by
  rw [apply_eq]
  by_cases hs : s.stage ∈ m.sources
  · simp [expect_ok hs, Except.bind, hs]
  · simp [expect, hs, throw, throwThe, MonadExceptOf.throw, Except.bind]

/-- **A refused move is an invalid transition**, from a stage it is not made from. -/
theorem apply_eq_error {m : Move} {s : SlotState} {e : Failure} (h : m.apply s = .error e) :
    s.stage ∉ m.sources ∧ ∃ msg, e = .invalidTransition msg := by
  rw [apply_eq] at h
  by_cases hs : s.stage ∈ m.sources
  · simp [expect_ok hs, Except.bind] at h
  · simp only [expect, List.contains_iff_mem, hs, if_false, throw, throwThe, MonadExceptOf.throw,
      Except.bind, Except.error.injEq] at h
    exact ⟨hs, _, h.symm⟩

/-- A move from a stage it is not made from is refused. -/
theorem apply_refused {m : Move} {s : SlotState} (hs : s.stage ∉ m.sources) :
    ∃ msg, m.apply s = .error (.invalidTransition msg) := by
  cases h : m.apply s with
  | ok s' => exact absurd (apply_eq_ok.1 h).1 hs
  | error e =>
    obtain ⟨-, msg, rfl⟩ := apply_eq_error h
    exact ⟨msg, rfl⟩

/-- No move is made from DONE or FAILED. -/
theorem terminal_not_mem_sources (m : Move) {st : SlotStage} (h : st = .done ∨ st = .failed) :
    st ∉ m.sources := by
  rcases h with rfl | rfl <;> cases m <;> simp [sources]

/-- **The step lemma**: a move made from one of its stages keeps a state well formed. -/
theorem after_wellFormed {m : Move} {s : SlotState} (hw : s.WellFormed) (hs : s.stage ∈ m.sources) :
    (m.after s).WellFormed := by
  -- a state under way holds no problem, and one before the judge holds no draft
  have hproblem : s.stage ≠ .done → s.problem = none := fun h =>
    Option.not_isSome_iff_eq_none.1 (mt hw.problem_iff.1 h)
  have hdraft : s.stage ≠ .sandboxCheck → s.draft = none := fun h =>
    Option.not_isSome_iff_eq_none.1 (mt hw.draft_iff.1 h)
  cases m with
  | startDrafting =>
    rw [sources, List.mem_singleton] at hs
    have hp := hproblem (by simp [hs])
    have hd := hdraft (by simp [hs])
    constructor <;> simp [after, hp, hd, maxAttempts]
  | toContractCheck =>
    rw [sources, List.mem_singleton] at hs
    have hp := hproblem (by simp [hs])
    have hd := hdraft (by simp [hs])
    have ha := hw.attempt_range (by simp [hs])
    constructor <;> simp [after, hp, hd] <;> omega
  | toSandboxCheck d =>
    rw [sources, List.mem_singleton] at hs
    have hp := hproblem (by simp [hs])
    have ha := hw.attempt_range (by simp [hs])
    constructor <;> simp [after, hp] <;> omega
  | attemptFailed e f t =>
    -- failed from drafting or either check: under way, with no problem yet
    simp only [sources, List.mem_cons, List.not_mem_nil, or_false] at hs
    have hnq : s.stage ≠ .queued := by rcases hs with h | h | h <;> simp [h]
    have hp := hproblem (by rcases hs with h | h | h <;> simp [h])
    have ha := hw.attempt_range hnq
    simp only [after]
    split
    · next hk =>
      -- the budget is spent: FAILED at its last attempt
      have hlast : s.attempt = maxAttempts := le_antisymm ha.2 hk
      constructor <;> simp [hp, hlast, maxAttempts]
    · next hk =>
      -- another attempt, drafting again within the budget
      have hnext : s.attempt + 1 ≤ maxAttempts := by omega
      constructor <;> simp [hp, hnext]
  | complete p =>
    rw [sources, List.mem_singleton] at hs
    have ha := hw.attempt_range (by simp [hs])
    constructor <;> simp [after] <;> omega

/-- A move that is made keeps a state well formed. -/
theorem apply_wellFormed {m : Move} {s s' : SlotState} (hw : s.WellFormed) (h : m.apply s = .ok s') :
    s'.WellFormed := by
  obtain ⟨hs, rfl⟩ := apply_eq_ok.1 h
  exact after_wellFormed hw hs

end Move

/-- Moves made one after another; a refused move leaves the state as it was. -/
def runMoves (s : SlotState) : List Move → SlotState
  | [] => s
  | m :: ms =>
    match m.apply s with
    | .ok s' => runMoves s' ms
    | .error _ => runMoves s ms

theorem runMoves_append (s : SlotState) (ms ms' : List Move) :
    s.runMoves (ms ++ ms') = (s.runMoves ms).runMoves ms' := by
  induction ms generalizing s with
  | nil => rfl
  | cons m ms ih =>
    simp only [List.cons_append, runMoves]
    split <;> exact ih _

/-- **The run lemma**: any sequence of moves keeps a state well formed. -/
theorem runMoves_wellFormed {s : SlotState} (hw : s.WellFormed) (ms : List Move) :
    (s.runMoves ms).WellFormed := by
  induction ms generalizing s with
  | nil => exact hw
  | cons m ms ih =>
    unfold runMoves
    split
    · next s' h => exact ih (Move.apply_wellFormed hw h)
    · exact ih hw

/-- **Every move of a slot keeps it well formed.**  After any sequence of moves from a queued
slot the state is well formed; the next move is either refused as an invalid transition, from a
stage it is not made from, and then changes nothing, or it leads to a well-formed state; and
from DONE or FAILED every move is refused. -/
theorem moves_keep_wellFormed (slot : Slot) (ms : List Move) (m : Move) :
    ((queued slot).runMoves ms).WellFormed ∧
      ((((queued slot).runMoves ms).stage ∉ m.sources ∧
          (∃ msg, m.apply ((queued slot).runMoves ms) = .error (.invalidTransition msg)) ∧
          (queued slot).runMoves (ms ++ [m]) = (queued slot).runMoves ms) ∨
        ∃ s', m.apply ((queued slot).runMoves ms) = .ok s' ∧ s'.WellFormed) ∧
      (((queued slot).runMoves ms).stage = .done ∨ ((queued slot).runMoves ms).stage = .failed →
        ∃ msg, m.apply ((queued slot).runMoves ms) = .error (.invalidTransition msg)) := by
  have hw := runMoves_wellFormed (wellFormed_queued slot) ms
  generalize hs : (queued slot).runMoves ms = s at hw
  refine ⟨hw, ?_, fun ht => Move.apply_refused (Move.terminal_not_mem_sources m ht)⟩
  cases h : m.apply s with
  | ok s' => exact .inr ⟨s', rfl, Move.apply_wellFormed hw h⟩
  | error e =>
    obtain ⟨hnot, msg, rfl⟩ := Move.apply_eq_error h
    refine .inl ⟨hnot, ⟨msg, rfl⟩, ?_⟩
    rw [runMoves_append, hs]
    simp [runMoves, h]

end SlotState

end PracticeForge
