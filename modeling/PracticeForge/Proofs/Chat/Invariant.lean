import PracticeForge.Proofs.Chat.Turn
import PracticeForge.Proofs.Spec.Freeze

/-!
# Proofs/Chat/Invariant — what holds of every negotiated thread

`Negotiated` is every thread that negotiation reaches: a new thread with its greeting, and each
thread a turn keeps, whatever the learner wrote and whatever the dialogue model replied.  Each of
them is `Settled`: its spec is consistent, a chosen language comes with constraints, a waiting
change holds clean values, a READY thread waits for nothing and has a complete spec, and the
thread is committed to hard fields only.

The invariant is carried one step at a time: each way through a turn keeps it
(`settle_settled`, `applyPending_settled`), the count and plan staying together by the gate and
by a second check of a confirmed change.  So a READY thread freezes into a spec with its own
values, which the planner lays out as one slot per problem, whenever its constraints hold no
surrogate standing alone (`negotiated_spec_sound`).
-/

namespace PracticeForge

namespace Negotiation

open SpecDraft

/-- A waiting change holds the JSON form of clean values, one per field. -/
def PendingOk (p : PendingPatch) : Prop :=
  ∃ vals, p.fields = encode vals ∧ (∀ e ∈ vals, e.2.Clean e.1) ∧ (vals.map (·.1)).Nodup

/-- What holds of a thread between turns. -/
structure Settled (t : Thread) : Prop where
  spec : t.spec.Consistent
  constraints : ∀ l, t.spec.language = some l → ∃ c, t.spec.constraints = some c ∧ c ≠ ""
  pending : ∀ p, t.pending = some p → PendingOk p
  ready : t.state = .ready → t.pending = none ∧ t.spec.isComplete = true
  commitments : ∀ c ∈ t.commitments, ∃ f : SpecField, f.isHard = true ∧ c = f.name

/-- The threads negotiation reaches: a new thread with its greeting, and each thread a turn
keeps, for any message and any dialogue model. -/
inductive Negotiated : Thread → Prop
  | created (id : String) (mode : LearningMode) : Negotiated (Thread.greeted id mode)
  | turn {t t' : Thread} {message : Option String} {model : String → ModelReply}
      {prompt : Option String} {r : TurnResult} :
      Negotiated t → turn t message model = (prompt, .ok (r, some t')) → Negotiated t'

/-- What a turn hands to `finish`: a consistent spec, a clean waiting change if any, and
commitments to hard fields only. -/
structure Finishing (t : Thread) : Prop where
  spec : t.spec.Consistent
  pending : ∀ p, t.pending = some p → PendingOk p
  commitments : ∀ c ∈ t.commitments, ∃ f : SpecField, f.isHard = true ∧ c = f.name

variable {t t' : Thread} {r : TurnResult} {s s' : SpecDraft}

/-! ## Ending a turn -/

theorem fillConstraints_consistent (hs : s.Consistent) (h : fillConstraints s = .ok s') :
    s'.Consistent := by
  rcases fillConstraints_ok h with ⟨rfl, -⟩ | ⟨l, -, rfl⟩
  · exact hs
  · refine hs.writeAll (fun e he => ?_) (by simp) (fun p hp => ?_) (fun n p hn => ?_)
    · rw [List.mem_singleton] at he
      subst he
      exact Language.defaultConstraints_ne l
    · simp at hp
    · simp at hn

/-- After filling, a chosen language comes with non-empty constraints. -/
theorem fillConstraints_constraints (h : fillConstraints s = .ok s') :
    ∀ l, s'.language = some l → ∃ c, s'.constraints = some c ∧ c ≠ "" := by
  rcases fillConstraints_ok h with ⟨rfl, hc⟩ | ⟨l, -, rfl⟩
  · exact hc
  · intro _ _
    have hd := writeAll_agreeOn_write (s := s) (f := .constraints) (v := .text l.defaultConstraints)
      (by simp) (List.mem_singleton_self _) rfl
    exact ⟨_, hd, Language.defaultConstraints_ne l⟩

/-- **Ending a turn settles the thread.** -/
theorem finish_settled {ack : Option String} {d : Bool} {req : Option Int} (ht : Finishing t)
    (h : finish t ack d req = .ok (r, t')) : Settled t' := by
  obtain ⟨spec, hfill, hspec, hpend, hcom, hstate, -, -⟩ := finish_ok h
  refine ⟨hspec ▸ fillConstraints_consistent ht.spec hfill, hspec ▸ fillConstraints_constraints hfill,
    hpend ▸ ht.pending, fun hr => ?_, hcom ▸ ht.commitments⟩
  obtain ⟨hp, hc, -⟩ := nextStep_ready (hstate ▸ hr)
  exact ⟨hpend.trans hp, hspec ▸ hc⟩

/-! ## Settling a turn -/

section Settle

variable {sh : Shorthand} {proposed : List (String × Json)} {vals A C : List (SpecField × SpecValue)}
  {explicit : List SpecField} {t1 : Thread}

/-- **An applied plan agrees with the count.**  A plan passes the gate only when the message
states it, so the message states a count too; the plan was held against that count, which is
applied with it or is the agreed count already, since it cannot wait while the plan passes. -/
theorem settle_planAgrees (hw : sh.WellCounted)
    (hwpc : withPlanCount t.spec (checkPatch (.obj (candidate sh proposed)) (some t.spec))
      sh.explicitFields = (vals, explicit))
    (hk : (vals.map (·.1)).Nodup) (hout : GateOut t explicit vals A C t1) : PlanAgrees t.spec A := by
  intro q hq
  have hpc : .difficultyPlan ∈ sh.explicitFields → .problemCount ∈ sh.explicitFields := fun h =>
    (Shorthand.mem_explicitFields_count sh).2 (hw.plan_count ((Shorthand.mem_explicitFields_plan sh).1 h))
  have hstated := withPlanCount_explicit hpc hwpc (hout.applied_hard _ hq rfl).2.1
  obtain ⟨n, hn⟩ := Option.isSome_iff_exists.1 ((Shorthand.mem_explicitFields_count sh).1 (hpc hstated))
  have hverdict : Patch.verdict (candidate sh proposed) .problemCount = .valid (.count n) :=
    verdict_count_of_stated hw hn
  have hget : (checkPatch (.obj (candidate sh proposed)) (some t.spec)).get .problemCount =
      .valid (.count n) := (checkPatch_get_ne (by decide)).trans hverdict
  have hvals := withPlanCount_of_count hget hwpc
  have htot : planTotal q = n := (checkPatch_get_plan (mem_validValues_checkPatch.1
    (hvals ▸ hout.applied_sublist.subset hq))).1 n hverdict
  have hcount : (.problemCount, .count n) ∈ vals := hvals ▸ mem_validValues_checkPatch.2 hget
  by_cases hcA : (.problemCount, .count n) ∈ A
  · exact .inl ⟨n, hcA, htot⟩
  right
  rcases hout.hard_cases _ hcount rfl hcA with hwait | hheld
  · -- a waiting count takes the plan along
    have hany : (C.any fun e => coupled e.1) = true := List.any_eq_true.2 ⟨_, hwait, rfl⟩
    exact absurd (hout.coupled hany _ hq) (by simp [coupled])
  refine ⟨fun hk' => hcA ?_, fun m hm => ?_⟩
  · -- the only count among the values is the stated one
    obtain ⟨⟨f, v⟩, hm', hf⟩ := List.mem_map.1 hk'
    simp only at hf
    subst hf
    rwa [List.inj_on_of_nodup_map hk (hout.applied_sublist.subset hm') hcount rfl] at hm'
  · -- the stated count is the agreed one
    simp only [SpecDraft.holds, beq_iff_eq] at hheld
    rw [hheld, Option.some.injEq] at hm
    rw [← hm, htot]

theorem commitHard_spec (t : Thread) (values : List (SpecField × SpecValue)) (chosen : SpecField → Bool) :
    (commitHard t values chosen).spec = t.spec ∧ (commitHard t values chosen).pending = t.pending := by
  obtain ⟨added, heq, -⟩ := commitHard_eq t values chosen
  rw [heq]
  exact ⟨rfl, rfl⟩

theorem awaitConfirm_spec (t : Thread) (C : List (SpecField × SpecValue)) :
    (awaitConfirm t C).spec = t.spec ∧ (awaitConfirm t C).commitments = t.commitments := by
  unfold awaitConfirm
  split <;> exact ⟨rfl, rfl⟩

/-- Commitments added to a thread committed to hard fields only are to hard fields. -/
theorem commitments_hard_append {cs added : List String}
    (hcs : ∀ c ∈ cs, ∃ f : SpecField, f.isHard = true ∧ c = f.name)
    (hadded : ∀ c ∈ added, ∃ f : SpecField, f.isHard = true ∧ c = f.name) :
    ∀ c ∈ cs ++ added, ∃ f : SpecField, f.isHard = true ∧ c = f.name := by
  intro c hc
  rcases List.mem_append.1 hc with hc | hc
  · exact hcs c hc
  · exact hadded c hc

/-- **Settling a turn keeps the invariant**, from a thread with nothing waiting. -/
theorem settle_settled {ack : Option String} (hs : t.spec.Consistent) (hp : t.pending = none)
    (hc : ∀ c ∈ t.commitments, ∃ f : SpecField, f.isHard = true ∧ c = f.name) (hw : sh.WellCounted)
    (h : settle t sh ack proposed = .ok (r, t')) : Settled t' := by
  obtain ⟨vals, explicit, A, C, t1, s1, hwpc, hg, hs1, hf⟩ := settle_ok h
  obtain ⟨hclean, hk⟩ := withPlanCount_clean hwpc
  have hout := gate_spec hk hg
  have ht1 : t1.spec = t.spec ∧ t1.pending = t.pending := by
    rw [hout.thread]
    exact ⟨rfl, rfl⟩
  have hAc : ∀ e ∈ A, e.2.Clean e.1 := fun e he => hclean e (hout.applied_sublist.subset he)
  have hAk : (A.map (·.1)).Nodup := hk.sublist (hout.applied_sublist.map _)
  have hs1c : s1.Consistent :=
    applyValues_consistent hs hAc hAk (settle_planAgrees hw hwpc hk hout) (ht1.1 ▸ hs1)
  -- the thread handed to `finish`
  obtain ⟨added, hcommit, hadded⟩ := commitHard_eq { t1 with spec := s1 } A explicit.contains
  obtain ⟨gained, hgained, hgained_hard⟩ := hout.commits
  refine finish_settled ⟨?_, fun p hp' => ?_, ?_⟩ hf
  · rw [(awaitConfirm_spec _ C).1, (commitHard_spec _ A _).1]
    exact hs1c
  · -- a waiting change is made of values that wait, which are clean
    unfold awaitConfirm at hp'
    split at hp'
    · rw [(commitHard_spec _ A _).2] at hp'
      simp only [ht1.2, hp] at hp'
      cases hp'
    · cases hp'
      obtain ⟨pv, hfields, hsub, hpk⟩ := pendingOf_fields C
      exact ⟨pv, hfields, fun e he => hclean e (hout.waits_mem e (hsub e he)).1, hpk⟩
  · rw [(awaitConfirm_spec _ C).2, hcommit]
    refine commitments_hard_append ?_ fun c hc' => ?_
    · rw [show ({ t1 with spec := s1 } : Thread).commitments = t1.commitments from rfl, hgained]
      exact commitments_hard_append hc hgained_hard
    · obtain ⟨e, -, hh, -, rfl⟩ := hadded c hc'
      exact ⟨e.1, hh, rfl⟩

end Settle

/-! ## Applying a confirmed change -/

section Pending

variable {pv : List (SpecField × SpecValue)}

/-- The count of a waiting change made of clean values is valid when it has one, and unset
otherwise: never invalid. -/
theorem verdict_count_encode (hc : ∀ e ∈ pv, e.2.Clean e.1) (hk : (pv.map (·.1)).Nodup) :
    (∃ n, (.problemCount, .count n) ∈ pv ∧ Patch.verdict (encode pv) .problemCount = .valid (.count n)) ∨
      (.problemCount ∉ pv.map (·.1) ∧ Patch.verdict (encode pv) .problemCount = .unset) := by
  by_cases hm : .problemCount ∈ pv.map (·.1)
  · obtain ⟨n, hn, h1, h7⟩ := exists_count_of_mem hc hm
    refine .inl ⟨n, hn, ?_⟩
    unfold Patch.verdict
    rw [lookup_encode_of_mem hk hn]
    simp only [SpecValue.toJson, Patch.rule, Patch.count_int h1 h7]
  · refine .inr ⟨hm, ?_⟩
    unfold Patch.verdict
    rw [lookup_encode_of_not_mem hm]

/-- **A confirmed plan agrees with the count.**  Checked again, a plan is held against the
change's own count when it has one, and else against the agreed count. -/
theorem pending_planAgrees (hc : ∀ e ∈ pv, e.2.Clean e.1) (hk : (pv.map (·.1)).Nodup) :
    PlanAgrees s (checkPatch (.obj (encode pv)) (some s)).validValues := by
  intro q hq
  have held := checkPatch_get_plan (mem_validValues_checkPatch.1 hq)
  have hne : SpecField.problemCount ≠ .difficultyPlan := by decide
  rcases verdict_count_encode hc hk with ⟨n, -, hn⟩ | ⟨-, hn⟩
  · refine .inl ⟨n, mem_validValues_checkPatch.2 ((checkPatch_get_ne hne).trans hn), held.1 n hn⟩
  · refine .inr ⟨fun hm => ?_, fun m hm => held.2 hn s rfl m hm⟩
    obtain ⟨⟨f, v⟩, hv, hf⟩ := List.mem_map.1 hm
    simp only at hf
    subst hf
    rw [mem_validValues_checkPatch, checkPatch_get_ne hne, hn] at hv
    cases hv

/-- **Applying a confirmed change keeps the invariant.** -/
theorem applyPending_settled {p : PendingPatch} (hs : t.spec.Consistent) (hp : t.pending = none)
    (hc : ∀ c ∈ t.commitments, ∃ f : SpecField, f.isHard = true ∧ c = f.name) (hpo : PendingOk p)
    (h : applyPending t p = .ok (r, t')) : Settled t' := by
  obtain ⟨s1, hs1, ack, hf⟩ := applyPending_ok h
  obtain ⟨pv, hfields, hpc, hpk⟩ := hpo
  rw [hfields] at hs1 hf
  have hvc : ∀ e ∈ (checkPatch (.obj (encode pv)) (some t.spec)).validValues, e.2.Clean e.1 :=
    fun e he => checkPatch_clean (mem_validValues_checkPatch.1 he)
  have hs1c : s1.Consistent :=
    applyValues_consistent hs hvc (checkPatch_keys_nodup _ _) (pending_planAgrees hpc hpk) hs1
  obtain ⟨added, hcommit, hadded⟩ :=
    commitHard_eq { t with spec := s1 } (checkPatch (.obj (encode pv)) (some t.spec)).validValues
      fun _ => true
  refine finish_settled ⟨?_, fun p' hp' => ?_, ?_⟩ hf
  · rw [(commitHard_spec _ _ _).1]
    exact hs1c
  · rw [(commitHard_spec _ _ _).2] at hp'
    simp only [hp] at hp'
    cases hp'
  · rw [hcommit]
    refine commitments_hard_append hc fun c hc' => ?_
    obtain ⟨e, -, hh, -, rfl⟩ := hadded c hc'
    exact ⟨e.1, hh, rfl⟩

end Pending

/-! ## Every negotiated thread -/

/-- **A turn keeps the invariant**, whatever the message and the dialogue model. -/
theorem turn_settled {message : Option String} {model : String → ModelReply} {prompt : Option String}
    (ht : Settled t) (h : turn t message model = (prompt, .ok (r, some t'))) : Settled t' := by
  obtain ⟨t1, hspec, hcom, hpend, hpath⟩ := turn_ok h
  have hs : t1.spec.Consistent := hspec ▸ ht.spec
  have hc : ∀ c ∈ t1.commitments, ∃ f : SpecField, f.isHard = true ∧ c = f.name := hcom ▸ ht.commitments
  rcases hpath with ⟨p, hp, -, happ⟩ | ⟨sh, ack, proposed, hsh, -, hset⟩
  · exact applyPending_settled hs hpend hc (ht.pending p hp) happ
  · exact settle_settled hs hpend hc (Shorthand.read_wellCounted hsh) hset

theorem Negotiated.settled {t : Thread} (h : Negotiated t) : Settled t := by
  induction h with
  | created id mode =>
    -- a new thread has agreed nothing, waits for nothing and is a draft
    refine ⟨consistent_empty, fun l hl => ?_, fun p hp => ?_, fun hr => ?_, fun c hc => ?_⟩
    · cases hl
    · cases hp
    · cases hr
    · cases hc
  | turn _ hturn ih => exact turn_settled ih hturn

/-- **Every negotiated thread keeps a sound spec.**  Whatever the learner wrote and whatever the
dialogue model replied, the spec of a negotiated thread has a count from one to `maxProblems`,
a plan the rules keep that adds up to the count, clean topics, and constraints for a chosen
language.  A READY thread waits for nothing, and unless its constraints hold a surrogate
standing alone, it freezes into a spec with its own values that the planner lays out as one
slot per problem. -/
theorem negotiated_spec_sound {t : Thread} (h : Negotiated t) :
    t.spec.Consistent ∧ (∀ l, t.spec.language = some l → ∃ c, t.spec.constraints = some c ∧ c ≠ "") ∧
      (t.state = .ready → t.pending = none ∧
        ((∀ c, t.spec.constraints = some c → ∀ ch ∈ c.toList, Text.isStandIn ch = false) →
          ∃ a, t.spec.freeze = .ok a ∧ a.toDraft = t.spec ∧
            (planSlots a).map List.length = .ok a.problemCount)) := by
  have hs := h.settled
  refine ⟨hs.spec, hs.constraints, fun hr => ⟨(hs.ready hr).1, fun hu => ?_⟩⟩
  obtain ⟨a, hfreeze, ha⟩ := freeze_ok hs.spec (hs.ready hr).2 hu
  refine ⟨a, hfreeze, ha, planSlots_length a ?_⟩
  -- the frozen spec has the draft's count and plan, which agree
  have htot := hs.spec.coupled a.problemCount a.difficultyPlan (by rw [← ha]; rfl) (by rw [← ha]; rfl)
  exact_mod_cast htot

/-- Asked for two easy Python problems on lists, with a dialogue model that answers nothing
usable, a new thread becomes READY in one turn with constraints free of surrogates: it waits for
nothing, freezes with its own values, and the planner lays it out as one slot per problem. -/
theorem listsThread_spec_sound :
    ∃ t, Negotiated t ∧ t.state = .ready ∧ t.pending = none ∧
      ∃ a, t.spec.freeze = .ok a ∧ a.toDraft = t.spec ∧
        (planSlots a).map List.length = .ok a.problemCount := by
  have hrun : (((turn (Thread.greeted "t" .practice)
        (some "2 easy problems in python, return. Topics: lists") fun _ => .text "").2.toOption.bind
        (·.2)).any fun t => t.state == .ready &&
          t.spec.constraints.all fun c => c.toList.all fun ch => !Text.isStandIn ch) = true := by
    decide +kernel
  generalize hout : turn (Thread.greeted "t" .practice) _ _ = o at hrun
  obtain ⟨prompt, _ | ⟨r, _ | t⟩⟩ := o
  · simp [Except.toOption] at hrun
  · simp [Except.toOption] at hrun
  simp only [Except.toOption, Option.bind_some, Option.any_some, Bool.and_eq_true,
    beq_iff_eq] at hrun
  obtain ⟨hready, hclean⟩ := hrun
  have hneg : Negotiated t := .turn (.created "t" .practice) hout
  obtain ⟨hpending, hfreeze⟩ := (negotiated_spec_sound hneg).2.2 hready
  refine ⟨t, hneg, hready, hpending, hfreeze fun c hc ch hch => ?_⟩
  rw [hc] at hclean
  simpa using List.all_eq_true.1 hclean ch hch

/-- A dialogue model that proposes constraints made of one surrogate standing alone. -/
def surrogateProposer : String → ModelReply :=
  fun _ => .text "\x7b\"proposedPatch\": \x7b\"constraints\": \"\\ud800\"\x7d\x7d"

/-- Asked for two easy Python problems on lists, with that model, a new thread becomes READY in
one turn, with a spec that does not freeze. -/
theorem surrogate_turn_run :
    (match (turn (Thread.greeted "t" .practice) (some "2 easy problems in python, return. Topics: lists")
        surrogateProposer).2 with
      | .ok (_, some t) => t.state == .ready && !t.spec.freeze.toBool
      | _ => false) = true := by
  decide +kernel

/-- **A READY thread may not freeze.**  The thread of `surrogate_turn_run` is negotiated and
READY, and its spec does not freeze. -/
theorem ready_thread_may_not_freeze :
    ∃ t, Negotiated t ∧ t.state = .ready ∧ ∃ e, t.spec.freeze = .error e := by
  have hrun := surrogate_turn_run
  generalize hout : turn (Thread.greeted "t" .practice) _ _ = o at hrun
  obtain ⟨prompt, _ | ⟨r, _ | t⟩⟩ := o
  · simp at hrun
  · simp at hrun
  simp only [Bool.and_eq_true, beq_iff_eq, Bool.not_eq_true'] at hrun
  refine ⟨t, .turn (.created "t" .practice) hout, hrun.1, ?_⟩
  cases hf : t.spec.freeze with
  | error e => exact ⟨e, rfl⟩
  | ok a => simp [hf, Except.toBool] at hrun

end Negotiation

end PracticeForge
