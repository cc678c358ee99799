import PracticeForge.Proofs.Spec.Fields

/-!
# Proofs/Spec/Consistent — a draft whose count and plan agree

A draft is consistent when each field holds what the patch rules let through and, when it has
both a count and a plan, the plan adds up to the count.  Writing clean values keeps a draft
consistent when a plan written agrees with the count written with it, or with the count kept,
and a count written agrees with a plan kept (`SpecDraft.Consistent.writeAll`).
-/

namespace PracticeForge

theorem Language.defaultConstraints_ne (l : Language) : l.defaultConstraints ≠ "" := by
  cases l <;> decide

namespace SpecDraft

/-- A draft within the rules, whose plan adds up to its count when it has both. -/
structure Consistent (s : SpecDraft) : Prop where
  fields : ∀ f, s.FieldOk f
  coupled : ∀ n p, s.problemCount = some n → s.difficultyPlan = some p → (planTotal p : Int) = n

theorem consistent_empty : empty.Consistent :=
  ⟨fun f => by cases f <;> simp [FieldOk, empty], by simp [empty]⟩

/-- Each plan among the values adds up to the count among them, or, when they hold no count, to
the draft's count. -/
def PlanAgrees (s : SpecDraft) (vals : List (SpecField × SpecValue)) : Prop :=
  ∀ p, (.difficultyPlan, .plan p) ∈ vals →
    (∃ n, (.problemCount, .count n) ∈ vals ∧ planTotal p = n) ∨
    (.problemCount ∉ vals.map (·.1) ∧ ∀ m, s.problemCount = some m → (planTotal p : Int) = m)

variable {s : SpecDraft} {vals : List (SpecField × SpecValue)}

/-! ## The count and the plan after writes -/

theorem writeAll_count_of_mem (hk : (vals.map (·.1)).Nodup) {n : Nat}
    (hm : (.problemCount, .count n) ∈ vals) : (s.writeAll vals).problemCount = some (n : Int) :=
  writeAll_agreeOn_write hk hm rfl

theorem writeAll_plan_of_mem (hk : (vals.map (·.1)).Nodup) {p : List DifficultyCount}
    (hm : (.difficultyPlan, .plan p) ∈ vals) : (s.writeAll vals).difficultyPlan = some p :=
  writeAll_agreeOn_write hk hm rfl

theorem writeAll_count_of_not_mem (h : .problemCount ∉ vals.map (·.1)) :
    (s.writeAll vals).problemCount = s.problemCount :=
  writeAll_agreeOn h

theorem writeAll_plan_of_not_mem (h : .difficultyPlan ∉ vals.map (·.1)) :
    (s.writeAll vals).difficultyPlan = s.difficultyPlan :=
  writeAll_agreeOn h

/-- A clean value given for the count is a count from one to `maxProblems`. -/
theorem exists_count_of_mem (hc : ∀ e ∈ vals, e.2.Clean e.1) (h : .problemCount ∈ vals.map (·.1)) :
    ∃ n, (.problemCount, .count n) ∈ vals ∧ minProblems ≤ n ∧ n ≤ maxProblems := by
  obtain ⟨⟨f, v⟩, hm, rfl⟩ := List.mem_map.1 h
  have hv := hc _ hm
  cases v <;> simp only [SpecValue.Clean] at hv
  next n => exact ⟨n, hm, hv⟩

/-- A clean value given for the plan is a plan the rules keep. -/
theorem exists_plan_of_mem (hc : ∀ e ∈ vals, e.2.Clean e.1) (h : .difficultyPlan ∈ vals.map (·.1)) :
    ∃ p, (.difficultyPlan, .plan p) ∈ vals ∧ PlanOk p := by
  obtain ⟨⟨f, v⟩, hm, rfl⟩ := List.mem_map.1 h
  have hv := hc _ hm
  cases v <;> simp only [SpecValue.Clean] at hv
  next p => exact ⟨p, hm, hv⟩

/-- **Clean writes keep a draft consistent**, when a written plan agrees with the count and a
written count agrees with a plan kept. -/
theorem Consistent.writeAll (hs : s.Consistent) (hc : ∀ e ∈ vals, e.2.Clean e.1)
    (hk : (vals.map (·.1)).Nodup) (hplan : PlanAgrees s vals)
    (hcount : ∀ n p, (.problemCount, .count n) ∈ vals → .difficultyPlan ∉ vals.map (·.1) →
      s.difficultyPlan = some p → planTotal p = n) :
    (s.writeAll vals).Consistent := by
  refine ⟨writeAll_fieldOk hc hk hs.fields, fun n p hn hp => ?_⟩
  by_cases hpv : .difficultyPlan ∈ vals.map (·.1)
  case pos =>
    obtain ⟨q, hq, -⟩ := exists_plan_of_mem hc hpv
    rw [writeAll_plan_of_mem hk hq, Option.some.injEq] at hp
    subst hp
    rcases hplan q hq with ⟨m, hm, htot⟩ | ⟨hcv, hcur⟩
    · rw [writeAll_count_of_mem hk hm, Option.some.injEq] at hn
      rw [← hn, htot]
    · rw [writeAll_count_of_not_mem hcv] at hn
      exact hcur n hn
  case neg =>
    rw [writeAll_plan_of_not_mem hpv] at hp
    by_cases hcv : .problemCount ∈ vals.map (·.1)
    · obtain ⟨m, hm, -⟩ := exists_count_of_mem hc hcv
      rw [writeAll_count_of_mem hk hm, Option.some.injEq] at hn
      rw [← hn, hcount m p hm hpv hp]
    · rw [writeAll_count_of_not_mem hcv] at hn
      exact hs.coupled n p hn hp

end SpecDraft

end PracticeForge
