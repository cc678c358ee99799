import PracticeForge.Proofs.Spec.Fields
import PracticeForge.Chat.Negotiation

/-!
# Proofs/Chat/Apply — what writing checked values does to a draft

`applyValues` takes values by field name.  Given the JSON form of clean values, it writes them
and, on its own, at most two more: the agreed plan rescaled to a new count that comes without
a plan, and the default constraints of a new language that comes without constraints, when
the agreed constraints are absent or the old language's default.  `applyValues_eq_merge` says
so, and that nothing fails before the merge; `applyValues_ok` writes out the draft that results
as `writeAll`, and `applyValues_succeeds` says there always is one.
-/

namespace PracticeForge

theorem SpecField.name_inj {f g : SpecField} : f.name = g.name ↔ f = g := by
  cases f <;> cases g <;> decide

/-! ## Clean values by name -/

namespace SpecDraft

variable {vals : List (SpecField × SpecValue)} {f : SpecField}

theorem lookup_encode_of_mem (hk : (vals.map (·.1)).Nodup) {v : SpecValue} (hm : (f, v) ∈ vals) :
    Json.lookup (encode vals) f.name = some v.toJson := by
  induction vals with
  | nil => cases hm
  | cons e vals ih =>
    simp only [List.map_cons, List.nodup_cons] at hk
    rw [encode, List.map_cons, Json.lookup_cons]
    rcases List.mem_cons.1 hm with rfl | hm
    · simp
    · have hne : e.1 ≠ f := fun h => hk.1 (h ▸ List.mem_map_of_mem (f := (·.1)) hm)
      rw [if_neg fun h => hne (SpecField.name_inj.1 h)]
      exact ih hk.2 hm

theorem lookup_encode_of_not_mem (h : f ∉ vals.map (·.1)) : Json.lookup (encode vals) f.name = none := by
  apply Json.lookup_eq_none
  simp only [encode, List.any_map, List.any_eq_false, Function.comp_apply, beq_iff_eq,
    SpecField.name_inj]
  intro e he hef
  exact h (hef ▸ List.mem_map_of_mem he)

theorem lookup_encode_eq_some (hk : (vals.map (·.1)).Nodup) {j : Json}
    (h : Json.lookup (encode vals) f.name = some j) : ∃ v, (f, v) ∈ vals ∧ j = v.toJson := by
  by_cases hf : f ∈ vals.map (·.1)
  · obtain ⟨⟨f', v⟩, hm, rfl⟩ := List.mem_map.1 hf
    rw [lookup_encode_of_mem hk hm, Option.some.injEq] at h
    exact ⟨v, hm, h.symm⟩
  · rw [lookup_encode_of_not_mem hf] at h
    cases h

end SpecDraft

/-! ## What `applyValues` adds -/

namespace Negotiation

open SpecDraft

/-- A value `applyValues` writes besides the values `vals` it is given. -/
inductive Implied (s : SpecDraft) (vals : List (SpecField × SpecValue)) :
    SpecField × SpecValue → Prop
  /-- The agreed plan, rescaled to a new count that comes without a plan. -/
  | rescaled {n : Nat} {p q : List DifficultyCount} : (.problemCount, .count n) ∈ vals →
      .difficultyPlan ∉ vals.map (·.1) → s.difficultyPlan = some p → p ≠ [] → planTotal p ≠ n →
      rescalePlan p n = .ok q → Implied s vals (.difficultyPlan, .plan q)
  /-- The default constraints of a new language that comes without constraints, when the
  agreed ones are absent or the old language's default. -/
  | defaulted {l : Language} : (.language, .language l) ∈ vals → .constraints ∉ vals.map (·.1) →
      (s.constraints = none ∨ s.constraints = s.language.map Language.defaultConstraints) →
      Implied s vals (.constraints, .text l.defaultConstraints)

variable {s s' : SpecDraft} {vals : List (SpecField × SpecValue)}

theorem Implied.fits {e : SpecField × SpecValue} (h : Implied s vals e) : e.2.fits e.1 := by
  cases h <;> rfl

theorem Implied.not_mem {e : SpecField × SpecValue} (h : Implied s vals e) : e.1 ∉ vals.map (·.1) := by
  cases h <;> assumption

theorem implied_rescaled (hc : ∀ e ∈ vals, e.2.Clean e.1) (hk : (vals.map (·.1)).Nodup) {n : Int}
    {plan q : List DifficultyCount} (hn : Json.lookup (encode vals) "problem_count" = some (.int n))
    (hp : s.difficultyPlan = some plan)
    (hcond : (!(Json.lookup (encode vals) "difficulty_plan").isSome && !plan.isEmpty &&
      decide ((planTotal plan : Int) ≠ n)) = true)
    (hq : rescalePlan plan n = .ok q) : Implied s vals (.difficultyPlan, .plan q) := by
  obtain ⟨v, hv, hj⟩ := lookup_encode_eq_some (f := .problemCount) hk hn
  -- the count is a clean count, so its JSON form is the number itself
  have hvc := hc _ hv
  cases v <;> simp only [SpecValue.Clean] at hvc
  next m =>
  simp only [SpecValue.toJson, Json.int.injEq] at hj
  subst hj
  simp only [Bool.and_eq_true, Bool.not_eq_true', Option.isSome_eq_false_iff, Option.isNone_iff_eq_none,
    List.isEmpty_eq_false_iff, decide_eq_true_eq, ne_eq, Nat.cast_inj] at hcond
  obtain ⟨⟨hplan, hne⟩, htot⟩ := hcond
  refine .rescaled hv ?_ hp hne htot hq
  intro hmem
  obtain ⟨⟨f, w⟩, hw, hf⟩ := List.mem_map.1 hmem
  simp only at hf
  subst hf
  have := lookup_encode_of_mem hk hw
  simp only [SpecField.name] at this
  rw [this] at hplan
  cases hplan

/-- A language given among clean values reads back as that language. -/
theorem lookup_language (hc : ∀ e ∈ vals, e.2.Clean e.1) (hk : (vals.map (·.1)).Nodup) {lang : Json}
    (hl : Json.lookup (encode vals) "language" = some lang) :
    ∃ l, (.language, .language l) ∈ vals ∧ lang.getStr?.bind Language.ofId? = some l := by
  obtain ⟨v, hv, rfl⟩ := lookup_encode_eq_some (f := .language) hk hl
  have hvc := hc _ hv
  cases v <;> simp only [SpecValue.Clean] at hvc
  next l => exact ⟨l, hv, by simp [SpecValue.toJson, Json.getStr?]⟩

theorem implied_defaulted (hk : (vals.map (·.1)).Nodup) {lang : Json} {l : Language}
    (hm : (.language, .language l) ∈ vals)
    (hcond : (lang.truthy && !(Json.lookup (encode vals) "constraints").isSome &&
      (s.constraints.isNone || s.constraints == s.language.map Language.defaultConstraints)) = true) :
    Implied s vals (.constraints, .text l.defaultConstraints) := by
  simp only [Bool.and_eq_true, Bool.not_eq_true', Option.isSome_eq_false_iff, Option.isNone_iff_eq_none,
    Bool.or_eq_true, beq_iff_eq] at hcond
  obtain ⟨⟨-, hcons⟩, hs⟩ := hcond
  refine .defaulted hm ?_ hs
  intro hmem
  obtain ⟨⟨f, w⟩, hw, hf⟩ := List.mem_map.1 hmem
  simp only at hf
  subst hf
  have := lookup_encode_of_mem hk hw
  simp only [SpecField.name] at this
  rw [this] at hcons
  cases hcons

/-- A count given without a plan, against an agreed non-empty plan of another total: the case
in which `applyValues` rescales the agreed plan. -/
def RescaleDue (s : SpecDraft) (vals : List (SpecField × SpecValue)) : Prop :=
  ∃ n p, (.problemCount, .count n) ∈ vals ∧ .difficultyPlan ∉ vals.map (·.1) ∧
    s.difficultyPlan = some p ∧ p ≠ [] ∧ planTotal p ≠ n

theorem RescaleDue.lookup (hk : (vals.map (·.1)).Nodup) {n : Nat} {p : List DifficultyCount}
    (hm : (.problemCount, .count n) ∈ vals) (hplan : .difficultyPlan ∉ vals.map (·.1))
    (hne : p ≠ []) (htot : planTotal p ≠ n) :
    Json.lookup (encode vals) "problem_count" = some (.int n) ∧
      (!(Json.lookup (encode vals) "difficulty_plan").isSome && !p.isEmpty &&
        decide ((planTotal p : Int) ≠ n)) = true := by
  refine ⟨lookup_encode_of_mem hk hm, ?_⟩
  have hnone := lookup_encode_of_not_mem hplan
  simp only [SpecField.name] at hnone
  simp [hnone, hne, htot]

theorem not_rescaleDue_of_cond (hk : (vals.map (·.1)).Nodup) {n : Int} {plan : List DifficultyCount}
    (hn : Json.lookup (encode vals) "problem_count" = some (.int n))
    (hp : s.difficultyPlan = some plan)
    (hr : ¬(!(Json.lookup (encode vals) "difficulty_plan").isSome && !plan.isEmpty &&
      decide ((planTotal plan : Int) ≠ n)) = true) : ¬RescaleDue s vals := by
  rintro ⟨m, p, hm, hplan, hp', hne, htot⟩
  obtain ⟨hn', hcond⟩ := RescaleDue.lookup hk hm hplan hne htot
  rw [hn, Option.some.injEq, Json.int.injEq] at hn'
  rw [hp, Option.some.injEq] at hp'
  subst hn' hp'
  exact hr hcond

theorem not_rescaleDue_of_miss (hk : (vals.map (·.1)).Nodup)
    (hmiss : ∀ (n : Int) (plan : List DifficultyCount),
      Json.lookup (encode vals) "problem_count" = some (.int n) → s.difficultyPlan = some plan → False) :
    ¬RescaleDue s vals := by
  rintro ⟨m, p, hm, hplan, hp, hne, htot⟩
  exact hmiss m p (RescaleDue.lookup hk hm hplan hne htot).1 hp

/-- The values `applyValues` writes, the given ones first, have one field each. -/
theorem keys_nodup_of_implied (hk : (vals.map (·.1)).Nodup) {extra : List (SpecField × SpecValue)}
    (hx : ∀ e ∈ extra, Implied s vals e) (hxk : (extra.map (·.1)).Nodup) :
    ((vals ++ extra).map (·.1)).Nodup := by
  rw [List.map_append, List.nodup_append]
  refine ⟨hk, hxk, ?_⟩
  intro a ha b hb hab
  obtain ⟨e, he, rfl⟩ := List.mem_map.1 hb
  exact (hx e he).not_mem (hab ▸ ha)

/-- **`applyValues` as one merge.**  Given the JSON form of clean values with one value per
field, `applyValues` merges them with the values they imply, and it never fails before the
merge: a rescale is only due for a clean count, which is at most `maxProblems`, and a language
among clean values is a known one. -/
theorem applyValues_eq_merge (hc : ∀ e ∈ vals, e.2.Clean e.1) (hk : (vals.map (·.1)).Nodup) :
    ∃ extra, (∀ e ∈ extra, Implied s vals e) ∧ (extra.map (·.1)).Nodup ∧
      (RescaleDue s vals → .difficultyPlan ∈ extra.map (·.1)) ∧
      applyValues s (encode vals) = (s.merge (encode vals ++ encode extra)).mapError Failure.invalid := by
  -- a count among clean values is at most `maxProblems`, so rescaling to it never fails
  have hscale : ∀ n plan, Json.lookup (encode vals) "problem_count" = some (.int n) →
      ∃ q, rescalePlan plan n = .ok q := by
    intro n plan hn
    obtain ⟨v, hv, hj⟩ := lookup_encode_eq_some (f := .problemCount) hk hn
    have hvc := hc _ hv
    cases v <;> simp only [SpecValue.Clean] at hvc
    next m =>
    simp only [SpecValue.toJson, Json.int.injEq] at hj
    subst hj
    exact rescalePlan_succeeds plan hvc.2
  unfold applyValues
  dsimp only
  -- the constraints step comes after every way through the plan step, so it is settled first
  rcases hl : Json.lookup (encode vals) "language" with _ | lang
  case some =>
    obtain ⟨l, hlm, hid⟩ := lookup_language hc hk hl
    by_cases hcond : (lang.truthy && !(Json.lookup (encode vals) "constraints").isSome &&
      (s.constraints.isNone || s.constraints == s.language.map Language.defaultConstraints)) = true
    case pos =>
      have hd := implied_defaulted hk hlm hcond
      simp only [hcond, hid, if_true, pure_bind]
      split
      · next n plan hn hp =>
        split
        · next hr =>
          obtain ⟨q, hq⟩ := hscale n plan hn
          refine ⟨[(.difficultyPlan, .plan q), (.constraints, .text l.defaultConstraints)],
            by simpa using ⟨implied_rescaled hc hk hn hp hr hq, hd⟩, by simp, fun _ => by simp, ?_⟩
          rw [hq]
          simp only [bind, Except.bind, List.append_assoc]
          rfl
        · next hr =>
          exact ⟨[(.constraints, .text l.defaultConstraints)], by simpa using hd, by simp,
            fun hdue => absurd hdue (not_rescaleDue_of_cond hk hn hp hr), rfl⟩
      · next hmiss =>
        exact ⟨[(.constraints, .text l.defaultConstraints)], by simpa using hd, by simp,
          fun hdue => absurd hdue (not_rescaleDue_of_miss hk hmiss), rfl⟩
    case neg =>
      simp only [hcond, Bool.false_eq_true, if_false, pure_bind]
      split
      · next n plan hn hp =>
        split
        · next hr =>
          obtain ⟨q, hq⟩ := hscale n plan hn
          refine ⟨[(.difficultyPlan, .plan q)], by simpa using implied_rescaled hc hk hn hp hr hq,
            by simp, fun _ => by simp, ?_⟩
          rw [hq]
          rfl
        · next hr =>
          exact ⟨[], by simp, by simp, fun hdue => absurd hdue (not_rescaleDue_of_cond hk hn hp hr),
            by rw [encode_nil, List.append_nil]⟩
      · next hmiss =>
        exact ⟨[], by simp, by simp, fun hdue => absurd hdue (not_rescaleDue_of_miss hk hmiss),
          by rw [encode_nil, List.append_nil]⟩
  case none =>
    simp only [pure_bind]
    split
    · next n plan hn hp =>
      split
      · next hr =>
        obtain ⟨q, hq⟩ := hscale n plan hn
        refine ⟨[(.difficultyPlan, .plan q)], by simpa using implied_rescaled hc hk hn hp hr hq,
          by simp, fun _ => by simp, ?_⟩
        rw [hq]
        rfl
      · next hr =>
        exact ⟨[], by simp, by simp, fun hdue => absurd hdue (not_rescaleDue_of_cond hk hn hp hr),
          by rw [encode_nil, List.append_nil]⟩
    · next hmiss =>
      exact ⟨[], by simp, by simp, fun hdue => absurd hdue (not_rescaleDue_of_miss hk hmiss),
        by rw [encode_nil, List.append_nil]⟩

/-- The given values and the implied ones fit their fields, so merging them succeeds. -/
theorem merge_implied_ok {extra : List (SpecField × SpecValue)} (hc : ∀ e ∈ vals, e.2.Clean e.1)
    (hx : ∀ e ∈ extra, Implied s vals e) :
    (s.merge (encode vals ++ encode extra)).mapError Failure.invalid = .ok (s.writeAll (vals ++ extra)) := by
  have hfits : ∀ e ∈ vals ++ extra, e.2.fits e.1 := by
    intro e he
    rcases List.mem_append.1 he with he | he
    · exact (hc e he).fits
    · exact (hx e he).fits
  rw [← encode_append, merge_encode s _ hfits]
  rfl

/-- **Applying clean values.**  `applyValues`, given the JSON form of clean values with one
value per field, writes them and the values they imply, and nothing else; when a rescale is due,
the rescaled plan is among them. -/
theorem applyValues_ok (hc : ∀ e ∈ vals, e.2.Clean e.1) (hk : (vals.map (·.1)).Nodup)
    (h : applyValues s (encode vals) = .ok s') :
    ∃ extra, (∀ e ∈ extra, Implied s vals e) ∧ ((vals ++ extra).map (·.1)).Nodup ∧
      (RescaleDue s vals → .difficultyPlan ∈ extra.map (·.1)) ∧ s' = s.writeAll (vals ++ extra) := by
  obtain ⟨extra, hx, hxk, hdue, heq⟩ := applyValues_eq_merge (s := s) hc hk
  rw [heq, merge_implied_ok hc hx, Except.ok.injEq] at h
  exact ⟨extra, hx, keys_nodup_of_implied hk hx hxk, hdue, h.symm⟩

/-- Clean values, one per field, are always applied. -/
theorem applyValues_succeeds (hc : ∀ e ∈ vals, e.2.Clean e.1) (hk : (vals.map (·.1)).Nodup) :
    ∃ s', applyValues s (encode vals) = .ok s' := by
  obtain ⟨extra, hx, -, -, heq⟩ := applyValues_eq_merge (s := s) hc hk
  exact ⟨_, heq.trans (merge_implied_ok hc hx)⟩

end Negotiation

end PracticeForge
