import PracticeForge.Proofs.Chat.Gate

/-!
# Proofs/Chat/Shorthand — the count a message states

Whatever a message says, the values its shorthand states keep the count and the plan together:
a stated count lies between one and `maxProblems`, a stated plan always comes with a stated
count, and a count put off states neither (`Shorthand.read_wellCounted`).  What adding the count
can do is said once (`Shorthand.withCount_cases`), and a reading is taken apart into its steps
once (`Shorthand.read_ok`).  The stated values, laid over a proposal, decide the proposal's count
(`Shorthand.lookup_values_count`).
-/

namespace PracticeForge

namespace Shorthand

/-- The count a reading states is within bounds, comes with any plan it states, and is absent
when the count was put off. -/
structure WellCounted (sh : Shorthand) : Prop where
  count_le : ∀ n, sh.problemCount = some n → minProblems ≤ n ∧ n ≤ maxProblems
  plan_count : sh.difficultyPlan.isSome → sh.problemCount.isSome
  deferred : sh.countDeferred = true → sh.problemCount = none ∧ sh.difficultyPlan = none

/-- **Adding a count.**  A count below the minimum adds nothing; one above the maximum that comes
without a plan is put off; any other is stated cut to the maximum, with the plan rescaled to it. -/
theorem withCount_cases {base r : Shorthand} {plan : Option (List DifficultyCount)}
    {count : Option Nat} (h : base.withCount plan count = .ok r) :
    (r = base ∧ ∀ c, count = some c → c < minProblems) ∨
    (∃ c, count = some c ∧ maxProblems < c ∧ plan = none ∧
      r = { base with requestedCount := some c, countDeferred := true }) ∨
    (∃ c q, count = some c ∧ minProblems ≤ c ∧
      r = { base with
        requestedCount := some c, problemCount := some (min c maxProblems), difficultyPlan := q } ∧
      (plan = none → q = none) ∧
      ∀ p, plan = some p → ∃ q', q = some q' ∧ rescalePlan p (min c maxProblems : Nat) = .ok q') := by
  unfold withCount at h
  split at h
  · rw [Except.pure_eq_ok] at h
    exact .inl ⟨h.symm, by simp⟩
  · next c =>
    split at h
    · next hmin =>
      rw [Except.pure_eq_ok] at h
      exact .inl ⟨h.symm, fun c' hc => by cases hc; omega⟩
    · next hmin =>
      dsimp only at h
      split at h
      · next hdef =>
        rw [Except.pure_eq_ok] at h
        exact .inr (.inl ⟨c, rfl, hdef.1, Option.isNone_iff_eq_none.1 hdef.2, h.symm⟩)
      · -- the count is cut to the maximum, and any plan is rescaled to it
        refine .inr (.inr ?_)
        split at h
        · next p =>
          obtain ⟨q, hq, h⟩ := Except.bind_eq_ok.1 h
          obtain ⟨q', hq', rfl⟩ := Except.map_eq_ok.1 hq
          rw [Except.pure_eq_ok] at h
          exact ⟨c, some q', rfl, by omega, h.symm, by simp, fun p' hp => by cases hp; exact ⟨q', rfl, hq'⟩⟩
        · rw [Except.bind_eq_ok] at h
          obtain ⟨q, hq, h⟩ := h
          rw [Except.pure_eq_ok] at hq h
          subst hq
          exact ⟨c, none, rfl, by omega, h.symm, fun _ => rfl, by simp⟩

/-- Adding a count to values that state none gives a well-counted reading. -/
theorem withCount_wellCounted {base sh : Shorthand} {plan : Option (List DifficultyCount)}
    {count : Option Nat} (hc : base.problemCount = none) (hp : base.difficultyPlan = none)
    (hd : base.countDeferred = false) (h : base.withCount plan count = .ok sh) : sh.WellCounted := by
  rcases withCount_cases h with ⟨rfl, -⟩ | ⟨c, -, -, -, rfl⟩ | ⟨c, q, -, hmin, rfl, -, -⟩
  · exact ⟨by simp [hc], by simp [hp], by simp [hd]⟩
  · exact ⟨by simp [hc], by simp [hp], fun _ => ⟨hc, hp⟩⟩
  · -- the count is cut to the maximum, and any plan comes with it
    have hcut : minProblems ≤ min c maxProblems ∧ min c maxProblems ≤ maxProblems := by
      simp only [minProblems, maxProblems] at hmin ⊢
      omega
    exact ⟨fun n hn => by cases hn; exact hcut, by simp, by simp [hd]⟩

/-- A reading is the values other than the count, a stated count, the pair totals, the plan and
count made of them, and the count added last. -/
theorem read_ok {m : String} {r : Shorthand} (h : read m = .ok r) :
    ∃ (base : Shorthand) (stated : Option Nat) (totals : List (String × Nat))
      (plan : Option (List DifficultyCount)) (count : Option Nat),
      base.problemCount = none ∧ base.difficultyPlan = none ∧ base.countDeferred = false ∧
      base.requestedCount = none ∧ statedCount m.toList.toArray = .ok stated ∧
      pairTotals m.toList.toArray = .ok totals ∧
      planAndCount m.toList.toArray stated (totals.filter (0 < ·.2)) = .ok (plan, count) ∧
      base.withCount plan count = .ok r := by
  unfold read at h
  obtain ⟨_, -, h⟩ := Except.bind_eq_ok.1 h
  obtain ⟨stated, hst, h⟩ := Except.bind_eq_ok.1 h
  obtain ⟨totals, htot, h⟩ := Except.bind_eq_ok.1 h
  obtain ⟨⟨plan, count⟩, hpc, h⟩ := Except.bind_eq_ok.1 h
  exact ⟨_, stated, totals, plan, count, rfl, rfl, rfl, rfl, hst, htot, hpc, h⟩

/-- **A reading is well counted.** -/
theorem read_wellCounted {m : String} {sh : Shorthand} (h : read m = .ok sh) : sh.WellCounted := by
  obtain ⟨_, _, _, _, _, hc, hp, hd, -, -, -, -, hw⟩ := read_ok h
  exact withCount_wellCounted hc hp hd hw

/-! ## The stated values -/

/-- An optional entry under a fixed key. -/
theorem lookup_toList_map {α : Type} (o : Option α) (k k' : String) (g : α → Json) :
    Json.lookup (o.map fun x => (k, g x)).toList k' = if k = k' then o.map g else none := by
  cases o <;> by_cases h : k = k' <;> simp [Json.lookup, h]

theorem values_keys_nodup (sh : Shorthand) : (sh.values.map (·.1)).Nodup := by
  have part : ∀ {α : Type} (o : Option α) (k : String) (g : α → Json),
      List.Sublist (((o.map fun x => (k, g x)).toList).map (·.1)) [k] := by
    intro α o k g
    cases o <;> simp
  refine List.Nodup.sublist ?_ (by decide : ["language", "problem_style", "topic_tags",
    "generation_focus", "problem_count", "difficulty_plan"].Nodup)
  simp only [values, List.map_append, List.append_assoc]
  exact (part _ _ _).append ((part _ _ _).append ((part _ _ _).append ((part _ _ _).append
    ((part _ _ _).append (part _ _ _)))))

theorem lookup_values_count (sh : Shorthand) :
    Json.lookup sh.values "problem_count" = sh.problemCount.map fun n => .int n := by
  simp only [values, Json.lookup_append, lookup_toList_map]
  cases sh.problemCount <;> simp

theorem lookup_values_stated (sh : Shorthand) :
    Json.lookup sh.values "language" = sh.language.map (fun l => .str l.id) ∧
    Json.lookup sh.values "problem_style" = sh.problemStyle.map (fun s => .str s.id) ∧
    Json.lookup sh.values "difficulty_plan" =
      sh.difficultyPlan.map (fun p => .arr (p.map DifficultyCount.toJson)) := by
  simp only [values, Json.lookup_append, lookup_toList_map]
  refine ⟨?_, ?_, ?_⟩ <;> simp

theorem mem_explicitFields_count (sh : Shorthand) :
    .problemCount ∈ sh.explicitFields ↔ sh.problemCount.isSome := by
  simp [explicitFields, List.mem_filterMap]

theorem mem_explicitFields_plan (sh : Shorthand) :
    .difficultyPlan ∈ sh.explicitFields ↔ sh.difficultyPlan.isSome := by
  simp [explicitFields, List.mem_filterMap]

end Shorthand

end PracticeForge
