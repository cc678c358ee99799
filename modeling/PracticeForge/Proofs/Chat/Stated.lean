import PracticeForge.Proofs.Chat.Shorthand
import PracticeForge.Proofs.Spec.Recheck

/-!
# Proofs/Chat/Stated — a reading is faithful to its message

What the shorthand reads from a message, it reads faithfully (`Shorthand.read_faithful`): the
count asked for is the count the message states, or else the sum of the numbers of its pairs like
`3 easy`; a stated count is that count cut to `maxProblems`; a plan comes with the count, lists
each difficulty once, easiest first, and adds up to the count; a count put off was above the
maximum; and the stated values, checked as a proposal, are valid as stated.

All but one thing: a pair whose word matches `easy`, `medium` or `hard` only with case ignored,
such as `eaſy` with a long `s`, is counted but names no difficulty, and a message made of such
pairs states a count with an empty plan, which the plan rule refuses
(`Shorthand.read_long_s_faithful`).

The steps: the pair totals add up to the numbers read (`pairTotals_sum`), the plan and count
built from them (`planAndCount_ok`), the count added last (`withCount_cases`), with rescaling
exact for plans of any total (`rescalePlan_cases`), and the stated values checked
(`verdict_values`).
-/

namespace PracticeForge

namespace Shorthand

/-! ## Adding up the pairs -/

/-- Adds `n` under the word `d`, in place or as a new last entry: one step of `pairTotals`. -/
def addTo (acc : List (String × Nat)) (d : String) (n : Nat) : List (String × Nat) :=
  match acc.find? (·.1 == d) with
  | some _ => acc.map fun e => if e.1 == d then (d, e.2 + n) else e
  | none => acc ++ [(d, n)]

theorem pairTotals_eq (text : Array Char) :
    pairTotals text = (pairRe.findAll text).foldlM (fun acc m =>
      tokenValue (m.group text 1) >>= fun n => pure (addTo acc (Text.lower (m.group text 2)) n)) [] :=
  rfl

theorem sum_map_addTo {acc : List (String × Nat)} {d : String} (n : Nat)
    (hk : (acc.map (·.1)).Nodup) (hd : d ∈ acc.map (·.1)) :
    ((acc.map fun e => if e.1 == d then (d, e.2 + n) else e).map (·.2)).sum = (acc.map (·.2)).sum + n := by
  induction acc with
  | nil => simp at hd
  | cons x acc ih =>
    obtain ⟨hx, hk⟩ := List.nodup_cons.1 hk
    simp only at hx
    by_cases hxd : x.1 = d
    · -- the only entry under `d`; the others stay as they are
      have hrest : (acc.map fun e => if e.1 == d then (d, e.2 + n) else e) = acc := by
        refine (List.map_congr_left fun e he => ?_).trans (List.map_id acc)
        have hne : e.1 ≠ d := by
          rintro h
          exact hx (by rw [hxd, ← h]; exact List.mem_map_of_mem he)
        simp [hne]
      rw [List.map_cons, hrest, if_pos (by simp [hxd])]
      simp only [List.map_cons, List.sum_cons]
      omega
    · have hd' : d ∈ acc.map (·.1) := by simpa [Ne.symm hxd] using hd
      rw [List.map_cons, if_neg (by simp [hxd]), List.map_cons, List.sum_cons, ih hk hd']
      simp only [List.map_cons, List.sum_cons]
      omega

theorem addTo_spec {acc : List (String × Nat)} (hk : (acc.map (·.1)).Nodup) (d : String) (n : Nat) :
    ((addTo acc d n).map (·.1)).Nodup ∧ ((addTo acc d n).map (·.2)).sum = (acc.map (·.2)).sum + n := by
  unfold addTo
  split
  · next e he =>
    have hd : d ∈ acc.map (·.1) :=
      List.mem_map.2 ⟨e, List.mem_of_find?_eq_some he, by simpa using List.find?_some he⟩
    refine ⟨?_, sum_map_addTo n hk hd⟩
    have hkeys : (acc.map fun e => if e.1 == d then (d, e.2 + n) else e).map (·.1) = acc.map (·.1) := by
      rw [List.map_map]
      congr 1
      funext e
      by_cases h : e.1 = d <;> simp [h]
    rw [hkeys]
    exact hk
  · next hnone =>
    have hd : d ∉ acc.map (·.1) := by
      simp only [List.mem_map, not_exists, not_and]
      intro e he hed
      exact absurd (List.find?_eq_none.1 hnone e he) (by simp [hed])
    refine ⟨?_, by simp⟩
    rw [List.map_append]
    exact List.nodup_append_comm.1 (List.nodup_cons.2 ⟨hd, hk⟩)

/-- Adding up numbers under their words, the totals add up to the sum of the numbers read. -/
theorem foldlM_addTo {γ ε : Type} (tv : γ → Except ε Nat) (key : γ → String) :
    ∀ (ms : List γ) {acc r : List (String × Nat)}, (acc.map (·.1)).Nodup →
      ms.foldlM (fun acc m => tv m >>= fun n => pure (addTo acc (key m) n)) acc = .ok r →
      ∃ ns, ms.mapM tv = .ok ns ∧ (r.map (·.2)).sum = (acc.map (·.2)).sum + ns.sum
  | [], acc, r, _, h => by
    rw [List.foldlM_nil, Except.pure_eq_ok] at h
    subst h
    exact ⟨[], rfl, by simp⟩
  | m :: ms, acc, r, hk, h => by
    rw [List.foldlM_cons] at h
    obtain ⟨acc', hstep, h⟩ := Except.bind_eq_ok.1 h
    obtain ⟨n, hn, hacc⟩ := Except.bind_eq_ok.1 hstep
    rw [Except.pure_eq_ok] at hacc
    subst hacc
    obtain ⟨hk', hsum'⟩ := addTo_spec hk (key m) n
    obtain ⟨ns, hns, hsum⟩ := foldlM_addTo tv key ms hk' h
    refine ⟨n :: ns, ?_, ?_⟩
    · rw [List.mapM_cons, hn, hns]
      rfl
    · rw [hsum, hsum', List.sum_cons]
      omega

/-- **The pairs add up.**  The totals per difficulty word add up to the sum of the numbers of all
the pairs of a text. -/
theorem pairTotals_sum {text : Array Char} {totals : List (String × Nat)}
    (h : pairTotals text = .ok totals) :
    ∃ ns, (pairRe.findAll text).mapM (fun m => tokenValue (m.group text 1)) = .ok ns ∧
      (totals.map (·.2)).sum = ns.sum := by
  rw [pairTotals_eq] at h
  obtain ⟨ns, hns, hsum⟩ := @foldlM_addTo _ _ _ _ _ [] _ List.nodup_nil h
  exact ⟨ns, hns, by simpa using hsum⟩

/-- Dropping the zero totals keeps the sum. -/
theorem sum_filter_pos (l : List (String × Nat)) :
    ((l.filter (0 < ·.2)).map (·.2)).sum = (l.map (·.2)).sum := by
  induction l with
  | nil => rfl
  | cons e l ih =>
    rw [List.filter_cons]
    by_cases he : 0 < e.2
    · simp [he, ih]
    · simp [he, ih]
      omega

/-! ## The plan and the count -/

/-- The plan built from pair totals lists each difficulty once, easiest first. -/
theorem pairPlan_sorted (pairs : List (String × Nat)) :
    PlanSorted (Difficulty.all.filterMap fun d =>
      match pairs.find? (·.1 == d.id) with
      | some (_, n) => if h : 0 < n then some ⟨d, n, h⟩ else none
      | none => none) := by
  refine List.Pairwise.filterMap _ ?_ (by decide : Difficulty.all.Pairwise (·.rank < ·.rank))
  -- an entry built for a difficulty has that difficulty
  have hkey : ∀ d (x : DifficultyCount), (match pairs.find? (·.1 == d.id) with
      | some (_, n) => if h : 0 < n then some ⟨d, n, h⟩ else none
      | none => none) = some x → x.difficulty = d := by
    intro d x hx
    split at hx
    · split at hx
      · cases hx; rfl
      · cases hx
    · cases hx
  intro a b hab x hx y hy
  rw [hkey a x hx, hkey b y hy]
  exact hab

/-- **The plan and the count a text states.**  The count is the stated one, or, with pairs, the
stated one or else the sum of the pairs; a plan lists its difficulties once each, easiest
first. -/
theorem planAndCount_ok {text : Array Char} {stated : Option Nat} {pairs : List (String × Nat)}
    {plan : Option (List DifficultyCount)} {count : Option Nat}
    (h : planAndCount text stated pairs = .ok (plan, count)) :
    count = (if pairs.isEmpty then stated else some (stated.getD (pairs.map (·.2)).sum)) ∧
      ∀ p, plan = some p → PlanSorted p := by
  unfold planAndCount at h
  split at h
  · next hemp =>
    rw [if_pos hemp]
    dsimp only at h
    split at h
    · next n =>
      split at h
      · split at h
        · rw [Except.pure_eq_ok, Prod.mk.injEq] at h
          obtain ⟨rfl, rfl⟩ := h
          exact ⟨rfl, by rintro p ⟨⟩; exact List.pairwise_singleton _ _⟩
        · simp at h
      · rw [Except.pure_eq_ok, Prod.mk.injEq] at h
        obtain ⟨rfl, rfl⟩ := h
        exact ⟨rfl, by rintro p ⟨⟩⟩
    · rw [Except.pure_eq_ok, Prod.mk.injEq] at h
      obtain ⟨rfl, rfl⟩ := h
      exact ⟨rfl, by rintro p ⟨⟩⟩
  · next hemp =>
    rw [if_neg hemp]
    rw [Except.pure_eq_ok, Prod.mk.injEq] at h
    obtain ⟨rfl, rfl⟩ := h
    exact ⟨rfl, by rintro p ⟨⟩; exact pairPlan_sorted pairs⟩

/-! ## The stated values, checked -/

/-- **The stated values pass their own checks**: a stated language, style and count within bounds
are valid as stated, and so is a clean plan; an empty plan is refused. -/
theorem verdict_values (sh : Shorthand) :
    (∀ l, sh.language = some l → Patch.verdict sh.values .language = .valid (.language l)) ∧
    (∀ s, sh.problemStyle = some s → Patch.verdict sh.values .problemStyle = .valid (.style s)) ∧
    (∀ n, sh.problemCount = some n → minProblems ≤ n → n ≤ maxProblems →
      Patch.verdict sh.values .problemCount = .valid (.count n)) ∧
    (∀ p, sh.difficultyPlan = some p → PlanOk p →
      Patch.verdict sh.values .difficultyPlan = .valid (.plan p)) ∧
    (sh.difficultyPlan = some [] →
      Patch.verdict sh.values .difficultyPlan = .invalid "difficulty_plan must not be empty") := by
  obtain ⟨hlang, hstyle, hplan⟩ := lookup_values_stated sh
  refine ⟨fun l hl => ?_, fun s hs => ?_, fun n hn h1 h7 => ?_, fun p hp hok => ?_, fun hp => ?_⟩
  · rw [Patch.verdict, show SpecField.language.name = "language" from rfl, hlang, hl]
    simp [Patch.rule]
  · rw [Patch.verdict, show SpecField.problemStyle.name = "problem_style" from rfl, hstyle, hs]
    simp [Patch.rule]
  · rw [Patch.verdict, show SpecField.problemCount.name = "problem_count" from rfl,
      lookup_values_count, hn]
    simp [Patch.rule, Patch.count_int h1 h7]
  · rw [Patch.verdict, show SpecField.difficultyPlan.name = "difficulty_plan" from rfl, hplan, hp]
    simp [Patch.rule, Patch.plan_self hok]
  · rw [Patch.verdict, show SpecField.difficultyPlan.name = "difficulty_plan" from rfl, hplan, hp]
    simp [Patch.rule, Patch.plan, Patch.planItems]
    rfl

/-- The checks of the stated values, for a count within bounds and a plan that is clean and adds
up to it whenever it is not empty. -/
theorem checked_values {r : Shorthand}
    (hc : ∀ n, r.problemCount = some n → minProblems ≤ n ∧ n ≤ maxProblems)
    (hp : ∀ p, r.difficultyPlan = some p → p ≠ [] →
      PlanOk p ∧ ∃ n, r.problemCount = some n ∧ planTotal p = n) (cur : Option SpecDraft) :
    (∀ l, r.language = some l → (checkPatch (.obj r.values) cur).get .language = .valid (.language l)) ∧
    (∀ s, r.problemStyle = some s →
      (checkPatch (.obj r.values) cur).get .problemStyle = .valid (.style s)) ∧
    (∀ n, r.problemCount = some n →
      (checkPatch (.obj r.values) cur).get .problemCount = .valid (.count n)) ∧
    (∀ p, r.difficultyPlan = some p → p ≠ [] →
      (checkPatch (.obj r.values) cur).get .difficultyPlan = .valid (.plan p)) ∧
    (r.difficultyPlan = some [] → (checkPatch (.obj r.values) cur).get .difficultyPlan =
      .invalid "difficulty_plan must not be empty") := by
  obtain ⟨hlang, hstyle, hcount, hplan, hempty⟩ := verdict_values r
  have hcount' : ∀ n, r.problemCount = some n →
      Patch.verdict r.values .problemCount = .valid (.count n) :=
    fun n hn => hcount n hn (hc n hn).1 (hc n hn).2
  refine ⟨fun l hl => ?_, fun s hs => ?_, fun n hn => ?_, fun p hp' hne => ?_,
    fun hp' => checkPatch_get_plan_invalid (hempty hp')⟩
  · rw [checkPatch_get_ne (by decide)]; exact hlang l hl
  · rw [checkPatch_get_ne (by decide)]; exact hstyle s hs
  · rw [checkPatch_get_ne (by decide)]; exact hcount' n hn
  · -- a plan that adds up to the count it comes with is held against it
    obtain ⟨hok, n, hn, htot⟩ := hp p hp' hne
    refine checkPatch_get_plan_iff.2 ⟨hplan p hp' hok, fun p' hpp => ?_⟩
    cases hpp
    refine ⟨fun n' hn' => ?_, fun hu => ?_⟩
    · rw [hcount' n hn] at hn'
      cases hn'
      exact htot
    · rw [hcount' n hn] at hu
      cases hu

/-! ## A reading -/

/-- What a reading states about the count and the plan, against the message it was read from. -/
structure Faithful (message : String) (r : Shorthand) : Prop where
  /-- The count asked for is the count the message states, or else the sum of its pairs. -/
  requested : ∀ rc, r.requestedCount = some rc → ∃ stated ns,
    statedCount message.toList.toArray = .ok stated ∧
    (pairRe.findAll message.toList.toArray).mapM
      (fun m => tokenValue (m.group message.toList.toArray 1)) = .ok ns ∧
    rc = stated.getD ns.sum
  /-- A stated count lies within bounds and is the count asked for, cut to the maximum. -/
  count : ∀ n, r.problemCount = some n → minProblems ≤ n ∧ n ≤ maxProblems ∧
    ∃ rc, r.requestedCount = some rc ∧ n = min rc maxProblems
  /-- A stated plan comes with a count, lists its difficulties once each, easiest first, and is
  empty or adds up to the count. -/
  plan : ∀ p, r.difficultyPlan = some p → ∃ n, r.problemCount = some n ∧ PlanSorted p ∧
    (p = [] ∨ planTotal p = n)
  /-- A count put off was above the maximum, and then neither a count nor a plan is stated. -/
  deferred : r.countDeferred = true → ∃ rc, r.requestedCount = some rc ∧ maxProblems < rc ∧
    r.problemCount = none ∧ r.difficultyPlan = none
  /-- Checked as a proposal, against any agreed draft, the stated language, style and count are
  valid as stated, and so is a stated plan unless it is empty, which is refused. -/
  checked : ∀ cur,
    (∀ l, r.language = some l → (checkPatch (.obj r.values) cur).get .language = .valid (.language l)) ∧
    (∀ s, r.problemStyle = some s →
      (checkPatch (.obj r.values) cur).get .problemStyle = .valid (.style s)) ∧
    (∀ n, r.problemCount = some n →
      (checkPatch (.obj r.values) cur).get .problemCount = .valid (.count n)) ∧
    (∀ p, r.difficultyPlan = some p → p ≠ [] →
      (checkPatch (.obj r.values) cur).get .difficultyPlan = .valid (.plan p)) ∧
    (r.difficultyPlan = some [] → (checkPatch (.obj r.values) cur).get .difficultyPlan =
      .invalid "difficulty_plan must not be empty")

/-- **A reading is faithful to its message.**  Whatever a message says, when its values can be
read, the count asked for is the count it states or else the sum of its pairs; a stated count is
that, cut to `maxProblems`; a stated plan comes with the count, lists its difficulties once each,
easiest first, and is empty or adds up to the count; a count put off was above the maximum and
states nothing; and checked as a proposal, every stated value is valid as stated, but an empty
plan. -/
theorem read_faithful {m : String} {r : Shorthand} (h : read m = .ok r) : r.Faithful m := by
  obtain ⟨base, stated, totals, plan, count, hc0, hp0, hd0, hr0, hst, htot, hpc, hw⟩ := read_ok h
  obtain ⟨hcount, hsorted⟩ := planAndCount_ok hpc
  -- whatever count there is, it is the stated one or else the sum of the pairs
  have hasked : ∀ c, count = some c → ∃ stated ns,
      statedCount m.toList.toArray = .ok stated ∧
      (pairRe.findAll m.toList.toArray).mapM
        (fun x => tokenValue (x.group m.toList.toArray 1)) = .ok ns ∧
      c = stated.getD ns.sum := by
    intro c hc
    obtain ⟨ns, hns, hsum⟩ := pairTotals_sum htot
    refine ⟨stated, ns, hst, hns, ?_⟩
    rw [hcount] at hc
    split at hc
    · rw [hc]
      rfl
    · rw [← hsum, ← sum_filter_pos]
      exact (Option.some.inj hc).symm
  rcases withCount_cases hw with ⟨rfl, -⟩ | ⟨c, hc, hmax, -, rfl⟩ | ⟨c, q, hc, hmin, rfl, hnone, hsome⟩
  · -- nothing about the count is stated
    exact ⟨by simp [hr0], by simp [hc0], by simp [hp0], by simp [hd0],
      checked_values (by simp [hc0]) (by simp [hp0])⟩
  · -- the count is put off
    refine ⟨fun rc hrc => ?_, by simp [hc0], by simp [hp0], fun _ => ⟨c, rfl, hmax, hc0, hp0⟩,
      checked_values (by simp [hc0]) (by simp [hp0])⟩
    cases hrc
    exact hasked c hc
  · -- the count is stated, cut to the maximum, and the plan rescaled to it
    have hcut : minProblems ≤ min c maxProblems ∧ min c maxProblems ≤ maxProblems := by
      simp only [minProblems, maxProblems] at hmin ⊢
      omega
    have hq : ∀ p, q = some p → PlanSorted p ∧
        (p = [] ∨ PlanOk p ∧ planTotal p = min c maxProblems) := by
      intro p hp
      cases hpl : plan with
      | none => rw [hnone hpl] at hp; cases hp
      | some p0 =>
        obtain ⟨q', hq', hres⟩ := hsome p0 hpl
        rw [hp, Option.some.injEq] at hq'
        subst hq'
        -- a plan made of pairs that name no difficulty stays empty
        rcases rescalePlan_cases (hsorted p0 hpl) hcut.1 hcut.2 hres with ⟨-, rfl⟩ | ⟨hok, htot'⟩
        · exact ⟨List.Pairwise.nil, .inl rfl⟩
        · exact ⟨hok.sorted, .inr ⟨hok, htot'⟩⟩
    refine ⟨fun rc hrc => ?_, fun n hn => ?_, fun p hp => ?_, fun hd => ?_,
      checked_values (fun n hn => ?_) (fun p hp hne => ?_)⟩
    · cases hrc
      exact hasked c hc
    · cases hn
      exact ⟨hcut.1, hcut.2, c, rfl, rfl⟩
    · obtain ⟨hs, hp'⟩ := hq p hp
      exact ⟨_, rfl, hs, hp'.imp_right fun h => h.2⟩
    · rw [hd0] at hd
      cases hd
    · cases hn
      exact hcut
    · obtain ⟨_, hp'⟩ := hq p hp
      obtain ⟨hok, htot'⟩ := hp'.resolve_left hne
      exact ⟨hok, _, rfl, htot'⟩

/-- Read from `3 eaſy`, with a long `s`, a message asks for three problems with an empty plan:
the word matches `easy` with case ignored, so the pair counts, but names no difficulty. -/
theorem read_long_s_faithful :
    ∃ r, read "3 eaſy" = .ok r ∧ r.Faithful "3 eaſy" ∧ r.problemCount = some 3 ∧
      r.difficultyPlan = some [] := by
  have hrun : (match read "3 eaſy" with
      | .ok r => r.problemCount == some 3 && r.difficultyPlan == some []
      | .error _ => false) = true := by
    decide +kernel
  generalize hout : read "3 eaſy" = o at hrun
  cases o with
  | error e => cases hrun
  | ok r =>
    simp only [Bool.and_eq_true, beq_iff_eq] at hrun
    exact ⟨r, rfl, read_faithful hout, hrun.1, hrun.2⟩

end Shorthand

end PracticeForge
