import PracticeForge.Proofs.Spec.Patch
import PracticeForge.Proofs.Number.Nearest
import PracticeForge.Spec.Rescale

/-!
# Proofs/Spec/Rescale — a rescaled plan is a plan of the new total

Rescaling keeps the integer part of each difficulty's share and hands the units still missing
to the largest fractional parts.  The shares are doubles, but below eight a double's integer part
is the exact one, or one more only when the share lies within `2^-49` of the next integer
(`Binary64.ofRatio?_whole`).  For counts from one to `maxProblems` the integer parts therefore
still fall short of the target by fewer units than there are difficulties, whatever the plan's
total, so each bumped difficulty gets one unit and the counts add up to the target exactly.

* `rescalePlan_ok` — a sorted plan of positive total, rescaled, is a clean plan of the new count;
* `rescalePlan_succeeds` — rescaling to at most `maxProblems` never overflows.
-/

namespace PracticeForge

/-- A plan that is not empty asks for at least one problem: every count is positive. -/
theorem planTotal_pos {p : List DifficultyCount} (hp : p ≠ []) : 0 < planTotal p := by
  obtain ⟨x, p, rfl⟩ := List.exists_cons_of_ne_nil hp
  have := x.count_pos
  simp only [planTotal, List.map_cons, List.foldr_cons]
  omega

/-- A plan the rules keep asks for at least one problem. -/
theorem PlanOk.total_pos {p : List DifficultyCount} (hp : PlanOk p) : 0 < planTotal p :=
  planTotal_pos hp.ne_nil

namespace Rescale

/-! ## Shares -/

/-- The share of `m` of `T` units scaled to `t < 8` exists, and its integer part `w` keeps
`m * t / T` below `w + 1` and exceeds it by at most `2^-49`. -/
theorem share?_bounds (d : Difficulty) {m t T : Nat} (hm : m ≤ T) (ht : t < 8) (hT : 0 < T) :
    ∃ s, share? d m t T = some s ∧ s.difficulty = d ∧ m * t < T * (s.whole + 1) ∧
      2 ^ 49 * (T * s.whole) ≤ 2 ^ 49 * (m * t) + T := by
  have h8 : m * t < 8 * T :=
    calc m * t ≤ T * t := Nat.mul_le_mul_right t hm
      _ < T * 8 := Nat.mul_lt_mul_of_pos_left ht hT
      _ = 8 * T := Nat.mul_comm _ _
  obtain ⟨x, num, den, hx, hr, hlo, hhi⟩ := Binary64.ofRatio?_whole hT h8
  exact ⟨⟨d, num / den, num % den, den⟩, by simp [share?, hx, hr], rfl, hlo, hhi⟩

/-! ## Merged counts -/

theorem merged_keys_sublist (p : List DifficultyCount) :
    List.Sublist ((merged p).map (·.1)) Difficulty.all := by
  have hkeys : (Difficulty.all.map fun d => (d, planTotal (p.filter (·.difficulty == d)))).map (·.1) =
      Difficulty.all := by
    simp [List.map_map, Function.comp_def]
  rw [merged, ← hkeys]
  exact List.filter_sublist.map _

/-- Splitting a plan by difficulty keeps its total. -/
theorem planTotal_split (p : List DifficultyCount) :
    planTotal (p.filter (·.difficulty == .easy)) + planTotal (p.filter (·.difficulty == .medium)) +
      planTotal (p.filter (·.difficulty == .hard)) = planTotal p := by
  induction p with
  | nil => rfl
  | cons x p ih =>
    simp only [planTotal, List.filter_cons, List.map_cons, List.foldr_cons] at ih ⊢
    cases x.difficulty <;> simp <;> omega

theorem merged_total (p : List DifficultyCount) :
    ((merged p).map (·.2)).sum = planTotal p := by
  rw [← planTotal_split p]
  -- the filter drops only zero counts
  simp only [merged, Difficulty.all, List.map_cons, List.map_nil, List.filter_cons]
  split_ifs <;> simp_all [Nat.add_assoc]

/-- Each merged count is at most the plan's total. -/
theorem merged_le_total {p : List DifficultyCount} {e : Difficulty × Nat} (he : e ∈ merged p) :
    e.2 ≤ planTotal p :=
  calc e.2 ≤ ((merged p).map (·.2)).sum := List.le_sum_of_mem (List.mem_map_of_mem he)
    _ = planTotal p := merged_total p

theorem length_merged_le (p : List DifficultyCount) : (merged p).length ≤ 3 := by
  simpa [Difficulty.all] using (merged_keys_sublist p).length_le

/-! ## Integer parts and the units left over -/

/-- Integer parts within one below and `2^-49` above the exact shares `m * t / T`, over counts
adding up to `T`, add up to at most `t` and fall short of it by fewer units than there are
counts. -/
theorem sum_whole_bounds {ms ws : List Nat} {t T : Nat} (hT : 0 < T) (hs : ms.sum = T)
    (hlen : ms.length < 2 ^ 49)
    (hw : List.Forall₂ (fun m w => m * t < T * (w + 1) ∧ 2 ^ 49 * (T * w) ≤ 2 ^ 49 * (m * t) + T)
      ms ws) :
    ws.sum ≤ t ∧ t < ws.sum + ws.length := by
  -- the two bounds add up over the list
  have hadd : ∀ {ms ws : List Nat}, List.Forall₂ (fun m w => m * t < T * (w + 1) ∧
      2 ^ 49 * (T * w) ≤ 2 ^ 49 * (m * t) + T) ms ws →
      ms.sum * t + ws.length ≤ T * (ws.sum + ws.length) ∧
      2 ^ 49 * (T * ws.sum) ≤ 2 ^ 49 * (ms.sum * t) + ws.length * T := by
    intro ms ws h
    induction h with
    | nil => simp
    | cons hmw _ ih =>
      obtain ⟨h1, h2⟩ := hmw
      simp only [List.sum_cons, List.length_cons]
      constructor
      · linarith [ih.1]
      · linarith [ih.2]
  obtain ⟨h1, h2⟩ := hadd hw
  rw [hs] at h1 h2
  have hlen' : ws.length = ms.length := hw.length_eq.symm
  have hne : 0 < ws.length := by
    rw [hlen']
    refine List.length_pos_iff.2 fun h0 => ?_
    rw [h0] at hs
    simp at hs
    omega
  constructor
  · -- `2^49 * W ≤ 2^49 * t + L` with `L < 2^49` leaves no room for a unit more
    have h3 : 2 ^ 49 * ws.sum * T ≤ (2 ^ 49 * t + ws.length) * T := by linarith [h2]
    have h4 := Nat.le_of_mul_le_mul_right h3 hT
    omega
  · have h3 : T * t < T * (ws.sum + ws.length) := by linarith [h1]
    exact Nat.lt_of_mul_lt_mul_left h3

/-! ## Bumping -/

/-- Adding one to the shares of listed difficulties adds one per share bumped. -/
theorem sum_bump (S : List Share) (B : List Difficulty) :
    (S.map fun s => if B.contains s.difficulty then s.whole + 1 else s.whole).sum =
      (S.map (·.whole)).sum + (S.filter fun s => B.contains s.difficulty).length := by
  induction S with
  | nil => rfl
  | cons s S ih =>
    simp only [List.map_cons, List.sum_cons, ih, List.filter_cons]
    split <;> simp <;> omega

/-- Distinct difficulties, each the difficulty of one share, bump as many shares. -/
theorem length_filter_bumped {S : List Share} {B : List Difficulty}
    (hS : (S.map (·.difficulty)).Nodup) (hB : B.Nodup) (hsub : ∀ d ∈ B, d ∈ S.map (·.difficulty)) :
    (S.filter fun s => B.contains s.difficulty).length = B.length := by
  have hmap : (S.filter fun s => B.contains s.difficulty).map (·.difficulty) =
      (S.map (·.difficulty)).filter fun d => B.contains d := by
    rw [List.filter_map]
    rfl
  have hperm : List.Perm ((S.map (·.difficulty)).filter fun d => B.contains d) B := by
    refine (List.perm_ext_iff_of_nodup (hS.filter _) hB).2 fun d => ?_
    simp only [List.mem_filter, List.contains_iff_mem]
    exact ⟨fun h => h.2, fun h => ⟨hsub d h, h⟩⟩
  rw [← List.length_map (f := (·.difficulty)), hmap, hperm.length_eq]

/-- The first `k` shares of a ranking of distinct difficulties bump `k` shares. -/
theorem length_filter_take {S R : List Share} (hS : (S.map (·.difficulty)).Nodup) (hR : List.Perm R S)
    {k : Nat} (hk : k ≤ S.length) :
    (S.filter fun s => ((R.take k).map (·.difficulty)).contains s.difficulty).length = k := by
  have hperm := hR.map (·.difficulty)
  have hsub : List.Sublist ((R.take k).map (·.difficulty)) (R.map (·.difficulty)) :=
    (List.take_sublist _ _).map _
  rw [length_filter_bumped hS (hsub.nodup (hperm.nodup_iff.2 hS)) fun d hd => hperm.mem_iff.1 (hsub.mem hd),
    List.length_map, List.length_take, hR.length_eq]
  omega

/-! ## The shares of a plan -/

section Shares

variable {p : List DifficultyCount} {t : Nat} {S : List Share}

/-- The shares of a plan of positive total scaled to `t < 8`: one per merged difficulty, each
with its integer part within one below and `2^-49` above the exact share. -/
theorem shares_rel {f : Difficulty × Nat → Except Failure Share}
    (hf : ∀ e s, f e = .ok s → share? e.1 e.2 t (planTotal p) = some s) (hT : 0 < planTotal p)
    (ht : t < 8) (hS : (merged p).mapM f = .ok S) :
    List.Forall₂ (fun e s => s.difficulty = e.1 ∧ e.2 * t < planTotal p * (s.whole + 1) ∧
      2 ^ 49 * (planTotal p * s.whole) ≤ 2 ^ 49 * (e.2 * t) + planTotal p) (merged p) S := by
  refine ((List.forall₂_and_left _ _).2 ⟨fun e he => merged_le_total he,
    Except.mapM_eq_ok hS⟩).imp ?_
  rintro e s ⟨he, hs⟩
  obtain ⟨s', hs', hd, hlo, hhi⟩ := share?_bounds e.1 he ht hT
  rw [hf e s hs, Option.some.injEq] at hs'
  subst hs'
  exact ⟨hd, hlo, hhi⟩

variable (hrel : List.Forall₂ (fun e s => s.difficulty = e.1 ∧ e.2 * t < planTotal p * (s.whole + 1) ∧
  2 ^ 49 * (planTotal p * s.whole) ≤ 2 ^ 49 * (e.2 * t) + planTotal p) (merged p) S)
include hrel

theorem shares_keys : (merged p).map (·.1) = S.map (·.difficulty) :=
  map_eq_map_of_forall₂ (fun _ _ h => h.1.symm) hrel

theorem shares_nodup : (S.map (·.difficulty)).Nodup :=
  shares_keys hrel ▸ (merged_keys_sublist p).nodup (by decide)

/-- The integer parts of the shares fall short of the target by fewer units than there are
shares. -/
theorem shares_whole_bounds (hT : 0 < planTotal p) :
    (S.map (·.whole)).sum ≤ t ∧ t < (S.map (·.whole)).sum + S.length := by
  have hlen : ((merged p).map (·.2)).length < 2 ^ 49 := by
    have := length_merged_le p
    rw [List.length_map]
    omega
  have hw : List.Forall₂ (fun m w => m * t < planTotal p * (w + 1) ∧
      2 ^ 49 * (planTotal p * w) ≤ 2 ^ 49 * (m * t) + planTotal p) ((merged p).map (·.2))
      (S.map (·.whole)) :=
    List.forall₂_map_left_iff.2 (List.forall₂_map_right_iff.2 (hrel.imp fun _ _ h => h.2))
  rw [← List.length_map (·.whole)]
  exact sum_whole_bounds hT (merged_total p) hlen hw

end Shares

/-! ## Dropping zero counts -/

theorem planTotal_filterMap_pos (l : List (Difficulty × Nat)) :
    planTotal (l.filterMap fun x => if h : 0 < x.2 then some ⟨x.1, x.2, h⟩ else none) =
      (l.map (·.2)).sum := by
  induction l with
  | nil => rfl
  | cons x l ih =>
    rw [List.filterMap_cons]
    by_cases hx : 0 < x.2
    · simp [hx, planTotal, ← ih]
    · simp [hx, ih]
      omega

theorem sorted_filterMap_pos {l : List (Difficulty × Nat)}
    (h : (l.map (·.1)).Pairwise fun a b => a.rank < b.rank) :
    PlanSorted (l.filterMap fun x => if h : 0 < x.2 then some ⟨x.1, x.2, h⟩ else none) := by
  refine List.Pairwise.filterMap _ ?_ (List.pairwise_map.1 h)
  intro a b hab x hx y hy
  split at hx <;> split at hy <;> simp_all
  cases hx; cases hy; exact hab

end Rescale

open Rescale in
/-- **Rescaling a plan.**  A sorted plan of positive total, rescaled to a count from one to
`maxProblems`, is a clean plan of exactly that many problems. -/
theorem rescalePlan_ok {p q : List DifficultyCount} {n : Nat} (hp : PlanSorted p)
    (hT : 0 < planTotal p) (h1 : 1 ≤ n) (h7 : n ≤ maxProblems) (h : rescalePlan p n = .ok q) :
    PlanOk q ∧ planTotal q = n := by
  have hn8 : n < 8 := by simp only [maxProblems] at h7; omega
  unfold rescalePlan at h
  dsimp only at h
  by_cases heq : planTotal p = n
  · rw [if_pos (by rw [heq]), Except.pure_eq_ok] at h
    subst h
    refine ⟨⟨fun h0 => ?_, hp, heq ▸ h7⟩, heq⟩
    simp [h0, planTotal] at hT
  rw [if_neg (by omega), if_neg (by omega)] at h
  obtain ⟨S, hS, hq⟩ := Except.bind_eq_ok.1 h
  rw [Except.pure_eq_ok] at hq
  subst hq
  have hrel := shares_rel (t := n) (fun e s hs => by
    simp only [Int.toNat_natCast] at hs
    split at hs
    · next hsh => cases hs; exact hsh
    · cases hs) hT hn8 hS
  -- the integer parts leave `n - W` units, handed to as many distinct difficulties
  set W := (S.map (·.whole)).foldr (· + ·) 0 with hW
  obtain ⟨hle, hlt⟩ : W ≤ n ∧ n < W + S.length := shares_whole_bounds hrel hT
  have htake : ∀ xs : List Share, takeSigned xs ((n : Int) - (W : Int)) = xs.take (n - W) := by
    intro xs
    unfold takeSigned
    rw [if_pos (by omega)]
    congr 1
    omega
  simp only [htake]
  have htotal : planTotal (List.filterMap (fun x => if h : 0 < x.2 then some ⟨x.1, x.2, h⟩ else none)
      (S.map fun s => (s.difficulty, if (((S.mergeSort fun a b => a.before b).take (n - W)).map
        (·.difficulty)).contains s.difficulty then s.whole + 1 else s.whole))) = n := by
    rw [planTotal_filterMap_pos, List.map_map]
    have hb := sum_bump S (((S.mergeSort fun a b => a.before b).take (n - W)).map (·.difficulty))
    rw [length_filter_take (shares_nodup hrel) (List.mergeSort_perm S _) (by omega)] at hb
    simp only [Function.comp_def]
    rw [hb]
    show W + (n - W) = n
    omega
  refine ⟨⟨?_, ?_, ?_⟩, htotal⟩
  · intro hnil
    rw [hnil] at htotal
    simp [planTotal] at htotal
    omega
  · apply sorted_filterMap_pos
    rw [List.map_map]
    show (S.map (·.difficulty)).Pairwise _
    rw [← shares_keys hrel]
    exact List.Pairwise.sublist (merged_keys_sublist p) (by decide)
  · rw [htotal]
    exact h7

open Rescale in
/-- **Rescaling never overflows.**  Rescaled to a count of at most `maxProblems`, any plan has a
result: each share is below eight, and the double nearest to it is finite. -/
theorem rescalePlan_succeeds (p : List DifficultyCount) {n : Nat} (h7 : n ≤ maxProblems) :
    ∃ q, rescalePlan p n = .ok q := by
  have hn8 : n < 8 := by simp only [maxProblems] at h7; omega
  cases h : rescalePlan p n with
  | ok q => exact ⟨q, rfl⟩
  | error e =>
    exfalso
    unfold rescalePlan at h
    dsimp only at h
    split at h
    · cases h
    split at h
    · cases h
    next hT0 =>
    rcases Except.bind_eq_error.1 h with hS | ⟨S, -, hS⟩
    · -- the only failure is a share that overflows, and no share does
      obtain ⟨e, he, hfail⟩ := Except.mapM_eq_error hS
      obtain ⟨s, hs, -⟩ := share?_bounds e.1 (merged_le_total he) hn8 (by omega)
      simp only [Int.toNat_natCast, hs] at hfail
      cases hfail
    · cases hS

/-- An empty plan rescales to an empty plan. -/
theorem rescalePlan_nil {n : Nat} (hn : 0 < n) : rescalePlan [] n = .ok [] := by
  unfold rescalePlan
  rw [if_neg (by simp [planTotal]; omega), if_pos (.inl rfl)]
  rfl

/-- **Rescaling a sorted plan.**  Rescaled to a count from one to `maxProblems`, an empty plan
stays empty, and any other becomes a clean plan of that count. -/
theorem rescalePlan_cases {p q : List DifficultyCount} {n : Nat} (hp : PlanSorted p) (h1 : 1 ≤ n)
    (h7 : n ≤ maxProblems) (h : rescalePlan p n = .ok q) :
    (p = [] ∧ q = []) ∨ (PlanOk q ∧ planTotal q = n) := by
  by_cases hnil : p = []
  · subst hnil
    rw [rescalePlan_nil (by omega), Except.ok.injEq] at h
    exact .inl ⟨rfl, h.symm⟩
  · exact .inr (rescalePlan_ok hp (planTotal_pos hnil) h1 h7 h)

end PracticeForge
