import PracticeForge.Proofs.Basic
import PracticeForge.Proofs.Generation.Delivered

/-!
# Proofs/Generation/Renaming — which id each problem of a run gets

Before a run's problems are handed back their ids are made distinct, in order: a problem keeps
its id when no problem before it has already been given that id, and otherwise takes the first
free id of the form `id-n`, with `n` counting up from the problem's position (from 1)
(`IdRule`).  The search for that name is bounded by one more than the number of ids given out
so far, and a bound of that size always reaches a free name (`exists_free_name`), so the
search never runs out of fuel and its answer is the least free one (`freshId_first`).

Main statement: `makeIdsUnique_renames` — renaming keeps the problems and their order, changes
only ids, makes them pairwise distinct, gives each problem the id `IdRule` asks for, and leaves
a list whose ids are already distinct as it is.
-/

namespace PracticeForge

/-! ## The rule -/

/-- **The naming rule.**  After the ids `earlier` have been given out, the problem at position
`pos` (counted from 1) with id `id` gets `out`: its own id when that is still free, and
otherwise `id-n` for the least `n` from `pos` on that is free. -/
def IdRule (earlier : List String) (pos : Nat) (id out : String) : Prop :=
  (id ∉ earlier ∧ out = id) ∨
  (id ∈ earlier ∧ ∃ n, pos ≤ n ∧ out = id ++ "-" ++ toString n ∧ out ∉ earlier ∧
    ∀ m, pos ≤ m → m < n → id ++ "-" ++ toString m ∈ earlier)

namespace IdRule

variable {earlier earlier' : List String} {pos : Nat} {id out : String}

/-- The name given is never one given out before. -/
theorem not_mem (h : IdRule earlier pos id out) : out ∉ earlier := by
  rcases h with ⟨hfree, rfl⟩ | ⟨-, n, -, -, hout, -⟩
  · exact hfree
  · exact hout

/-- A problem keeps its id exactly when no earlier problem was given it. -/
theorem eq_self_iff (h : IdRule earlier pos id out) : out = id ↔ id ∉ earlier := by
  constructor
  · rintro rfl
    exact h.not_mem
  · intro hfree
    rcases h with ⟨-, rfl⟩ | ⟨htaken, -⟩
    · rfl
    · exact absurd htaken hfree

/-- The rule reads the ids given out only through which ids they are. -/
theorem congr (hmem : ∀ x, x ∈ earlier ↔ x ∈ earlier') (h : IdRule earlier pos id out) :
    IdRule earlier' pos id out := by
  simp only [IdRule, ← hmem] at h ⊢
  exact h

end IdRule

/-! ## The search for a free name -/

/-- **The search finds the first free name.**  When one of the names `base-n`, …,
`base-(n + fuel - 1)` is free, `freshId` gives the first of them that is. -/
theorem freshId_first (seen : List String) (base : String) :
    ∀ (fuel n : Nat), (∃ k < fuel, base ++ "-" ++ toString (n + k) ∉ seen) →
      ∃ k, freshId seen base fuel n = base ++ "-" ++ toString (n + k) ∧
        base ++ "-" ++ toString (n + k) ∉ seen ∧ ∀ j < k, base ++ "-" ++ toString (n + j) ∈ seen
  | 0, _, ⟨_, hk, _⟩ => absurd hk (Nat.not_lt_zero _)
  | fuel + 1, n, ⟨k, hk, hfree⟩ => by
    simp only [freshId]
    split
    case isTrue htaken =>
      -- `base-n` is taken: the first free name lies further on, one step of fuel less
      have hk0 : k ≠ 0 := by
        rintro rfl
        exact hfree (by simpa using htaken)
      obtain ⟨j, hj, hjfree, hbefore⟩ :=
        freshId_first seen base fuel (n + 1) ⟨k - 1, by omega, by rwa [show n + 1 + (k - 1) = n + k by omega]⟩
      refine ⟨j + 1, by rw [hj, Nat.add_right_comm, Nat.add_assoc], ?_, ?_⟩
      · rwa [← Nat.add_assoc, Nat.add_right_comm]
      · intro i hi
        rcases i with _ | i
        · simpa using htaken
        · have := hbefore i (by omega)
          rwa [show n + (i + 1) = n + 1 + i by omega]
    case isFalse hnew =>
      exact ⟨0, rfl, by simpa using hnew, fun j hj => absurd hj (Nat.not_lt_zero j)⟩

/-! ## Renaming a list -/

/-- The name `uniqueIds` gives an id at position `i + 1` after the ids `seen` follows the rule. -/
theorem idRule_pick (seen : List String) (i : Nat) (id : String) :
    IdRule seen (i + 1) id
      (if seen.contains id then freshId seen id (seen.length + 1) (i + 1) else id) := by
  split
  case isTrue htaken =>
    obtain ⟨k, hpick, hfree, hbefore⟩ :=
      freshId_first seen id (seen.length + 1) (i + 1) (exists_free_name seen id (i + 1))
    refine .inr ⟨by simpa using htaken, i + 1 + k, by omega, hpick, hpick ▸ hfree, ?_⟩
    intro m hm hmk
    have := hbefore (m - (i + 1)) (by omega)
    rwa [show i + 1 + (m - (i + 1)) = m by omega] at this
  case isFalse hnew => exact .inl ⟨by simpa using hnew, rfl⟩

/-- Every name `uniqueIds.go` gives follows the rule, after the names `seen` and those it gave
before. -/
theorem idRule_go :
    ∀ (ids seen : List String) (i k : Nat) {id out : String}, ids[k]? = some id →
      (uniqueIds.go seen i ids)[k]? = some out →
      IdRule ((uniqueIds.go seen i ids).take k ++ seen) (i + k + 1) id out
  | [], _, _, _, _, _, hid, _ => by simp at hid
  | id :: rest, seen, i, k, _, _, hid, hout => by
    cases k with
    | zero =>
      simp only [uniqueIds.go, List.getElem?_cons_zero, Option.some.injEq] at hid hout
      subst hid hout
      simpa using idRule_pick seen i id
    | succ k =>
      -- the names given before position `k + 1` are the first name and those the rest gave
      -- before `k`, which the rest's own step sees in front of `seen`
      simp only [uniqueIds.go, List.take_succ_cons, List.getElem?_cons_succ, List.cons_append]
        at hid hout ⊢
      generalize (if seen.contains id = true then freshId seen id (seen.length + 1) (i + 1)
        else id) = pid at hout ⊢
      have hrest := idRule_go rest (pid :: seen) (i + 1) k hid hout
      rw [show i + 1 + k + 1 = i + (k + 1) + 1 by omega] at hrest
      exact hrest.congr fun x => by
        simp only [List.mem_append, List.mem_cons]
        tauto

/-- Renaming ids that are already distinct changes none of them. -/
theorem uniqueIds_go_of_nodup :
    ∀ (ids seen : List String) (i : Nat), ids.Nodup → (∀ x ∈ ids, x ∉ seen) →
      uniqueIds.go seen i ids = ids
  | [], _, _, _, _ => rfl
  | id :: rest, seen, i, hnd, hfree => by
    have hid : seen.contains id = false := by simpa using hfree id List.mem_cons_self
    simp only [uniqueIds.go, hid, Bool.false_eq_true, if_false, List.cons.injEq, true_and]
    refine uniqueIds_go_of_nodup rest _ _ (List.nodup_cons.1 hnd).2 fun x hx hmem => ?_
    rcases List.mem_cons.1 hmem with rfl | hseen
    · exact (List.nodup_cons.1 hnd).1 hx
    · exact hfree x (List.mem_cons_of_mem _ hx) hseen

/-- Copies of problems that differ at most in their ids, and have the same ids, are the
problems. -/
theorem eq_of_forall₂_of_ids {ps qs : List Problem}
    (h : List.Forall₂ (fun p q => q = { p with id := q.id }) ps qs)
    (hids : qs.map (·.id) = ps.map (·.id)) : qs = ps := by
  induction h with
  | nil => rfl
  | cons hpq _ ih =>
    simp only [List.map_cons, List.cons.injEq] at hids
    rw [ih hids.2, hpq, hids.1]

/-- **Renaming problems.**  `makeIdsUnique` keeps the problems in their order and changes only
their ids; the ids it gives are pairwise distinct; the problem at position `i` (from 0) gets the
id the naming rule asks for after the ids given to the problems before it, so it keeps its id
exactly when none of them has it; and problems whose ids are already distinct are handed back
as they are. -/
theorem makeIdsUnique_renames (ps : List Problem) :
    List.Forall₂ (fun p q => q = { p with id := q.id }) ps (makeIdsUnique ps) ∧
    ((makeIdsUnique ps).map (·.id)).Nodup ∧
    (∀ i (hp : i < ps.length) (hq : i < (makeIdsUnique ps).length),
      IdRule (((makeIdsUnique ps).take i).map (·.id)) (i + 1) ps[i].id (makeIdsUnique ps)[i].id ∧
      ((makeIdsUnique ps)[i].id = ps[i].id ↔ ps[i].id ∉ ((makeIdsUnique ps).take i).map (·.id))) ∧
    ((ps.map (·.id)).Nodup → makeIdsUnique ps = ps) := by
  have hids := map_id_makeIdsUnique ps
  refine ⟨forall₂_makeIdsUnique ps, hids ▸ uniqueIds_nodup _, fun i hp hq => ?_, fun hnd => ?_⟩
  · have hin : (ps.map (·.id))[i]? = some ps[i].id := by simp [hp]
    have hout : (uniqueIds (ps.map (·.id)))[i]? = some (makeIdsUnique ps)[i].id := by
      simp [← hids, hq]
    have hrule : IdRule (((makeIdsUnique ps).take i).map (·.id)) (i + 1) ps[i].id
        (makeIdsUnique ps)[i].id := by
      have h : IdRule ((uniqueIds (ps.map (·.id))).take i ++ []) (0 + i + 1) ps[i].id
          (makeIdsUnique ps)[i].id := idRule_go _ [] 0 i hin hout
      rw [List.append_nil, Nat.zero_add] at h
      rw [List.map_take, hids]
      exact h
    exact ⟨hrule, hrule.eq_self_iff⟩
  · -- the ids come back unchanged, and a problem is its own copy with its own id
    have hsame : uniqueIds (ps.map (·.id)) = ps.map (·.id) :=
      uniqueIds_go_of_nodup _ [] 0 hnd fun _ _ => List.not_mem_nil
    rw [hsame] at hids
    exact eq_of_forall₂_of_ids (forall₂_makeIdsUnique ps) hids

end PracticeForge
