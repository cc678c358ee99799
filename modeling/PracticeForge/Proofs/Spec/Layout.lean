import PracticeForge.Proofs.Spec.Freeze

/-!
# Proofs/Spec/Layout — slots easiest first, topics spread evenly

The planner lays a spec out as its expanded plan: every difficulty as often as the plan's entries
for it add up to, easiest first, and slot `i` takes topic `i mod k` of the `k` topics.  It stops
exactly when the plan misses the problem count (`planSlots_error_iff`), since a spec always has a
topic.

Taking topics by position spreads them over any stretch of consecutive slots, in particular over
each run of one difficulty, whatever its start: among `len` consecutive numbers, those leaving `j`
modulo `k` number `⌊len / k⌋` or `⌈len / k⌉` (`countP_range'_mod_floor_or_ceil`).  The main
statement is `planSlots_spread`.
-/

namespace PracticeForge

/-! ## The expanded plan -/

theorem count_expandDifficulties (p : List DifficultyCount) (d : Difficulty) :
    (expandDifficulties p).count d = planTotal (p.filter (·.difficulty == d)) := by
  cases d <;> simp [expandDifficulties, Difficulty.all, List.count_replicate]

theorem expandDifficulties_sorted (p : List DifficultyCount) :
    (expandDifficulties p).Pairwise fun a b => a.rank ≤ b.rank := by
  simp [expandDifficulties, Difficulty.all, List.pairwise_append, List.pairwise_replicate,
    List.mem_replicate, Difficulty.rank]

/-! ## Residues in a stretch of numbers -/

/-- Among `len` consecutive numbers from `a`, those leaving `j` modulo `k` number `len / k`, and
one more when the first of them falls early enough in the last, incomplete round. -/
theorem countP_range'_mod (a len : Nat) {k j : Nat} (hk : 0 < k) (hj : j < k) :
    (List.range' a len).countP (fun i => i % k == j) =
      len / k + if (j + k - a % k) % k < len % k then 1 else 0 := by
  -- `a + t` leaves `j` exactly when `t` leaves the shift `j + k - a % k`
  have hshift : ∀ t, (a + t) % k = j ↔ t ≡ j + k - a % k [MOD k] := by
    intro t
    have hsum : a % k + (j + k - a % k) = j + k := by have := Nat.mod_lt a hk; omega
    have hj' : j % k = j := Nat.mod_eq_of_lt hj
    have hleft : a % k + t ≡ a + t [MOD k] := (Nat.mod_modEq a k).add_right t
    constructor
    · intro h
      refine Nat.ModEq.add_left_cancel' (a % k) ?_
      rw [hsum]
      calc a % k + t ≡ a + t [MOD k] := hleft
        _ ≡ j [MOD k] := by rw [Nat.ModEq, h, hj']
        _ ≡ j + k [MOD k] := Nat.add_modEq_right.symm
    · intro h
      have hj'' : a + t ≡ j [MOD k] := calc
        a + t ≡ a % k + t [MOD k] := hleft.symm
        _ ≡ a % k + (j + k - a % k) [MOD k] := h.add_left _
        _ = j + k := hsum
        _ ≡ j [MOD k] := Nat.add_modEq_right
      rwa [Nat.ModEq, hj'] at hj''
  rw [← Nat.count_modEq_card len hk, Nat.count, List.range'_eq_map_range, List.countP_map]
  congr 1
  funext t
  rw [Bool.eq_iff_iff]
  simpa using hshift t

theorem ceilDiv_eq_div_add_one {n k : Nat} (hk : 0 < k) (h : 0 < n % k) : n ⌈/⌉ k = n / k + 1 := by
  have h1 : (k - 1) / k = 0 := Nat.div_eq_of_lt (by omega)
  have h2 : (k - 1) % k = k - 1 := Nat.mod_eq_of_lt (by omega)
  rw [Nat.ceilDiv_eq_add_pred_div, Nat.add_sub_assoc (by omega), Nat.add_div hk, h1, h2,
    if_pos (by omega)]

/-- **Even spread.**  Among `len` consecutive numbers, those leaving `j` modulo `k` number
`⌊len / k⌋` or `⌈len / k⌉`. -/
theorem countP_range'_mod_floor_or_ceil (a len : Nat) {k j : Nat} (hk : 0 < k) (hj : j < k) :
    (List.range' a len).countP (fun i => i % k == j) = len / k ∨
      (List.range' a len).countP (fun i => i % k == j) = len ⌈/⌉ k := by
  rw [countP_range'_mod a len hk hj]
  split
  · -- the extra one comes only from an incomplete last round
    next hlt => exact .inr (ceilDiv_eq_div_add_one hk (by omega)).symm
  · exact .inl rfl

/-! ## The planner's slots -/

/-- Slots laid out for a spec: the expanded plan in order, slot `i` numbered `i` and taking topic
`i mod k`, all in the spec's language and style. -/
structure Laid (S : ActivitySpec) (slots : List Slot) : Prop where
  difficulties : slots.map (·.difficulty) = expandDifficulties S.difficultyPlan
  index : ∀ i (hi : i < slots.length), slots[i].index = i
  topic : ∀ i (hi : i < slots.length), S.topicTags[i % S.topicTags.length]? = some slots[i].topic
  language : ∀ s ∈ slots, s.language = S.language
  style : ∀ s ∈ slots, s.problemStyle = S.problemStyle

theorem ActivitySpec.tags_length_pos (S : ActivitySpec) : 0 < S.topicTags.length :=
  List.length_pos_iff.2 S.tags_ne

/-- The planner stops only on a plan that misses the count, and then with its invariant error. -/
theorem planSlots_error {S : ActivitySpec} {f : Failure} (h : planSlots S = .error f) :
    planTotal S.difficultyPlan ≠ S.problemCount ∧ ∃ m, f = .plannerInvariant m := by
  unfold planSlots at h
  dsimp only at h
  split at h
  case isTrue htotal => cases h; exact ⟨htotal, _, rfl⟩
  case isFalse =>
  split at h
  case isTrue hts => exact absurd (List.isEmpty_iff.1 hts) S.tags_ne
  case isFalse => cases h

/-- Slots the planner returns are laid out for the spec, whose plan meets its count. -/
theorem planSlots_laid {S : ActivitySpec} {slots : List Slot} (h : planSlots S = .ok slots) :
    planTotal S.difficultyPlan = S.problemCount ∧ Laid S slots := by
  unfold planSlots at h
  dsimp only at h
  split at h
  case isTrue => cases h
  case isFalse htotal =>
  split at h
  case isTrue => cases h
  case isFalse =>
  cases h
  have hk := S.tags_length_pos
  refine ⟨by omega, ⟨?_, fun i hi => ?_, fun i hi => ?_, fun s hs => ?_, fun s hs => ?_⟩⟩
  · rw [List.map_map]
    exact List.zipIdx_map_fst 0 _
  · simp
  · -- slot `i` takes the topic at `i mod k`, which is in range
    simp [List.getD_eq_getElem?_getD, List.getElem?_eq_getElem (Nat.mod_lt i hk)]
  · obtain ⟨_, _, rfl⟩ := List.mem_map.1 hs
    rfl
  · obtain ⟨_, _, rfl⟩ := List.mem_map.1 hs
    rfl

theorem planSlots_error_iff (S : ActivitySpec) :
    (∃ m, planSlots S = .error (.plannerInvariant m)) ↔ planTotal S.difficultyPlan ≠ S.problemCount := by
  constructor
  · rintro ⟨m, h⟩
    exact (planSlots_error h).1
  · intro hne
    cases h : planSlots S with
    | error f =>
      obtain ⟨_, m, rfl⟩ := planSlots_error h
      exact ⟨m, rfl⟩
    | ok slots => exact absurd (planSlots_laid h).1 hne

/-- The uses of topic position `j` of `k` in a stretch of slots. -/
def topicUses (w : List Slot) (k j : Nat) : Nat := w.countP fun s => s.index % (k : Int) = j

/-- Over consecutive slots numbered by position, the uses of a topic position are the residues
of the positions. -/
theorem topicUses_window {slots : List Slot} (hidx : ∀ i (hi : i < slots.length), slots[i].index = i)
    {a len : Nat} (k j : Nat) (hlen : a + len ≤ slots.length) :
    topicUses ((slots.drop a).take len) k j = (List.range' a len).countP (fun i => i % k == j) := by
  have hmap : slots.map (·.index) = (List.range' 0 slots.length).map fun i : Nat => (i : Int) :=
    List.ext_getElem (by simp) fun i h1 h2 => by simp [hidx]
  have hwin : ((slots.map (·.index)).drop a).take len =
      (List.range' a len).map fun i : Nat => (i : Int) := by
    rw [hmap, ← List.map_drop, ← List.map_take, List.drop_range',
      List.take_range'_of_length_ge (by omega)]
    simp
  have hq : ∀ i : Nat, decide ((i : Int) % (k : Int) = (j : Int)) = (i % k == j) := by
    intro i
    rw [Bool.eq_iff_iff, decide_eq_true_eq, beq_iff_eq, ← Int.natCast_mod, Nat.cast_inj]
  rw [topicUses, show (fun s : Slot => decide (s.index % (k : Int) = j)) =
      (fun x : Int => decide (x % (k : Int) = j)) ∘ (·.index) from rfl, ← List.countP_map,
    List.map_take, List.map_drop, hwin, List.countP_map]
  exact congrArg (List.countP · _) (funext hq)

/-- **Laying out a spec.**  The planner stops, with its invariant error, exactly when the plan
does not add up to the problem count.  Otherwise it returns one slot per problem: slot `i` is
numbered `i`, takes the topic at position `i mod k` of the spec's `k` topics, and has the spec's
language and style; difficulties never get easier along the slots, and each difficulty appears as
often as the plan's entries for it add up to.  Hence any stretch of consecutive slots, each run of
one difficulty among them, uses every topic position `⌊len / k⌋` or `⌈len / k⌉` times. -/
theorem planSlots_spread (S : ActivitySpec) :
    ((∃ m, planSlots S = .error (.plannerInvariant m)) ↔
        planTotal S.difficultyPlan ≠ S.problemCount) ∧
    (planTotal S.difficultyPlan = S.problemCount → ∃ slots, planSlots S = .ok slots ∧
      slots.length = S.problemCount ∧
      (∀ i (hi : i < slots.length), slots[i].index = i ∧
        S.topicTags[i % S.topicTags.length]? = some slots[i].topic ∧
        slots[i].language = S.language ∧ slots[i].problemStyle = S.problemStyle) ∧
      slots.Pairwise (fun s t => s.difficulty.rank ≤ t.difficulty.rank) ∧
      (∀ d, slots.countP (·.difficulty = d) = planTotal (S.difficultyPlan.filter (·.difficulty == d))) ∧
      ∀ a len, a + len ≤ slots.length → ∀ j < S.topicTags.length,
        topicUses ((slots.drop a).take len) S.topicTags.length j = len / S.topicTags.length ∨
        topicUses ((slots.drop a).take len) S.topicTags.length j = len ⌈/⌉ S.topicTags.length) := by
  refine ⟨planSlots_error_iff S, fun htotal => ?_⟩
  obtain ⟨slots, hslots⟩ : ∃ slots, planSlots S = .ok slots := by
    cases h : planSlots S with
    | ok slots => exact ⟨slots, rfl⟩
    | error f => exact absurd htotal (planSlots_error h).1
  obtain ⟨-, hlaid⟩ := planSlots_laid hslots
  have hlen : slots.length = S.problemCount := by
    rw [← List.length_map (·.difficulty), hlaid.difficulties, length_expandDifficulties, htotal]
  refine ⟨slots, hslots, hlen, fun i hi => ⟨hlaid.index i hi, hlaid.topic i hi, ?_, ?_⟩, ?_, ?_, ?_⟩
  · exact hlaid.language _ (List.getElem_mem hi)
  · exact hlaid.style _ (List.getElem_mem hi)
  · have hsorted := expandDifficulties_sorted S.difficultyPlan
    rw [← hlaid.difficulties] at hsorted
    have hpair := List.pairwise_map.1 hsorted
    exact hpair
  · intro d
    rw [← count_expandDifficulties, ← hlaid.difficulties, List.count, List.countP_map]
    rfl
  · intro a len hwin j hj
    rw [topicUses_window hlaid.index _ j hwin]
    exact countP_range'_mod_floor_or_ceil a len S.tags_length_pos hj

end PracticeForge
