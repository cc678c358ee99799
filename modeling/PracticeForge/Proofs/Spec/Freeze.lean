import PracticeForge.Proofs.Spec.Consistent
import PracticeForge.Spec.Plan

/-!
# Proofs/Spec/Freeze — a complete draft freezes, and its plan lays out its count

A frozen spec is the draft's JSON form read back by the strict checks of `ActivitySpec`.  The
checks take back what the JSON form of a spec writes, with one exception: a constraints text
must encode as UTF-8, so a surrogate standing alone in it is refused.  Hence a complete
consistent draft whose constraints hold no such surrogate freezes into a spec with the same
values (`SpecDraft.freeze_ok`), and the planner lays that spec out as one slot per problem
(`planSlots_length`), numbered in order, in the spec's language and style (`planSlots_ok`).
-/

namespace PracticeForge

namespace Schema

/-! ## The strict checks on the values they accept -/

theorem tupleMin_map {α : Type} (check : Json → Checked α) (g : α → Json)
    (hg : ∀ a, check (g a) = .ok a) {xs : List α} {n : Nat} (hn : n ≤ xs.length) :
    tupleMin n check (.arr (xs.map g)) = .ok xs := by
  simp [tupleMin, items, items_go_map check g hg, Nat.not_lt.2 hn]

/-- A text passes `strMin` when it is long enough and holds no surrogate standing alone. -/
theorem strMin_str {s : String} {n : Nat} (hu : ∀ c ∈ s.toList, Text.isStandIn c = false)
    (hn : n ≤ s.length) : strMin n (.str s) = .ok s := by
  have hany : s.toList.any Text.isStandIn = false := List.any_eq_false.2 fun c hc => by simp [hu c hc]
  simp only [strMin, str, bind, Except.bind, hany, Bool.false_eq_true, if_false, Nat.not_lt.2 hn]
  rfl

theorem intBetween_int {lo hi n : Int} (hlo : lo ≤ n) (hhi : n ≤ hi) :
    intBetween lo hi (.int n) = .ok n := by
  simp only [intBetween, int, bind, Except.bind, Int.not_lt.2 hlo, Int.not_lt.2 hhi, if_false]
  rfl

theorem nullable_str_ofStrOpt (o : Option String) : nullable str (Json.ofStrOpt o) = .ok o := by
  cases o <;> rfl

end Schema

open Schema

/-! ## A spec read back from its JSON form -/

namespace ActivitySpec

theorem toJson_toDraft (a : ActivitySpec) : a.toDraft.toJson = a.toJson := rfl

/-- **The round trip.**  The JSON form of a spec reads back as the spec, when its constraints
are not empty and hold no surrogate standing alone. -/
theorem check_toJson (a : ActivitySpec) (hc : a.constraints ≠ "")
    (hu : ∀ c ∈ a.constraints.toList, Text.isStandIn c = false) : check a.toJson = .ok a := by
  obtain ⟨l, n, p, ts, st, c, f, h1, h2, h3, h4⟩ := a
  have hlen : 1 ≤ c.length := Nat.pos_of_ne_zero fun h => hc (String.length_eq_zero_iff.1 h)
  have hn1 : ((minProblems : Nat) : Int) ≤ n := by exact_mod_cast h1
  have hn7 : (n : Int) ≤ ((maxProblems : Nat) : Int) := by exact_mod_cast h2
  simp [check, toJson, entries, field, Json.lookup, bind, Except.bind, pure, Except.pure, Json.ofStrs,
    literal_str (Language.id_mem l), literal_str (Style.id_mem st), intBetween_int hn1 hn7,
    tupleMin_map DifficultyCount.check DifficultyCount.toJson DifficultyCount.check_toJson
      (List.length_pos_iff.2 h3),
    tupleMin_map str Json.str str_str (List.length_pos_iff.2 h4), strMin_str hu hlen,
    nullable_str_ofStrOpt, h3, h4]
  rw [dif_pos h1, dif_pos h2]

end ActivitySpec

/-! ## Freezing a complete draft -/

namespace SpecDraft

/-- A complete draft has every field of a spec, the count not zero and the topics and the
constraints not empty. -/
theorem complete_values {s : SpecDraft} (h : s.isComplete = true) :
    ∃ l n p ts st c, s.language = some l ∧ s.problemCount = some n ∧ s.difficultyPlan = some p ∧
      s.topicTags = some ts ∧ ts ≠ [] ∧ s.problemStyle = some st ∧ s.constraints = some c ∧
      c ≠ "" := by
  have hhas : (∀ f ∈ SpecField.required, s.has f = true) ∧ s.has .constraints = true := by
    simpa [isComplete, missing, List.filter_eq_nil_iff] using h
  have hl := hhas.1 .language (by decide)
  have hn := hhas.1 .problemCount (by decide)
  have hp := hhas.1 .difficultyPlan (by decide)
  have ht := hhas.1 .topicTags (by decide)
  have hst := hhas.1 .problemStyle (by decide)
  have hc := hhas.2
  simp only [has] at hl hn hp ht hst hc
  obtain ⟨l, hl⟩ := Option.isSome_iff_exists.1 hl
  obtain ⟨st, hst⟩ := Option.isSome_iff_exists.1 hst
  split at hn
  case h_2 => cases hn
  next n hn' =>
  split at hp
  case h_2 => cases hp
  next p hp' =>
  split at ht
  case h_2 => cases ht
  next ts ht' =>
  split at hc
  case h_2 => cases hc
  next c hc' =>
  refine ⟨l, n, p, ts, st, c, hl, hn', hp', ht', ?_, hst, hc', ?_⟩
  · simpa using ht
  · simpa using hc

/-- **A complete draft freezes.**  A complete consistent draft whose constraints hold no
surrogate standing alone freezes into a spec with the same values. -/
theorem freeze_ok {s : SpecDraft} (hs : s.Consistent) (hc : s.isComplete = true)
    (hu : ∀ c, s.constraints = some c → ∀ ch ∈ c.toList, Text.isStandIn ch = false) :
    ∃ a, s.freeze = .ok a ∧ a.toDraft = s := by
  obtain ⟨l, n, p, ts, st, c, hl, hn, hp, ht, ht0, hst, hcs, hc0⟩ := complete_values hc
  obtain ⟨h1, h7⟩ := hs.fields .problemCount n hn
  have hpo : PlanOk p := hs.fields .difficultyPlan p hp
  have hn0 : (n.toNat : Int) = n := Int.toNat_of_nonneg (by simp only [minProblems] at h1; omega)
  let a : ActivitySpec := ⟨l, n.toNat, p, ts, st, c, s.generationFocus, by omega, by omega,
    hpo.ne_nil, ht0⟩
  -- the spec holds the draft's own values
  have ha : a.toDraft = s := by
    obtain ⟨l', n', p', ts', st', c', f'⟩ := s
    simp only at hl hn hp ht hst hcs
    subst hl hn hp ht hst hcs
    simp [a, ActivitySpec.toDraft, hn0]
  refine ⟨a, ?_, ha⟩
  rw [freeze, ← ha, ActivitySpec.toJson_toDraft]
  exact a.check_toJson hc0 (hu c hcs)

end SpecDraft

/-! ## Slots -/

theorem length_expandDifficulties (p : List DifficultyCount) :
    (expandDifficulties p).length = planTotal p := by
  rw [← Rescale.planTotal_split p]
  simp [expandDifficulties, Difficulty.all, Nat.add_assoc]

/-- **One slot per problem.**  A spec whose plan adds up to its count is laid out as that many
slots. -/
theorem planSlots_length (a : ActivitySpec) (h : planTotal a.difficultyPlan = a.problemCount) :
    (planSlots a).map List.length = .ok a.problemCount := by
  have hts : a.topicTags.isEmpty = false := by simpa using a.tags_ne
  simp [planSlots, h, hts, pure, Except.pure, Except.map, length_expandDifficulties]

/-- **The plan's slots**: one per problem, numbered from 0 in order, each in the spec's language
and style. -/
theorem planSlots_ok {S : ActivitySpec} {slots : List Slot} (h : planSlots S = .ok slots) :
    slots.length = S.problemCount ∧ slots.map (·.index) = (List.range slots.length).map Int.ofNat ∧
      ∀ slot ∈ slots, slot.language = S.language ∧ slot.problemStyle = S.problemStyle := by
  unfold planSlots at h
  dsimp only at h
  split at h
  case isTrue => cases h
  case isFalse htotal =>
  split at h
  case isTrue => cases h
  case isFalse =>
  cases h
  refine ⟨?_, ?_, ?_⟩
  · simp only [List.length_map, List.length_zipIdx, length_expandDifficulties]
    omega
  · -- the slots are numbered by their position in the expanded plan
    have hidx : (expandDifficulties S.difficultyPlan).zipIdx.map Prod.snd =
        List.range (expandDifficulties S.difficultyPlan).length := by
      rw [← List.unzip_snd, List.unzip_zipIdx_eq_prod, List.range_eq_range']
    simp only [List.map_map, List.length_map, List.length_zipIdx, ← hidx]
    rfl
  · intro slot hs
    simp only [List.mem_map] at hs
    obtain ⟨_, _, rfl⟩ := hs
    exact ⟨rfl, rfl⟩

/-- A plan lays out at least one slot. -/
theorem planSlots_ne_nil {S : ActivitySpec} {slots : List Slot} (h : planSlots S = .ok slots) :
    slots ≠ [] := by
  have hlen := (planSlots_ok h).1
  have hpos : minProblems ≤ S.problemCount := S.count_pos
  intro hnil
  simp only [hnil, List.length_nil, minProblems] at hlen hpos
  omega

end PracticeForge
