import PracticeForge.Proofs.Chat.Apply
import PracticeForge.Proofs.Text.Words

/-!
# Proofs/Spec/Recheck — a checked patch, and its valid values checked again

The patch rules keep more than `SpecValue.Clean` says: a topic is at most `maxTopicLength`
characters cut from the start of a text with its white space squeezed, and a text is trimmed
and within its limit (`SpecValue.Stored`).  Written back as JSON, such values pass their rules
unchanged, so checking the valid values of a patch a second time, against the same agreed
draft, gives the same valid values back.  Two things keep it from being exact:

* a plan is held against the agreed count only when the patch leaves its own count unset, so a
  plan proposed beside a count the rules refuse goes unchecked the first time and is held
  against the agreed count the second (`invalid_count_leaves_plan_unchecked`);
* cutting a topic at `maxTopicLength` characters can leave it ending in a space, which the
  second check squeezes away; the statements here assume no valid topic ends in white space.

The main statement, `checkPatch_stored_held_rechecked`, puts the three facts together: valid
values are stored values, a valid plan is held against the count, and the re-check keeps
exactly the valid values, a plan beside a refused count only when it meets the agreed count.
-/

namespace PracticeForge

/-! ## Stored values -/

/-- A value as a stored spec keeps it: clean for its field, each topic at most
`maxTopicLength` characters cut from the start of a text with its white space squeezed, and each
text trimmed and within its limit. -/
def SpecValue.Stored (f : SpecField) (x : SpecValue) : Prop :=
  x.Clean f ∧ match f, x with
    | .topicTags, .tags ts => ∀ t ∈ ts, t.length ≤ maxTopicLength ∧
        ∃ u, Text.squeeze u = u ∧ t.toList <+: u.toList
    | .constraints, .text c => Text.trim c = c ∧ c.length ≤ maxConstraintsLength
    | .generationFocus, .text c => Text.trim c = c ∧ c.length ≤ maxFocusLength
    | _, _ => True

namespace Patch

/-- Every topic the rule keeps is a proposed text, squeezed and cut. -/
theorem mem_tags {v : Json} {ts : List String} (h : Patch.tags v = .ok (.tags ts)) {t : String}
    (ht : t ∈ ts) : ∃ raw, t = Text.take (Text.squeeze raw) maxTopicLength := by
  unfold Patch.tags at h
  dsimp only at h
  -- a text is cut at commas first; either way the items are cleaned, filtered and kept alike
  split at h
  all_goals simp only [bind, Except.bind, pure, Except.pure] at h
  rotate_left 2
  · simp [throw, throwThe, MonadExceptOf.throw] at h
  all_goals
    split at h
    · simp [throw, throwThe, MonadExceptOf.throw] at h
    · simp only [Except.ok.injEq, SpecValue.tags.injEq] at h
      subst h
      -- a kept topic is one of the cleaned items, and those are squeezed texts cut short
      have hkept := (distinctTags_spec _).2 t (List.mem_of_mem_take ht)
      obtain ⟨hmem, -⟩ := List.mem_filter.1 hkept
      obtain ⟨item, -, hitem⟩ := List.mem_filterMap.1 hmem
      split at hitem
      · next raw => exact ⟨raw, (Option.some.inj hitem).symm⟩
      · cases hitem

theorem tags_stored {v : Json} {ts : List String} (h : Patch.tags v = .ok (.tags ts)) :
    ∀ t ∈ ts, t.length ≤ maxTopicLength ∧
      ∃ u, Text.squeeze u = u ∧ t.toList <+: u.toList := by
  intro t ht
  obtain ⟨raw, rfl⟩ := mem_tags h ht
  exact ⟨Text.length_take_le _ _, _, Text.squeeze_squeeze raw, Text.take_prefix _ _⟩

theorem text_stored {name : String} {limit : Nat} {v : Json} {c : String}
    (h : Patch.text name limit v = .ok (.text c)) : Text.trim c = c ∧ c.length ≤ limit := by
  unfold Patch.text at h
  split at h
  · dsimp only at h
    split at h
    · simp [throw, throwThe, MonadExceptOf.throw] at h
    · split at h
      · simp [throw, throwThe, MonadExceptOf.throw] at h
      · next hlen =>
        simp only [Except.pure_eq_ok, SpecValue.text.injEq] at h
        subst h
        exact ⟨Text.trim_trim _, by omega⟩
  · simp [throw, throwThe, MonadExceptOf.throw] at h

/-- **The rules return stored values.** -/
theorem rule_stored {f : SpecField} {v : Json} {x : SpecValue} (h : Patch.rule f v = .ok x) :
    x.Stored f := by
  have hc := rule_clean h
  refine ⟨hc, ?_⟩
  cases f <;> cases x <;> simp only [SpecValue.Clean] at hc <;> simp only
  case topicTags.tags ts => exact tags_stored h
  case constraints.text c => exact text_stored h
  case generationFocus.text c => exact text_stored h

end Patch

/-- **Valid values are stored values.** -/
theorem checkPatch_stored {c : Json} {cur : Option SpecDraft} {f : SpecField} {x : SpecValue}
    (h : (checkPatch c cur).get f = .valid x) : x.Stored f := by
  obtain ⟨_, _, _, _, _, hx⟩ := checkPatch_valid h
  exact Patch.rule_stored hx

/-! ## Stored values pass their rules unchanged -/

namespace Patch

@[simp] theorem language_id (l : Language) : Patch.language (.str l.id) = .ok (.language l) := by
  cases l <;> rfl

@[simp] theorem style_id (s : Style) : Patch.style (.str s.id) = .ok (.style s) := by
  cases s <;> rfl

theorem text_self {name : String} {limit : Nat} {c : String} (hne : c ≠ "")
    (htrim : Text.trim c = c) (hlen : c.length ≤ limit) :
    Patch.text name limit (.str c) = .ok (.text c) := by
  simp only [Patch.text, htrim]
  rw [if_neg (by simpa using hne), if_neg (by omega)]
  rfl

/-- Tags no two of which are alike in lower case are all kept, in order. -/
theorem distinctTags_of_nodup {l : List String} (h : (l.map Text.lower).Nodup) :
    distinctTags l = l := by
  -- the fold appends each tag and its key, since no key is met twice
  have key : ∀ (l kept keys : List String), (keys ++ l.map Text.lower).Nodup →
      l.foldl (fun (acc : List String × List String) t =>
        if acc.2.contains (Text.lower t) then acc else (acc.1 ++ [t], acc.2 ++ [Text.lower t]))
        (kept, keys) = (kept ++ l, keys ++ l.map Text.lower) := by
    intro l
    induction l with
    | nil => simp
    | cons t l ih =>
      intro kept keys hnd
      have hfresh : Text.lower t ∉ keys := fun hm =>
        (List.nodup_append.1 hnd).2.2 _ hm _ (by simp) rfl
      rw [List.foldl_cons, if_neg (by simpa using hfresh),
        ih (kept ++ [t]) (keys ++ [Text.lower t]) (by simpa using hnd)]
      simp
  unfold distinctTags
  simpa using congrArg Prod.fst (key l [] [] (by simpa using h))

theorem tags_self {ts : List String} (hok : TagsOk ts)
    (hts : ∀ t ∈ ts, t.length ≤ maxTopicLength ∧ Text.squeeze t = t) :
    Patch.tags (.arr (ts.map .str)) = .ok (.tags ts) := by
  have hmap : ts.map (fun t => Text.take (Text.squeeze t) maxTopicLength) = ts := by
    conv_rhs => rw [← List.map_id ts]
    refine List.map_congr_left fun t ht => ?_
    rw [(hts t ht).2, Text.take_of_length_le (hts t ht).1]
    rfl
  have hfilter : ts.filter (fun t => !t.isEmpty) = ts :=
    List.filter_eq_self.2 fun t ht => by simpa using hok.ne_empty t ht
  have htake : ts.take maxTopicTags = ts := List.take_of_length_le hok.length_le
  simp [Patch.tags, List.filterMap_map, hmap, hfilter,
    distinctTags_of_nodup hok.distinct, htake, hok.ne_nil]

end Patch

/-! ## A clean plan passes the plan rule unchanged -/

/-- One step of the plan rule's merge: an entry's count added to its difficulty's running
total, or a new last total for it. -/
def addCount (acc : List (Difficulty × Nat)) (x : DifficultyCount) : List (Difficulty × Nat) :=
  match acc.find? (·.1 == x.difficulty) with
  | some _ => acc.map fun e => if e.1 == x.difficulty then (x.difficulty, e.2 + x.count) else e
  | none => acc ++ [(x.difficulty, x.count)]

/-- Entries of distinct difficulties each open a total of their own. -/
theorem foldl_addCount : ∀ (xs : List DifficultyCount) (acc : List (Difficulty × Nat)),
    (acc.map (·.1) ++ xs.map (·.difficulty)).Nodup →
      xs.foldl addCount acc = acc ++ xs.map fun x => (x.difficulty, x.count)
  | [], acc, _ => by simp
  | x :: xs, acc, hnd => by
    have hfresh : acc.find? (·.1 == x.difficulty) = none := by
      rw [List.find?_eq_none]
      intro e he hex
      have hmem : e.1 ∈ acc.map (·.1) := List.mem_map_of_mem he
      exact (List.nodup_append.1 hnd).2.2 _ hmem x.difficulty (by simp) (by simpa using hex)
    rw [List.foldl_cons, addCount, hfresh, foldl_addCount xs _ (by simpa using hnd)]
    simp

/-- The entry a list of totals gives a difficulty is the plan's own entry for it. -/
theorem entryOf_map_pair (p : List DifficultyCount) (d : Difficulty) :
    entryOf (p.map fun x => (x.difficulty, x.count)) d = p.find? (·.difficulty == d) := by
  unfold entryOf
  rw [List.find?_map]
  cases h : p.find? (·.difficulty == d) with
  | none => simp [h]
  | some x =>
    have hd : x.difficulty = d := by simpa using List.find?_some h
    obtain ⟨xd, n, hn⟩ := x
    simp only at hd
    subst hd
    simp [h, hn]

/-- Reading a plan sorted by difficulty along sorted difficulties that cover it gives the plan
back. -/
theorem filterMap_find_sorted : ∀ (K : List Difficulty) (p : List DifficultyCount),
    K.Pairwise (·.rank < ·.rank) → PlanSorted p → (∀ x ∈ p, x.difficulty ∈ K) →
      K.filterMap (fun d => p.find? (·.difficulty == d)) = p
  | [], p, _, _, hcov => by
    cases p with
    | nil => rfl
    | cons x p => simpa using hcov x (by simp)
  | k :: K, p, hK, hp, hcov => by
    obtain ⟨hk, hK⟩ := List.pairwise_cons.1 hK
    -- every difficulty of the plan other than `k` comes later in `K`
    have hlater : ∀ x ∈ p, x.difficulty ≠ k → x.difficulty ∈ K := fun x hx hne =>
      (List.mem_cons.1 (hcov x hx)).resolve_left hne
    cases p with
    | nil => simp
    | cons x p =>
      obtain ⟨hx, hp⟩ := List.pairwise_cons.1 hp
      by_cases hxk : x.difficulty = k
      · -- the first entry is read at `k`, the rest along `K`, which `x` is not in
        have hrest : K.filterMap (fun d => (x :: p).find? (·.difficulty == d)) =
            K.filterMap (fun d => p.find? (·.difficulty == d)) := by
          refine List.filterMap_congr fun d hd => ?_
          have : x.difficulty ≠ d := by
            rintro rfl
            exact absurd (hk _ hd) (by rw [hxk]; omega)
          simp [this]
        have hcov' : ∀ y ∈ p, y.difficulty ∈ K := fun y hy =>
          hlater y (List.mem_cons_of_mem _ hy) fun hyk => by
            have := hx y hy
            rw [hxk, hyk] at this
            omega
        have hfirst : (x :: p).find? (·.difficulty == k) = some x := by simp [hxk]
        simp only [List.filterMap_cons, hfirst]
        rw [hrest, filterMap_find_sorted K p hK hp hcov']
      · -- nothing of the plan is read at `k`, which comes before all of it
        have hxK := hlater x (by simp) hxk
        have hne : ∀ y ∈ x :: p, y.difficulty ≠ k := by
          intro y hy hyk
          have hle : x.difficulty.rank ≤ y.difficulty.rank := by
            rcases List.mem_cons.1 hy with rfl | hy
            · exact le_refl _
            · exact le_of_lt (hx y hy)
          have := hk _ hxK
          rw [← hyk] at this
          omega
        have hnone : (x :: p).find? (·.difficulty == k) = none :=
          List.find?_eq_none.2 fun y hy hyk => hne y hy (by simpa using hyk)
        rw [List.filterMap_cons, hnone]
        exact filterMap_find_sorted K (x :: p) hK (List.pairwise_cons.2 ⟨hx, hp⟩)
          fun y hy => hlater y hy (hne y hy)

/-- A sorted plan is the plan of its own totals. -/
theorem planOf_map_pair {p : List DifficultyCount} (hp : PlanSorted p) :
    planOf (p.map fun x => (x.difficulty, x.count)) = p := by
  simp only [planOf, entryOf_map_pair]
  exact filterMap_find_sorted _ p (by decide) hp fun x _ => by cases x.difficulty <;> decide

/-- **A clean plan passes the plan rule unchanged.** -/
theorem Patch.plan_self {p : List DifficultyCount} (hp : PlanOk p) :
    Patch.plan (.arr (p.map DifficultyCount.toJson)) = .ok (.plan p) := by
  have hnodup : (p.map (·.difficulty)).Nodup :=
    List.pairwise_map.2 (hp.sorted.imp fun h heq => by rw [heq] at h; omega)
  unfold Patch.plan
  simp only [Patch.planItems, pure_bind, List.foldlM_map]
  rw [@Except.foldlM_eq_ok_foldl _ _ _ _ addCount ?step]
  case step =>
    -- an entry written from a plan passes every check of the merge step
    intro acc x
    have hid : Text.lower (Text.trim x.difficulty.id) = x.difficulty.id := by
      cases x.difficulty <;> rfl
    have hpos := x.count_pos
    simp [DifficultyCount.toJson, Json.lookup, Json.display, hid, Patch.asInt, addCount]
    rw [if_neg (by omega), if_neg (by omega)]
    rfl
  -- the totals are the plan's own entries, and the plan built from them is the plan
  rw [foldl_addCount p [] (by simpa using hnodup), List.nil_append]
  have hne : (p.map fun x => (x.difficulty, x.count)).isEmpty = false := by
    simpa using hp.ne_nil
  have htotal : ((p.map fun x => (x.difficulty, x.count)).map (·.2)).foldr (· + ·) 0 =
      planTotal p := by
    simp [planTotal, List.map_map, Function.comp_def]
  simp only [bind, Except.bind, hne, htotal]
  rw [if_neg (by simp), if_neg (by have := hp.total_le; omega)]
  exact congrArg (fun q => Except.ok (SpecValue.plan q)) (planOf_map_pair hp.sorted)

theorem SpecValue.toJson_isNull (x : SpecValue) : x.toJson.isNull = false := by
  cases x <;> rfl

/-- **Stored values pass their rules unchanged**, topics when none of them ends in white
space. -/
theorem Patch.rule_toJson {f : SpecField} {x : SpecValue} (hx : x.Stored f)
    (hend : f = .topicTags → ∀ ts, x = .tags ts → ∀ t ∈ ts, ∀ c ∈ t.toList.getLast?,
      Text.isSpace c = false) :
    Patch.rule f x.toJson = .ok x := by
  obtain ⟨hc, hs⟩ := hx
  cases f <;> cases x <;> simp only [SpecValue.Clean] at hc <;> simp only at hs <;>
    simp only [Patch.rule, SpecValue.toJson]
  case language.language l => exact Patch.language_id l
  case problemCount.count n => exact Patch.count_int hc.1 hc.2
  case difficultyPlan.plan p => exact Patch.plan_self hc
  case topicTags.tags ts =>
    -- a topic cut from a squeezed text and ending in a word is squeezed itself
    refine Patch.tags_self hc fun t ht => ⟨(hs t ht).1, ?_⟩
    obtain ⟨u, hu, hpre⟩ := (hs t ht).2
    exact Text.squeeze_of_prefix hu hpre (hc.ne_empty t ht) (hend rfl ts rfl t ht)
  case problemStyle.style st => exact Patch.style_id st
  case constraints.text c => exact Patch.text_self hc hs.1 hs.2
  case generationFocus.text c => exact Patch.text_self hc hs.1 hs.2

/-! ## Values written back as JSON -/

section Encode

variable {V : List (SpecField × SpecValue)} {f : SpecField} {x : SpecValue}

theorem verdict_encode_of_mem (hk : (V.map (·.1)).Nodup)
    (hfix : ∀ e ∈ V, Patch.rule e.1 e.2.toJson = .ok e.2) (hm : (f, x) ∈ V) :
    Patch.verdict (SpecDraft.encode V) f = .valid x := by
  have hx := hfix _ hm
  have hnull := SpecValue.toJson_isNull x
  unfold Patch.verdict
  rw [SpecDraft.lookup_encode_of_mem hk hm]
  split
  · next h => cases h
  · next h => rw [(Option.some.inj h)] at hnull; cases hnull
  · next v _ h => rw [← Option.some.inj h, hx]

theorem verdict_encode_of_not_mem (h : f ∉ V.map (·.1)) :
    Patch.verdict (SpecDraft.encode V) f = .unset := by
  unfold Patch.verdict
  rw [SpecDraft.lookup_encode_of_not_mem h]

end Encode

/-! ## Checking the valid values again -/

namespace SpecPatch

/-- The patch that the valid values of `P`, written back as JSON, give when they are checked
again against the agreed draft `cur`. -/
def recheck (P : SpecPatch) (cur : Option SpecDraft) : SpecPatch :=
  checkPatch (.obj (SpecDraft.encode P.validValues)) cur

/-- No valid topic of the patch ends in white space. -/
def TopicsEndInWords (P : SpecPatch) : Prop :=
  ∀ ts, P.get .topicTags = .valid (.tags ts) → ∀ t ∈ ts, ∀ c ∈ t.toList.getLast?,
    Text.isSpace c = false

/-- A plan held against the patch's count when that is valid, and against the agreed count when
the patch leaves the count unset. -/
def PlanHeldBy (P : SpecPatch) (cur : Option SpecDraft) (p : List DifficultyCount) : Prop :=
  (∀ n, P.get .problemCount = .valid (.count n) → planTotal p = n) ∧
  (P.get .problemCount = .unset →
    ∀ s, cur = some s → ∀ n, s.problemCount = some n → (planTotal p : Int) = n)

/-- What a second check asks more of a valid value: a plan proposed beside a refused count must
meet the agreed count. -/
def KeptOnRecheck (P : SpecPatch) (cur : Option SpecDraft) (f : SpecField) (x : SpecValue) :
    Prop :=
  f = .difficultyPlan → ∀ r, P.get .problemCount = .invalid r → ∀ p, x = .plan p →
    ∀ s, cur = some s → ∀ n, s.problemCount = some n → (planTotal p : Int) = n

end SpecPatch

open SpecPatch

/-- **A valid plan is held against the count**: the patch's own when it is valid, the agreed
one when the patch leaves it unset. -/
theorem checkPatch_planHeldBy {c : Json} {cur : Option SpecDraft} {p : List DifficultyCount}
    (h : (checkPatch c cur).get .difficultyPlan = .valid (.plan p)) :
    (checkPatch c cur).PlanHeldBy cur p := by
  cases c with
  | obj fs =>
    have held := checkPatch_get_plan h
    have hcount := @checkPatch_get_ne fs cur .problemCount (by decide)
    exact ⟨fun n hn => held.1 n (hcount ▸ hn), fun hu => held.2 (hcount ▸ hu)⟩
  | _ =>
    rw [show checkPatch _ cur = ofVerdicts (fun _ => .unset) [] from rfl, get_ofVerdicts] at h
    cases h

/-- **The plan of a checked object** is the rules' verdict on it, kept exactly when the plan is
held against the count. -/
theorem checkPatch_get_plan_iff {fs : List (String × Json)} {cur : Option SpecDraft}
    {x : SpecValue} :
    (checkPatch (.obj fs) cur).get .difficultyPlan = .valid x ↔
      Patch.verdict fs .difficultyPlan = .valid x ∧ ∀ p, x = .plan p → PlanHeld fs cur p := by
  constructor
  · intro h
    obtain ⟨P, hP, hplan⟩ := checkPatch_obj fs cur
    rw [hP, get_ofVerdicts, if_pos rfl] at h
    exact hplan x h
  · rintro ⟨hv, hh⟩
    unfold checkPatch
    dsimp only
    rw [@List.map_congr_left _ _ _ _ (fun f => (f, Patch.verdict fs f)) ?hv]
    case hv => exact fun f _ => Patch.verdict_pair fs f
    simp only [get_mk_map]
    split
    · next p t hplan htarget =>
      split
      · -- a held plan never misses its target
        next hne =>
        rw [hplan] at hv
        cases hv
        obtain ⟨h1, h2⟩ := hh p rfl
        exfalso
        apply hne
        cases hc : Patch.verdict fs .problemCount with
        | unset =>
          rw [hc] at htarget
          obtain ⟨s, rfl, hs⟩ := Option.bind_eq_some_iff.1 htarget
          exact h2 hc s rfl t hs
        | invalid r => rw [hc] at htarget; cases htarget
        | valid y =>
          cases y
          case count n =>
            rw [hc] at htarget
            cases htarget
            exact_mod_cast h1 n hc
          all_goals rw [hc] at htarget; cases htarget
      · simpa using hv
    · simpa using hv

/-- A plan the rules refuse stays refused in the checked object: only a valid plan is held against
the count. -/
theorem checkPatch_get_plan_invalid {fs : List (String × Json)} {cur : Option SpecDraft}
    {msg : String} (h : Patch.verdict fs .difficultyPlan = .invalid msg) :
    (checkPatch (.obj fs) cur).get .difficultyPlan = .invalid msg := by
  unfold checkPatch
  dsimp only
  rw [@List.map_congr_left _ _ _ _ (fun f => (f, Patch.verdict fs f)) ?hv]
  case hv => exact fun f _ => Patch.verdict_pair fs f
  simp only [SpecPatch.get_mk_map]
  split
  · next p t hplan _ => rw [hplan] at h; cases h
  · simpa using h

section Recheck

variable {c : Json} {cur : Option SpecDraft} {f : SpecField} {x : SpecValue}

/-- The valid values of a checked patch, written back as JSON, pass their rules unchanged. -/
theorem validValues_fix (ht : (checkPatch c cur).TopicsEndInWords) :
    ∀ e ∈ (checkPatch c cur).validValues, Patch.rule e.1 e.2.toJson = .ok e.2 := by
  rintro ⟨f, x⟩ he
  have hget := mem_validValues_checkPatch.1 he
  exact Patch.rule_toJson (checkPatch_stored hget) fun hf ts hts => ht ts (hf ▸ hts ▸ hget)

theorem verdict_recheck_valid_iff (ht : (checkPatch c cur).TopicsEndInWords) :
    Patch.verdict (SpecDraft.encode (checkPatch c cur).validValues) f = .valid x ↔
      (checkPatch c cur).get f = .valid x := by
  constructor
  · intro h
    by_cases hm : f ∈ (checkPatch c cur).validValues.map (·.1)
    · obtain ⟨⟨f', y⟩, hy, rfl⟩ := List.mem_map.1 hm
      rw [verdict_encode_of_mem (checkPatch_keys_nodup c cur) (validValues_fix ht) hy] at h
      cases h
      exact mem_validValues_checkPatch.1 hy
    · rw [verdict_encode_of_not_mem hm] at h
      cases h
  · intro h
    exact verdict_encode_of_mem (checkPatch_keys_nodup c cur) (validValues_fix ht)
      (mem_validValues_checkPatch.2 h)

theorem verdict_recheck_unset_iff (ht : (checkPatch c cur).TopicsEndInWords) :
    Patch.verdict (SpecDraft.encode (checkPatch c cur).validValues) f = .unset ↔
      ∀ y, (checkPatch c cur).get f ≠ .valid y := by
  constructor
  · intro h y hy
    rw [(verdict_recheck_valid_iff ht).2 hy] at h
    cases h
  · intro h
    apply verdict_encode_of_not_mem
    rintro hm
    obtain ⟨⟨f', y⟩, hy, rfl⟩ := List.mem_map.1 hm
    exact h y (mem_validValues_checkPatch.1 hy)

/-- **Checking the valid values again** keeps exactly the valid values, a plan beside a refused
count only when it meets the agreed count. -/
theorem recheck_get_valid_iff (ht : (checkPatch c cur).TopicsEndInWords) :
    ((checkPatch c cur).recheck cur).get f = .valid x ↔
      (checkPatch c cur).get f = .valid x ∧ (checkPatch c cur).KeptOnRecheck cur f x := by
  by_cases hf : f = .difficultyPlan
  · subst hf
    rw [recheck, checkPatch_get_plan_iff, verdict_recheck_valid_iff ht]
    -- the second time the plan is held against the re-checked count, which is the patch's own
    -- count when that was valid and unset otherwise
    constructor
    · rintro ⟨hv, hheld⟩
      refine ⟨hv, fun _ r hr p hp s hs n hn => (hheld p hp).2 ?_ s hs n hn⟩
      exact (verdict_recheck_unset_iff ht).2 fun y hy => by rw [hr] at hy; cases hy
    · rintro ⟨hv, hkeep⟩
      refine ⟨hv, fun p hp => ⟨fun n hn => ?_, fun hu s hs n hsn => ?_⟩⟩
      · subst hp
        exact (checkPatch_planHeldBy hv).1 n ((verdict_recheck_valid_iff ht).1 hn)
      · subst hp
        have hnv := (verdict_recheck_unset_iff ht).1 hu
        cases hcount : (checkPatch c cur).get .problemCount with
        | unset => exact (checkPatch_planHeldBy hv).2 hcount s hs n hsn
        | invalid r => exact hkeep rfl r hcount p rfl s hs n hsn
        | valid y => exact absurd hcount (hnv y)
  · rw [recheck, checkPatch_get_ne hf, verdict_recheck_valid_iff ht]
    exact ⟨fun h => ⟨h, fun h' => absurd h' hf⟩, fun h => h.1⟩

end Recheck

/-! ## The count a plan is held against -/

/-- **A refused count leaves the plan unchecked.**  With three problems agreed, a proposal of
nine problems, which the rules refuse, and a plan of one easy problem keeps the plan valid,
though it meets neither the proposed count nor the agreed one. -/
theorem invalid_count_leaves_plan_unchecked :
    let P := checkPatch (.obj [("problem_count", .int 9), ("difficulty_plan",
      .arr [.obj [("difficulty", .str "easy"), ("count", .int 1)]])])
      (some ⟨none, some 3, none, none, none, none, none⟩)
    P.get .problemCount = .invalid "problem_count must be between 1 and 7" ∧
      P.get .difficultyPlan = .valid (.plan [⟨.easy, 1, Nat.one_pos⟩]) ∧
      planTotal [⟨.easy, 1, Nat.one_pos⟩] ≠ 3 :=
  ⟨rfl, rfl, by decide⟩

/-! ## The patch rules, and checking twice -/

/-- **Checking a proposal, and checking its valid values again.**  For any proposal and any
agreed draft: every valid value is a stored value; a valid plan is held against the patch's
count when that is valid, and against the agreed count when the patch leaves its count unset;
and when no valid topic ends in white space, checking the valid values again keeps exactly the
valid values, a plan proposed beside a refused count only when it meets the agreed count. -/
theorem checkPatch_stored_held_rechecked (c : Json) (cur : Option SpecDraft) :
    (∀ f x, (checkPatch c cur).get f = .valid x → x.Stored f) ∧
    (∀ p, (checkPatch c cur).get .difficultyPlan = .valid (.plan p) →
      (checkPatch c cur).PlanHeldBy cur p) ∧
    ((checkPatch c cur).TopicsEndInWords → ∀ f x,
      ((checkPatch c cur).recheck cur).get f = .valid x ↔
        (checkPatch c cur).get f = .valid x ∧ (checkPatch c cur).KeptOnRecheck cur f x) :=
  ⟨fun _ _ => checkPatch_stored, fun _ => checkPatch_planHeldBy,
    fun ht _ _ => recheck_get_valid_iff ht⟩

/-- Topics proposed as one text, `"loops, arrays"`, end in words, and a second check keeps
them. -/
theorem topics_rechecked_unchanged :
    let P := checkPatch (.obj [("topic_tags", .str "loops, arrays")]) none
    P.TopicsEndInWords ∧
      ((P.recheck none).get .topicTags = .valid (.tags ["loops", "arrays"]) ↔
        P.get .topicTags = .valid (.tags ["loops", "arrays"]) ∧
          P.KeptOnRecheck none .topicTags (.tags ["loops", "arrays"])) := by
  intro P
  have hP : P.get .topicTags = .valid (.tags ["loops", "arrays"]) := rfl
  have hend : P.TopicsEndInWords := by
    intro ts hts t ht c hc
    rw [hP] at hts
    cases hts
    simp only [List.mem_cons, List.not_mem_nil, or_false] at ht
    rcases ht with rfl | rfl <;> simp only [Option.mem_def] at hc <;> cases hc <;> decide
  exact ⟨hend, (checkPatch_stored_held_rechecked _ none).2.2 hend _ _⟩

end PracticeForge
