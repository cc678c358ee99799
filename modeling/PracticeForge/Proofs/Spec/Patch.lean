import PracticeForge.Proofs.Basic
import PracticeForge.Proofs.Spec.Encode

/-!
# Proofs/Spec/Patch — what the patch rules let through

Whatever a model proposes, a value the patch rules call valid is clean for its field
(`SpecValue.Clean`): a count from one to seven, a plan with one positive entry per difficulty,
easiest first, of at most seven problems (`PlanOk`), one to twelve non-empty topics no two of
which are equal in lower case (`TagsOk`), and non-empty texts.  The main statements:

* `Patch.rule_clean` — each field rule returns only clean values;
* `checkPatch_get_plan` — a valid plan of a checked patch adds up to the patch's own count,
  or to the agreed count when the patch leaves the count unset;
* `mem_validValues_checkPatch` — a valid value was proposed under its field's name.
-/

namespace PracticeForge

/-! ## Clean values -/

/-- A plan lists its difficulties easiest first, each once. -/
def PlanSorted (p : List DifficultyCount) : Prop :=
  p.Pairwise fun a b => a.difficulty.rank < b.difficulty.rank

/-- A plan as the rules keep it: not empty, one entry per difficulty easiest first, at most
`maxProblems` problems in all.  Every count is positive by the type of an entry. -/
structure PlanOk (p : List DifficultyCount) : Prop where
  ne_nil : p ≠ []
  sorted : PlanSorted p
  total_le : planTotal p ≤ maxProblems

/-- Topics as the rules keep them: one to `maxTopicTags` of them, none empty, no two equal in
lower case. -/
structure TagsOk (ts : List String) : Prop where
  ne_nil : ts ≠ []
  length_le : ts.length ≤ maxTopicTags
  ne_empty : ∀ t ∈ ts, t ≠ ""
  distinct : (ts.map Text.lower).Nodup

/-- A value clean for its field. -/
def SpecValue.Clean : SpecField → SpecValue → Prop
  | .language, .language _ => True
  | .problemCount, .count n => minProblems ≤ n ∧ n ≤ maxProblems
  | .difficultyPlan, .plan p => PlanOk p
  | .topicTags, .tags t => TagsOk t
  | .problemStyle, .style _ => True
  | .constraints, .text c => c ≠ ""
  | .generationFocus, .text c => c ≠ ""
  | _, _ => False

theorem SpecValue.Clean.fits {f : SpecField} {v : SpecValue} (h : v.Clean f) : v.fits f := by
  cases f <;> cases v <;> simp_all [SpecValue.Clean, SpecValue.fits]

/-! ## Plans built per difficulty -/

/-- The count of a difficulty in an association list, zero when it has none. -/
def countIn (m : List (Difficulty × Nat)) (d : Difficulty) : Nat :=
  match m.find? (·.1 == d) with
  | some (_, n) => n
  | none => 0

theorem countIn_cons (e : Difficulty × Nat) (m : List (Difficulty × Nat)) (d : Difficulty) :
    countIn (e :: m) d = if e.1 = d then e.2 else countIn m d := by
  by_cases h : e.1 = d <;> simp [countIn, h]

theorem countIn_eq_zero {m : List (Difficulty × Nat)} {d : Difficulty} (h : d ∉ m.map (·.1)) :
    countIn m d = 0 := by
  induction m with
  | nil => rfl
  | cons e m ih =>
    have he : ¬ e.1 = d := fun he => h (by simp [he])
    rw [countIn_cons, if_neg he]
    exact ih fun hm => h (List.mem_cons_of_mem _ hm)

/-- With each difficulty listed once, the counts of an association list add up per difficulty. -/
theorem total_eq_countIn {m : List (Difficulty × Nat)} (h : (m.map (·.1)).Nodup) :
    (m.map (·.2)).foldr (· + ·) 0 =
      countIn m .easy + countIn m .medium + countIn m .hard := by
  induction m with
  | nil => rfl
  | cons e m ih =>
    obtain ⟨hnot, hm⟩ := List.nodup_cons.1 h
    have h0 : countIn m e.1 = 0 := countIn_eq_zero hnot
    obtain ⟨d, n⟩ := e
    simp only [List.map_cons, List.foldr_cons, ih hm, countIn_cons] at h0 ⊢
    cases d <;> simp_all <;> omega

/-- The entry of a difficulty: its count in an association list, when positive. -/
def entryOf (m : List (Difficulty × Nat)) (d : Difficulty) : Option DifficultyCount :=
  match m.find? (·.1 == d) with
  | some (_, n) => if h : 0 < n then some ⟨d, n, h⟩ else none
  | none => none

/-- The plan that lists, easiest first, the difficulties an association list counts. -/
def planOf (m : List (Difficulty × Nat)) : List DifficultyCount := Difficulty.all.filterMap (entryOf m)

theorem entryOf_difficulty {m : List (Difficulty × Nat)} {d : Difficulty} {x : DifficultyCount}
    (h : entryOf m d = some x) : x.difficulty = d := by
  unfold entryOf at h
  split at h
  · split at h
    · cases h; rfl
    · cases h
  · cases h

theorem entryOf_count (m : List (Difficulty × Nat)) (d : Difficulty) :
    ((entryOf m d).map (·.count)).getD 0 = countIn m d := by
  unfold entryOf countIn
  split
  · split <;> simp; omega
  · rfl

theorem planTotal_filterMap {α : Type} (g : α → Option DifficultyCount) (l : List α) :
    planTotal (l.filterMap g) = (l.map fun a => ((g a).map (·.count)).getD 0).foldr (· + ·) 0 := by
  induction l with
  | nil => rfl
  | cons a l ih =>
    rw [List.filterMap_cons]
    cases h : g a <;> simp_all [planTotal]

theorem planOf_sorted (m : List (Difficulty × Nat)) : PlanSorted (planOf m) := by
  refine List.Pairwise.filterMap _ ?_ (by decide : Difficulty.all.Pairwise (·.rank < ·.rank))
  intro a b hab x hx y hy
  rw [entryOf_difficulty hx, entryOf_difficulty hy]
  exact hab

theorem planTotal_planOf (m : List (Difficulty × Nat)) :
    planTotal (planOf m) = countIn m .easy + countIn m .medium + countIn m .hard := by
  simp [planOf, planTotal_filterMap, entryOf_count, Difficulty.all, Nat.add_assoc]

/-! ## The plan rule -/

/-- An association list that counts each difficulty at most once, every count positive. -/
structure Tally (m : List (Difficulty × Nat)) : Prop where
  nodup : (m.map (·.1)).Nodup
  pos : ∀ e ∈ m, 0 < e.2

theorem Tally.nil : Tally [] := ⟨List.nodup_nil, by simp⟩

/-- Adding a positive count to a difficulty, in place or as a new last entry. -/
theorem Tally.bump {m : List (Difficulty × Nat)} (hm : Tally m) (d : Difficulty) {k : Nat}
    (hk : 0 < k) :
    Tally (match m.find? (·.1 == d) with
      | some _ => m.map fun e => if e.1 == d then (d, e.2 + k) else e
      | none => m ++ [(d, k)]) := by
  split
  · next e he =>
    have hkeys : (m.map fun e => if e.1 == d then (d, e.2 + k) else e).map (·.1) = m.map (·.1) := by
      simp only [List.map_map]
      congr 1; funext e; by_cases h : e.1 = d <;> simp [h]
    refine ⟨hkeys ▸ hm.nodup, ?_⟩
    simp only [List.mem_map]
    rintro _ ⟨e, he, rfl⟩
    by_cases h : e.1 = d
    · simp only [h, beq_self_eq_true, if_true]
      omega
    · simp [h, hm.pos e he]
  · next hnone =>
    have hd : d ∉ m.map (·.1) := by
      simp only [List.mem_map, not_exists, not_and]
      intro e he hed
      exact absurd (List.find?_eq_none.1 hnone e he) (by simp [hed])
    refine ⟨?_, ?_⟩
    · rw [List.map_append, List.nodup_append]
      refine ⟨hm.nodup, by simp, ?_⟩
      intro a ha b hb hab
      simp only [List.map_cons, List.map_nil, List.mem_singleton] at hb
      rw [hab, hb] at ha
      exact hd ha
    intro e he
    rcases List.mem_append.1 he with he | he
    · exact hm.pos e he
    · simp at he; rw [he]; exact hk

/-- **The plan rule.**  A plan the rule accepts lists each difficulty once, easiest first, with
positive counts adding up to at most `maxProblems`. -/
theorem Patch.plan_clean {v : Json} {x : SpecValue} (h : Patch.plan v = .ok x) :
    x.Clean .difficultyPlan := by
  unfold Patch.plan at h
  obtain ⟨items, -, h⟩ := Except.bind_eq_ok.1 h
  obtain ⟨m, hm, h⟩ := Except.bind_eq_ok.1 h
  have ht : Tally m := by
    refine Except.foldlM_inv Tally ?_ Tally.nil hm
    intro acc item acc' hacc hstep
    simp only at hstep
    split at hstep
    · split at hstep
      · obtain ⟨n, -, hstep⟩ := Except.bind_eq_ok.1 hstep
        split at hstep
        · simp [bind, Except.bind, throw, throwThe, MonadExceptOf.throw] at hstep
        · split at hstep
          · cases hstep; exact hacc
          · cases hstep; exact hacc.bump _ (by omega)
      · simp [throw, throwThe, MonadExceptOf.throw] at hstep
    · simp [throw, throwThe, MonadExceptOf.throw] at hstep
  -- the plan is `planOf m`, whose total is the total of `m`
  have htotal : planTotal (planOf m) = (m.map (·.2)).foldr (· + ·) 0 := by
    rw [planTotal_planOf, total_eq_countIn ht.nodup]
  split at h
  · simp [bind, Except.bind, throw, throwThe, MonadExceptOf.throw] at h
  · next hne =>
    dsimp only at h
    split at h
    · simp [bind, Except.bind, throw, throwThe, MonadExceptOf.throw] at h
    · next hle =>
      cases h
      show PlanOk (planOf m)
      refine ⟨fun h0 => ?_, planOf_sorted m, by omega⟩
      obtain ⟨e, rest, rfl⟩ := List.exists_cons_of_ne_nil (by simpa using hne)
      have hpos := ht.pos e (by simp)
      simp [h0, planTotal] at htotal
      omega

/-! ## The other rules -/

/-- Keeping the first of each lower-case class keeps tags of the list, no two alike. -/
theorem Patch.distinctTags_spec (l : List String) :
    ((Patch.distinctTags l).map Text.lower).Nodup ∧ ∀ t ∈ Patch.distinctTags l, t ∈ l := by
  unfold Patch.distinctTags
  -- the keys are the kept tags in lower case, and no key is kept twice
  refine (List.foldlRecOn (motive := fun acc : List String × List String =>
      acc.2 = acc.1.map Text.lower ∧ acc.2.Nodup ∧ ∀ t ∈ acc.1, t ∈ l) l _
      ⟨rfl, List.nodup_nil, by simp⟩ ?_).elim fun hk h => ⟨by rw [← hk]; exact h.1, h.2⟩
  rintro ⟨kept, keys⟩ ⟨hk, hnd, hsub⟩ t ht
  dsimp only at hk hnd hsub ⊢
  split
  · exact ⟨hk, hnd, hsub⟩
  · next hc =>
    refine ⟨by simp [hk], ?_, ?_⟩
    · refine List.nodup_append.2 ⟨hnd, by simp, ?_⟩
      intro a ha b hb hab
      simp only [List.mem_singleton] at hb
      exact hc (by simpa [hb, hab] using ha)
    · intro u hu
      rcases List.mem_append.1 hu with hu | hu
      · exact hsub u hu
      · simp at hu; exact hu ▸ ht

/-- The first twelve of the kept tags, when some are kept, are topics as the rules keep them. -/
theorem Patch.tagsOk_take {l : List String} (hl : ∀ t ∈ l, t ≠ "")
    (hne : (Patch.distinctTags l).isEmpty = false) :
    TagsOk ((Patch.distinctTags l).take maxTopicTags) := by
  obtain ⟨hnd, hsub⟩ := Patch.distinctTags_spec l
  refine ⟨?_, List.length_take_le _ _, fun t ht => hl t (hsub t (List.mem_of_mem_take ht)), ?_⟩
  · simpa [maxTopicTags] using hne
  · exact hnd.sublist ((List.take_sublist _ _).map _)

theorem Patch.tags_clean {v : Json} {x : SpecValue} (h : Patch.tags v = .ok x) :
    x.Clean .topicTags := by
  unfold Patch.tags at h
  dsimp only at h
  -- a text is cut at commas first; either way the items are cleaned, filtered and kept alike
  split at h
  all_goals simp only [bind, Except.bind, pure, Except.pure] at h
  rotate_left 2
  · simp [throw, throwThe, MonadExceptOf.throw] at h
  all_goals
    split at h
    · simp [throw, throwThe, MonadExceptOf.throw] at h
    · next hne =>
      cases h
      refine Patch.tagsOk_take (fun t ht => ?_) (by simpa using hne)
      simpa using (List.mem_filter.1 ht).2

theorem Patch.count_clean {v : Json} {x : SpecValue} (h : Patch.count v = .ok x) :
    x.Clean .problemCount := by
  unfold Patch.count at h
  obtain ⟨n, -, h⟩ := Except.bind_eq_ok.1 h
  split at h
  · next hn =>
    cases h
    simp only [SpecValue.Clean, minProblems, maxProblems] at hn ⊢
    omega
  · simp [throw, throwThe, MonadExceptOf.throw] at h

/-- A count from one to `maxProblems`, given as a number, passes the count rule unchanged. -/
theorem Patch.count_int {n : Nat} (h1 : minProblems ≤ n) (h7 : n ≤ maxProblems) :
    Patch.count (.int n) = .ok (.count n) := by
  have hn : (minProblems : Int) ≤ n ∧ (n : Int) ≤ maxProblems := by omega
  simp only [Patch.count, Patch.asInt, pure_bind, if_pos hn, Int.toNat_natCast]
  rfl

theorem Patch.text_clean {name : String} {limit : Nat} {v : Json} {x : SpecValue} (f : SpecField)
    (hf : f = .constraints ∨ f = .generationFocus) (h : Patch.text name limit v = .ok x) :
    x.Clean f := by
  unfold Patch.text at h
  split at h
  · dsimp only at h
    split at h
    · simp [throw, throwThe, MonadExceptOf.throw] at h
    · next hne =>
      split at h
      · simp [throw, throwThe, MonadExceptOf.throw] at h
      · cases h
        rcases hf with rfl | rfl <;> simpa [SpecValue.Clean] using hne
  · simp [throw, throwThe, MonadExceptOf.throw] at h

/-- **The rules return clean values.** -/
theorem Patch.rule_clean {f : SpecField} {v : Json} {x : SpecValue} (h : Patch.rule f v = .ok x) :
    x.Clean f := by
  cases f with
  | language =>
    simp only [Patch.rule, Patch.language] at h
    split at h
    · cases h; trivial
    · simp [throw, throwThe, MonadExceptOf.throw] at h
  | problemCount => exact Patch.count_clean h
  | difficultyPlan => exact Patch.plan_clean h
  | topicTags => exact Patch.tags_clean h
  | problemStyle =>
    simp only [Patch.rule, Patch.style] at h
    split at h
    · cases h; trivial
    · simp [throw, throwThe, MonadExceptOf.throw] at h
  | constraints => exact Patch.text_clean _ (.inl rfl) h
  | generationFocus => exact Patch.text_clean _ (.inr rfl) h

/-! ## A checked patch, field by field -/

/-- The verdict of the rules on one field of a proposed object, before a plan is held against
the count. -/
def Patch.verdict (fs : List (String × Json)) (f : SpecField) : FieldPatch :=
  match Json.lookup fs f.name with
  | none | some .null => .unset
  | some v => match Patch.rule f v with
    | .ok x => .valid x
    | .error r => .invalid r

theorem Patch.verdict_valid {fs : List (String × Json)} {f : SpecField} {x : SpecValue}
    (h : Patch.verdict fs f = .valid x) :
    ∃ v, Json.lookup fs f.name = some v ∧ v.isNull = false ∧ Patch.rule f v = .ok x := by
  unfold Patch.verdict at h
  split at h
  · cases h
  · cases h
  · next v hnull hv =>
    split at h
    · next x' hx => cases h; exact ⟨v, hv, by cases v <;> simp_all [Json.isNull], hx⟩
    · cases h

theorem Patch.verdict_unset {fs : List (String × Json)} {f : SpecField}
    (h : Patch.verdict fs f = .unset) :
    Json.lookup fs f.name = none ∨ Json.lookup fs f.name = some .null := by
  unfold Patch.verdict at h
  split at h
  · exact .inl ‹_›
  · exact .inr ‹_›
  · split at h <;> cases h

/-- A field of a checked object, before the plan is held against the count, carries the rules'
verdict. -/
theorem Patch.verdict_pair (fs : List (String × Json)) (f : SpecField) :
    (match Json.lookup fs f.name with
      | none | some .null => (f, FieldPatch.unset)
      | some v => match Patch.rule f v with
        | .ok x => (f, .valid x)
        | .error r => (f, .invalid r)) = (f, Patch.verdict fs f) := by
  unfold Patch.verdict
  split
  · simp_all
  · simp_all
  · split <;> simp_all

namespace SpecPatch

/-- A patch with a verdict on every field, in spec order. -/
def ofVerdicts (V : SpecField → FieldPatch) (dropped : List String) : SpecPatch :=
  ⟨SpecField.all.map fun f => (f, V f), dropped⟩

@[simp] theorem get_ofVerdicts (V : SpecField → FieldPatch) (d : List String) (f : SpecField) :
    (ofVerdicts V d).get f = V f := by
  cases f <;> rfl

@[simp] theorem get_mk_map (V : SpecField → FieldPatch) (d : List String) (f : SpecField) :
    (⟨SpecField.all.map fun f => (f, V f), d⟩ : SpecPatch).get f = V f :=
  get_ofVerdicts V d f

theorem mem_validValues_ofVerdicts {V : SpecField → FieldPatch} {d : List String} {f : SpecField}
    {x : SpecValue} : (f, x) ∈ (ofVerdicts V d).validValues ↔ V f = .valid x := by
  simp only [validValues, ofVerdicts, List.filterMap_map, List.mem_filterMap]
  constructor
  · rintro ⟨g, -, hg⟩
    revert hg; simp only [Function.comp]; split
    · rintro ⟨⟩; assumption
    · simp
  · intro h
    exact ⟨f, by cases f <;> decide, by simp [h]⟩

theorem validValues_keys_nodup (V : SpecField → FieldPatch) (d : List String) :
    ((ofVerdicts V d).validValues.map (·.1)).Nodup := by
  simp only [validValues, ofVerdicts, List.filterMap_map]
  refine List.pairwise_map.2 (List.Pairwise.filterMap _ ?_ (by decide : SpecField.all.Pairwise (· ≠ ·)))
  intro a b hab x hx y hy
  have hxa : x.1 = a := by
    revert hx; simp only [Function.comp]; split
    · rintro ⟨⟩; rfl
    · simp
  have hyb : y.1 = b := by
    revert hy; simp only [Function.comp]; split
    · rintro ⟨⟩; rfl
    · simp
  rw [hxa, hyb]; exact hab

end SpecPatch

open SpecPatch

/-- A plan held against the count a patch carries, or else the count already agreed. -/
def PlanHeld (fs : List (String × Json)) (cur : Option SpecDraft) (p : List DifficultyCount) : Prop :=
  (∀ n, Patch.verdict fs .problemCount = .valid (.count n) → planTotal p = n) ∧
  (Patch.verdict fs .problemCount = .unset →
    ∀ s, cur = some s → ∀ n, s.problemCount = some n → (planTotal p : Int) = n)

/-- **A checked object, field by field.**  Every field but the plan has the rules' verdict; the
plan has it too, unless it misses the count it is held against, and a valid plan is held. -/
theorem checkPatch_obj (fs : List (String × Json)) (cur : Option SpecDraft) :
    ∃ P, checkPatch (.obj fs) cur = ofVerdicts (fun f => if f = .difficultyPlan then P
        else Patch.verdict fs f) (checkPatch (.obj fs) cur).dropped ∧
      ∀ x, P = .valid x →
        Patch.verdict fs .difficultyPlan = .valid x ∧ ∀ p, x = .plan p → PlanHeld fs cur p := by
  have hsame : ∀ d, ofVerdicts (fun f => if f = .difficultyPlan then Patch.verdict fs .difficultyPlan
      else Patch.verdict fs f) d = ofVerdicts (Patch.verdict fs) d := by
    intro d; congr 1; funext f; split <;> simp_all
  unfold checkPatch
  dsimp only
  rw [List.map_congr_left (g := fun f => (f, Patch.verdict fs f)) ?hv]
  case hv => exact fun f _ => Patch.verdict_pair fs f
  simp only [get_mk_map]
  split
  · next p t hplan htarget =>
    split
    · next hne =>
      refine ⟨.invalid ("difficulty_plan sums to " ++ Nat.repr (planTotal p) ++
        " but problem_count is " ++ Patch.intText t), ?_, by simp⟩
      simp only [ofVerdicts, List.map_map, SpecPatch.mk.injEq, and_true]
      congr 1; funext f; by_cases hf : f = .difficultyPlan <;> simp [hf]
    · next heq =>
      refine ⟨Patch.verdict fs .difficultyPlan, by rw [hsame]; rfl, fun x hx => ⟨hx, ?_⟩⟩
      rintro q rfl
      rw [hplan] at hx; cases hx
      constructor
      · intro n hn; rw [hn] at htarget; simp at htarget; omega
      · intro hn s hs n hsn; rw [hn, hs] at htarget; simp [hsn] at htarget; omega
  · next hnot =>
    refine ⟨Patch.verdict fs .difficultyPlan, by rw [hsame]; rfl, fun x hx => ⟨hx, ?_⟩⟩
    rintro q rfl
    constructor
    · intro n hn; exact absurd (hnot q n) (by simp [hx, hn])
    · intro hn s hs n hsn; exact absurd (hnot q n) (by simp [hx, hn, hs, hsn])

theorem checkPatch_shape (c : Json) (cur : Option SpecDraft) :
    ∃ V, checkPatch c cur = ofVerdicts V (checkPatch c cur).dropped := by
  cases c with
  | obj fs => obtain ⟨P, h, -⟩ := checkPatch_obj fs cur; exact ⟨_, h⟩
  | _ => exact ⟨fun _ => .unset, rfl⟩

/-- A checked patch names each field at most once among its valid values. -/
theorem checkPatch_keys_nodup (c : Json) (cur : Option SpecDraft) :
    ((checkPatch c cur).validValues.map (·.1)).Nodup := by
  obtain ⟨V, h⟩ := checkPatch_shape c cur
  rw [h]; exact validValues_keys_nodup V _

theorem mem_validValues_checkPatch {c : Json} {cur : Option SpecDraft} {f : SpecField}
    {x : SpecValue} : (f, x) ∈ (checkPatch c cur).validValues ↔ (checkPatch c cur).get f = .valid x := by
  obtain ⟨V, h⟩ := checkPatch_shape c cur
  rw [h, mem_validValues_ofVerdicts, get_ofVerdicts]

theorem checkPatch_get_ne {fs : List (String × Json)} {cur : Option SpecDraft} {f : SpecField}
    (hf : f ≠ .difficultyPlan) : (checkPatch (.obj fs) cur).get f = Patch.verdict fs f := by
  obtain ⟨P, h, -⟩ := checkPatch_obj fs cur
  rw [h, get_ofVerdicts, if_neg hf]

/-- **A valid value was proposed.**  It stands in the candidate under its field's name, not
`null`, and the field's rule accepted it. -/
theorem checkPatch_valid {c : Json} {cur : Option SpecDraft} {f : SpecField} {x : SpecValue}
    (h : (checkPatch c cur).get f = .valid x) :
    ∃ fs v, c = .obj fs ∧ Json.lookup fs f.name = some v ∧ v.isNull = false ∧
      Patch.rule f v = .ok x := by
  cases c with
  | obj fs =>
    obtain ⟨P, hP, hplan⟩ := checkPatch_obj fs cur
    rw [hP, get_ofVerdicts] at h
    have hv : Patch.verdict fs f = .valid x := by
      split at h
      · next hf => subst hf; exact (hplan x h).1
      · exact h
    obtain ⟨v, h1, h2, h3⟩ := Patch.verdict_valid hv
    exact ⟨fs, v, rfl, h1, h2, h3⟩
  | _ =>
    rw [show checkPatch _ cur = ofVerdicts (fun _ => .unset) [] from rfl, get_ofVerdicts] at h
    cases h

/-- **Valid values are clean.** -/
theorem checkPatch_clean {c : Json} {cur : Option SpecDraft} {f : SpecField} {x : SpecValue}
    (h : (checkPatch c cur).get f = .valid x) : x.Clean f := by
  obtain ⟨_, _, _, _, _, hx⟩ := checkPatch_valid h
  exact Patch.rule_clean hx

/-- **A valid plan is held against the count.** -/
theorem checkPatch_get_plan {fs : List (String × Json)} {cur : Option SpecDraft}
    {p : List DifficultyCount} (h : (checkPatch (.obj fs) cur).get .difficultyPlan = .valid (.plan p)) :
    PlanHeld fs cur p := by
  obtain ⟨P, hP, hplan⟩ := checkPatch_obj fs cur
  rw [hP, get_ofVerdicts, if_pos rfl] at h
  exact (hplan _ h).2 p rfl

end PracticeForge
