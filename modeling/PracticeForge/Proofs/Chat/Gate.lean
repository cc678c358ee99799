import PracticeForge.Proofs.Chat.Apply

/-!
# Proofs/Chat/Gate — which hard values a turn applies

`gate` walks the fields in spec order.  A value of a soft field passes.  A value of a hard
field that the draft already holds is dropped (and committed to, when stated).  A new value of
a hard field waits for a yes when the field was committed to or the learner did not state it;
otherwise it passes.  Last, a count or plan that waits takes the other one with it.

`gate_spec` gathers what follows for values with one value per field: a hard value that passes
was stated, is new, and its field was not committed to; every other hard value is held already
or waits; count and plan never part; and the thread only gains commitments to hard fields.
-/

namespace PracticeForge

theorem SpecField.mem_all (f : SpecField) : f ∈ SpecField.all := by
  cases f <;> decide

theorem SpecField.all_nodup : SpecField.all.Nodup := by decide

theorem Thread.commit_eq (t : Thread) (c : String) :
    t.commit c = { t with commitments := (t.commit c).commitments } := by
  unfold Thread.commit
  split <;> rfl

theorem Thread.with_commitments {t t1 : Thread} (h : t1 = { t with commitments := t1.commitments })
    (cs : List String) : { t1 with commitments := cs } = { t with commitments := cs } := by
  rw [h]

theorem Thread.commit_commitments (t : Thread) (c : String) :
    ∃ added, (t.commit c).commitments = t.commitments ++ added ∧ ∀ c' ∈ added, c' = c := by
  unfold Thread.commit
  split
  · exact ⟨[], by simp, by simp⟩
  · exact ⟨[c], rfl, by simp⟩

namespace Negotiation

theorem coupled_isHard {f : SpecField} (h : coupled f = true) : f.isHard = true := by
  cases f <;> simp_all [coupled, SpecField.isHard]

/-! ## The walk over the fields -/

section Walk

variable (t : Thread) (explicit : List SpecField) (values : List (SpecField × SpecValue))

/-- The gate after the fields `done`: the held values of hard fields among them are dropped,
the values that wait among them are set aside, and the thread has gained commitments to hard
fields among them only. -/
structure GateInv (done : List SpecField)
    (st : List (SpecField × SpecValue) × List (SpecField × SpecValue) × Thread) : Prop where
  kept_sublist : st.1.Sublist values
  kept : ∀ e ∈ values, e ∈ st.1 ↔ ¬(e.1 ∈ done ∧ e.1.isHard ∧ t.spec.holds e.1 e.2)
  waits : ∀ e, e ∈ st.2.1 ↔ e ∈ values ∧ e.1 ∈ done ∧ e.1.isHard ∧ ¬t.spec.holds e.1 e.2 ∧
    (e.1.name ∈ t.commitments ∨ e.1 ∉ explicit)
  waits_nodup : (st.2.1.map (·.1)).Nodup
  thread : st.2.2 = { t with commitments := st.2.2.commitments }
  commits : ∃ added, st.2.2.commitments = t.commitments ++ added ∧
    ∀ c ∈ added, ∃ g ∈ done, g.isHard ∧ c = g.name

variable {t explicit values}
variable {done : List SpecField} {a : SpecField} {vs cf : List (SpecField × SpecValue)}
  {t1 : Thread}

theorem gateInv_nil : GateInv t explicit values [] (values, [], t) :=
  ⟨List.Sublist.refl _, by simp, by simp, by simp, rfl, ⟨[], by simp, by simp⟩⟩

/-- A field the thread has gained no commitment to has its old standing. -/
theorem GateInv.contains_iff (h : GateInv t explicit values done (vs, cf, t1)) (ha : a ∉ done) :
    t1.commitments.contains a.name ↔ a.name ∈ t.commitments := by
  obtain ⟨added, hc, hadded⟩ := h.commits
  rw [List.contains_iff_mem, hc, List.mem_append]
  refine ⟨fun h' => h'.resolve_right fun hm => ?_, Or.inl⟩
  obtain ⟨g, hg, -, hname⟩ := hadded _ hm
  exact ha (SpecField.name_inj.1 hname ▸ hg)

/-- Commitments gained before a field count for it too once it is walked. -/
theorem GateInv.commits_append (h : GateInv t explicit values done (vs, cf, t1)) :
    ∃ added, t1.commitments = t.commitments ++ added ∧
      ∀ c ∈ added, ∃ g ∈ done ++ [a], g.isHard ∧ c = g.name := by
  obtain ⟨added, hc, hadded⟩ := h.commits
  exact ⟨added, hc, fun c hc' => by
    obtain ⟨g, hg, hh, hn⟩ := hadded c hc'
    exact ⟨g, List.mem_append_left _ hg, hh, hn⟩⟩

/-- A field whose value neither is held nor waits leaves the walk as it was. -/
theorem GateInv.keep (h : GateInv t explicit values done (vs, cf, t1))
    (hkeep : ∀ e ∈ values, e.1 = a → e.1.isHard → ¬t.spec.holds e.1 e.2 ∧
      ¬(e.1.name ∈ t.commitments ∨ e.1 ∉ explicit)) :
    GateInv t explicit values (done ++ [a]) (vs, cf, t1) := by
  refine ⟨h.kept_sublist, fun e he => ?_, fun e => ?_, h.waits_nodup, h.thread, ?_⟩
  · rw [h.kept e he]
    by_cases hea : e.1 = a
    · have := hkeep e he hea
      simp only [List.mem_append, List.mem_singleton]
      tauto
    · simp [hea]
  · rw [h.waits e]
    by_cases hea : e.1 = a
    · constructor
      · rintro ⟨he, hd, hh, hn, hc⟩
        exact ⟨he, List.mem_append_left _ hd, hh, hn, hc⟩
      · rintro ⟨he, -, hh, hn, hc⟩
        exact absurd hc (hkeep e he hea hh).2
    · simp [hea]
  · exact h.commits_append

/-- A held value of a hard field is dropped, and committed to when stated. -/
theorem GateInv.drop (h : GateInv t explicit values done (vs, cf, t1))
    (hk : (values.map (·.1)).Nodup) (ha : a ∉ done) {v : SpecValue} (hv : (a, v) ∈ values)
    (hhard : a.isHard = true) (hheld : t.spec.holds a v = true) :
    GateInv t explicit values (done ++ [a])
      (vs.filter (·.1 != a), cf, if explicit.contains a then t1.commit a.name else t1) := by
  have hval : ∀ e ∈ values, e.1 = a → e = (a, v) := fun e he hea =>
    List.inj_on_of_nodup_map hk he hv hea
  have hthread : (if explicit.contains a then t1.commit a.name else t1) =
      { t with commitments := (if explicit.contains a then t1.commit a.name else t1).commitments } := by
    split
    · rw [Thread.commit_eq]
      exact Thread.with_commitments h.thread _
    · exact h.thread
  refine ⟨(List.filter_sublist).trans h.kept_sublist, fun e he => ?_, fun e => ?_, h.waits_nodup,
    hthread, ?_⟩
  · by_cases hea : e.1 = a
    · obtain rfl := hval e he hea
      simp [hhard, hheld]
    · rw [List.mem_filter, h.kept e he]
      simp [hea]
  · rw [h.waits e]
    by_cases hea : e.1 = a
    · constructor
      · intro hc
        exact absurd (hea ▸ hc.2.1) ha
      · rintro ⟨he, -, -, hn, -⟩
        exact absurd (by rw [hval e he hea]; exact hheld) hn
    · simp [hea]
  · obtain ⟨added, hc, hadded⟩ := h.commits
    have hmono : ∀ c ∈ added, ∃ g ∈ done ++ [a], g.isHard ∧ c = g.name := fun c hc' => by
      obtain ⟨g, hg, hh, hn⟩ := hadded c hc'
      exact ⟨g, List.mem_append_left _ hg, hh, hn⟩
    split
    · obtain ⟨more, hm, hmore⟩ := Thread.commit_commitments t1 a.name
      refine ⟨added ++ more, by rw [hm, hc, List.append_assoc], fun c hc' => ?_⟩
      rcases List.mem_append.1 hc' with hc' | hc'
      · exact hmono c hc'
      · exact ⟨a, by simp, hhard, hmore c hc'⟩
    · exact ⟨added, hc, hmono⟩

/-- A new value of a hard field that was committed to, or not stated, waits for a yes. -/
theorem GateInv.defer (h : GateInv t explicit values done (vs, cf, t1))
    (hk : (values.map (·.1)).Nodup) (ha : a ∉ done) {v : SpecValue} (hv : (a, v) ∈ values)
    (hhard : a.isHard = true) (hnew : ¬t.spec.holds a v = true)
    (hwait : (t1.commitments.contains a.name || !explicit.contains a) = true) :
    GateInv t explicit values (done ++ [a]) (vs, cf ++ [(a, v)], t1) := by
  have hval : ∀ e ∈ values, e.1 = a → e = (a, v) := fun e he hea =>
    List.inj_on_of_nodup_map hk he hv hea
  have hcond : a.name ∈ t.commitments ∨ a ∉ explicit := by
    rw [← h.contains_iff ha]
    simpa using hwait
  refine ⟨h.kept_sublist, fun e he => ?_, fun e => ?_, ?_, h.thread, h.commits_append⟩
  · rw [h.kept e he]
    by_cases hea : e.1 = a
    · obtain rfl := hval e he hea
      simp [ha, hnew]
    · simp [hea]
  · rw [List.mem_append, h.waits e, List.mem_singleton]
    by_cases hea : e.1 = a
    · constructor
      · rintro (⟨-, hd, -⟩ | rfl)
        · exact absurd (hea ▸ hd) ha
        · exact ⟨hv, by simp, hhard, hnew, hcond⟩
      · rintro ⟨he, -⟩
        exact Or.inr (hval e he hea)
    · have hne : e ≠ (a, v) := fun he => hea (by rw [he])
      simp [hea, hne]
  · rw [List.map_append, List.nodup_append]
    refine ⟨h.waits_nodup, by simp, ?_⟩
    intro x hx y hy hxy
    obtain ⟨e, he, rfl⟩ := List.mem_map.1 hx
    simp only [List.map_cons, List.map_nil, List.mem_singleton] at hy
    exact ha (hy ▸ hxy ▸ ((h.waits e).1 he).2.1)

end Walk

/-! ## What the gate hands on -/

/-- What the gate hands on, for values with one value per field: the values `A` applied now,
the values `C` that wait for a yes, and the thread `t'`. -/
structure GateOut (t : Thread) (explicit : List SpecField)
    (values A C : List (SpecField × SpecValue)) (t' : Thread) : Prop where
  applied_sublist : A.Sublist values
  waits_mem : ∀ e ∈ C, e ∈ values ∧ e.1.isHard
  waits_nodup : (C.map (·.1)).Nodup
  applied_not_waits : ∀ e ∈ A, e.1 ∉ C.map (·.1)
  /-- A hard value applied now is new, stated, and its field was not committed to. -/
  applied_hard : ∀ e ∈ A, e.1.isHard →
    ¬t.spec.holds e.1 e.2 ∧ e.1 ∈ explicit ∧ e.1.name ∉ t.commitments
  /-- A hard value not applied is held already or waits. -/
  hard_cases : ∀ e ∈ values, e.1.isHard → e ∉ A → e ∈ C ∨ t.spec.holds e.1 e.2
  /-- Count and plan never part: when one waits, neither is applied. -/
  coupled : (C.any fun e => coupled e.1) → ∀ e ∈ A, coupled e.1 = false
  thread : t' = { t with commitments := t'.commitments }
  commits : ∃ added, t'.commitments = t.commitments ++ added ∧
    ∀ c ∈ added, ∃ g : SpecField, g.isHard ∧ c = g.name

section Out

variable {t : Thread} {explicit : List SpecField} {values vs cf : List (SpecField × SpecValue)}
  {t1 : Thread}

/-- The last step of the gate: a waiting count or plan takes the other one along, and what does
not wait is applied. -/
theorem gateOut_of_walk (hk : (values.map (·.1)).Nodup)
    (h : GateInv t explicit values SpecField.all (vs, cf, t1)) :
    let C := if cf.any (fun e => coupled e.1) then
        cf ++ vs.filter fun e => coupled e.1 && !cf.any (·.1 == e.1)
      else cf
    GateOut t explicit values (vs.filter fun e => !C.any (·.1 == e.1)) C t1 := by
  intro C
  have hcf : ∀ e ∈ cf, e ∈ values ∧ e.1.isHard := fun e he => by
    obtain ⟨hv, -, hh, -⟩ := (h.waits e).1 he
    exact ⟨hv, hh⟩
  have hvs : (vs.map (·.1)).Nodup := hk.sublist (h.kept_sublist.map _)
  -- the values that wait: those set aside, and maybe the other half of a count and plan
  have hC : ∀ e ∈ C, e ∈ cf ∨ (e ∈ vs ∧ coupled e.1 ∧ e.1 ∉ cf.map (·.1)) := by
    intro e he
    simp only [C] at he
    split at he
    · rcases List.mem_append.1 he with he | he
      · exact Or.inl he
      · simp only [List.mem_filter, Bool.and_eq_true, Bool.not_eq_true', List.any_eq_false,
          beq_iff_eq] at he
        exact Or.inr ⟨he.1, he.2.1, fun hm => by
          obtain ⟨x, hx, hxe⟩ := List.mem_map.1 hm
          exact he.2.2 x hx hxe⟩
    · exact Or.inl he
  have hmemA : ∀ e, e ∈ vs.filter (fun e => !C.any (·.1 == e.1)) ↔ e ∈ vs ∧ e.1 ∉ C.map (·.1) := by
    intro e
    simp only [List.mem_filter, Bool.not_eq_true', List.any_eq_false, beq_iff_eq, List.mem_map,
      not_exists, not_and]
  have hvals : ∀ e ∈ vs, e ∈ values := fun e he => h.kept_sublist.subset he
  have hcfC : ∀ e ∈ cf, e ∈ C := by
    intro e he
    simp only [C]
    split
    · exact List.mem_append_left _ he
    · exact he
  have hwaits : ∀ e ∈ C, e ∈ values ∧ e.1.isHard := by
    intro e he
    rcases hC e he with he | ⟨he, hc, -⟩
    · exact hcf e he
    · exact ⟨hvals e he, coupled_isHard hc⟩
  refine ⟨(List.filter_sublist).trans h.kept_sublist, hwaits, ?_, fun e he => ((hmemA e).1 he).2,
    ?_, ?_, ?_, h.thread, ?_⟩
  · -- the waiting values have one value per field
    simp only [C]
    split
    · rw [List.map_append, List.nodup_append]
      refine ⟨h.waits_nodup, hvs.sublist ((List.filter_sublist).map _), ?_⟩
      intro x hx y hy hxy
      obtain ⟨e, he, rfl⟩ := List.mem_map.1 hy
      simp only [List.mem_filter, Bool.and_eq_true, Bool.not_eq_true', List.any_eq_false,
        beq_iff_eq] at he
      obtain ⟨c, hc, rfl⟩ := List.mem_map.1 hx
      exact he.2.2 c hc hxy
    · exact h.waits_nodup
  · -- an applied hard value neither is held nor waits, so it is new, stated and uncommitted
    intro e he hh
    obtain ⟨hev, hnot⟩ := (hmemA e).1 he
    have hv := hvals e hev
    have hheld : ¬t.spec.holds e.1 e.2 := fun hh' =>
      (h.kept e hv).1 hev ⟨SpecField.mem_all _, hh, hh'⟩
    have hcf' : ¬(e.1.name ∈ t.commitments ∨ e.1 ∉ explicit) := fun hc =>
      hnot (List.mem_map_of_mem (hcfC e ((h.waits e).2 ⟨hv, SpecField.mem_all _, hh, hheld, hc⟩)))
    push Not at hcf'
    exact ⟨hheld, hcf'.2, hcf'.1⟩
  · -- a hard value not applied is held, or its field waits, and then with this very value
    intro e hv hh hA
    by_cases hheld : t.spec.holds e.1 e.2 = true
    · exact Or.inr hheld
    left
    have hev : e ∈ vs := (h.kept e hv).2 fun hd => hheld hd.2.2
    have hkey : e.1 ∈ C.map (·.1) := by
      by_contra hn
      exact hA ((hmemA e).2 ⟨hev, hn⟩)
    obtain ⟨c, hc, hce⟩ := List.mem_map.1 hkey
    rwa [← List.inj_on_of_nodup_map hk (hwaits c hc).1 hv hce]
  · -- when a count or plan waits, the gate has set one aside and takes the other along
    intro hany e he
    obtain ⟨hev, hnot⟩ := (hmemA e).1 he
    have hcfany : (cf.any fun e => coupled e.1) = true := by
      by_contra hn
      simp only [C, hn, if_false] at hany
    by_contra hce
    rw [Bool.not_eq_false] at hce
    by_cases hin : e.1 ∈ cf.map (·.1)
    · obtain ⟨c, hc, hce'⟩ := List.mem_map.1 hin
      exact hnot (hce' ▸ List.mem_map_of_mem (hcfC c hc))
    · apply hnot
      refine List.mem_map_of_mem (f := fun x : SpecField × SpecValue => x.1) ?_
      simp only [C, hcfany, if_true]
      refine List.mem_append_right _ (List.mem_filter.2 ⟨hev, ?_⟩)
      simp only [hce, Bool.true_and, Bool.not_eq_true', List.any_eq_false, beq_iff_eq]
      exact fun c hc hce' => hin (hce' ▸ List.mem_map_of_mem hc)
  · obtain ⟨added, hc, hadded⟩ := h.commits
    exact ⟨added, hc, fun c hc' => by
      obtain ⟨g, -, hh, hn⟩ := hadded c hc'
      exact ⟨g, hh, hn⟩⟩

end Out

/-- **The gate.**  For values with one value per field, `gate` hands on what `GateOut` says. -/
theorem gate_spec {t t' : Thread} {explicit : List SpecField}
    {values A C : List (SpecField × SpecValue)} (hk : (values.map (·.1)).Nodup)
    (h : gate t explicit values = (A, C, t')) : GateOut t explicit values A C t' := by
  unfold gate at h
  split at h
  next vs cf t1 hfold =>
  -- the walk over the fields keeps `GateInv`, one field at a time
  have hinv : GateInv t explicit values SpecField.all (vs, cf, t1) := by
    refine foldl_prefix_inv (GateInv t explicit values) gateInv_nil ?_ hfold
    rintro done a rest ⟨vs, cf, t1⟩ hl hinv
    have ha : a ∉ done := fun had => by
      have hnd := SpecField.all_nodup
      rw [← hl] at hnd
      exact (List.nodup_append.1 hnd).2.2 a had a List.mem_cons_self rfl
    have hspec : t1.spec = t.spec := by
      have := congrArg Thread.spec hinv.thread
      exact this
    dsimp only
    rw [hspec]
    split
    · next a' v hfind =>
      have hmem : (a', v) ∈ vs := List.mem_of_find?_eq_some hfind
      have hkey : a' = a := by simpa using List.find?_some hfind
      subst hkey
      have hv : (a', v) ∈ values := hinv.kept_sublist.subset hmem
      split
      · next hsoft =>
        -- a soft field passes
        exact hinv.keep fun e _ hea hh => absurd (hea ▸ hh) (by simpa using hsoft)
      · next hhard =>
        have hhard : a'.isHard = true := by simpa using hhard
        split
        · next hheld => exact hinv.drop hk ha hv hhard hheld
        · next hnew =>
          split
          · next hwait => exact hinv.defer hk ha hv hhard hnew hwait
          · next hpass =>
            -- a new, stated value of a field not committed to passes
            refine hinv.keep fun e he hea _ => ?_
            obtain rfl := List.inj_on_of_nodup_map hk he hv hea
            refine ⟨hnew, fun hc => hpass ?_⟩
            rw [← hinv.contains_iff ha] at hc
            simpa using hc
    · next hnone =>
      -- no value for the field: the walk moves on
      refine hinv.keep fun e he hea _ => absurd ?_ (List.find?_eq_none.1 hnone e ?_)
      · simp [hea]
      · exact (hinv.kept e he).2 fun hd => ha (hea ▸ hd.1)
  simp only [Prod.mk.injEq] at h
  obtain ⟨rfl, rfl, rfl⟩ := h
  exact gateOut_of_walk hk hinv



end Negotiation

end PracticeForge
