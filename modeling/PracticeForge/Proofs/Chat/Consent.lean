import PracticeForge.Proofs.Chat.Invariant

/-!
# Proofs/Chat/Consent — a hard field changes only with the learner's say

The language, the count and the plan are hard fields: the learner's word on them stands.  In a
turn a hard field changes only when the message is a yes to a waiting change that names it, or
when the message states the field outright and the learner has not committed to it; the plan
may also change with the count, rescaled to it.  So a value that only the dialogue model
proposed never reaches the spec without a yes.  The thread gains commitments to hard fields
only and never loses one, and a turn that leaves a change waiting asks to confirm it
(`hard_fields_change_by_consent`).
-/

namespace PracticeForge

namespace Negotiation

open SpecDraft

/-- Why a turn may change a hard field of a thread, for a message read as `text`. -/
inductive Consented (t : Thread) (text : String) (f : SpecField) : Prop
  /-- The message is a yes to a waiting change that names the field. -/
  | confirmed {p : PendingPatch} : t.pending = some p → Shorthand.isAffirmative text = true →
      f.name ∈ p.fields.map (·.1) → Consented t text f
  /-- The message states the field, and the learner has not committed to it. -/
  | stated {sh : Shorthand} : Shorthand.read text = .ok sh → f ∈ sh.explicitFields →
      f.name ∉ t.commitments → Consented t text f

variable {t t' : Thread} {r : TurnResult} {s s' : SpecDraft}
  {vals : List (SpecField × SpecValue)}

/-! ## What each step changes -/

/-- Ending a turn changes no hard field. -/
theorem finish_agreeOn_hard {ack : Option String} {d : Bool} {req : Option Int}
    (h : finish t ack d req = .ok (r, t')) {f : SpecField} (hf : f.isHard = true) :
    t.spec.agreeOn t'.spec f := by
  obtain ⟨spec, hfill, hspec, -⟩ := finish_ok h
  rw [hspec]
  rcases fillConstraints_ok hfill with ⟨rfl, -⟩ | ⟨l, -, rfl⟩
  · exact agreeOn_refl _ f
  · refine agreeOn.symm (writeAll_agreeOn fun hm => ?_)
    rw [List.map_singleton, List.mem_singleton] at hm
    subst hm
    cases hf

/-- **What applying values changes.**  A field changes only when a value is given for it, when
it is the agreed plan rescaled to a count given against its total, or when it is the
constraints. -/
theorem applyValues_changed (hc : ∀ e ∈ vals, e.2.Clean e.1) (hk : (vals.map (·.1)).Nodup)
    (h : applyValues s (encode vals) = .ok s') {f : SpecField} (hf : ¬s.agreeOn s' f) :
    f ∈ vals.map (·.1) ∨
      (f = .difficultyPlan ∧ ∃ n p, (.problemCount, .count n) ∈ vals ∧ s.difficultyPlan = some p ∧
        planTotal p ≠ n) ∨
      f = .constraints := by
  obtain ⟨extra, hx, -, -, rfl⟩ := applyValues_ok hc hk h
  by_cases hm : f ∈ (vals ++ extra).map (·.1)
  · rw [List.map_append, List.mem_append] at hm
    rcases hm with hm | hm
    · exact .inl hm
    · obtain ⟨e, he, rfl⟩ := List.mem_map.1 hm
      cases hx e he with
      | rescaled hn _ hp _ hne _ => exact .inr (.inl ⟨rfl, _, _, hn, hp, hne⟩)
      | defaulted => exact .inr (.inr rfl)
  · exact absurd (agreeOn.symm (writeAll_agreeOn hm)) hf

/-- A count given against the total of a consistent draft's plan is a new count. -/
theorem applyValues_count_changed (hs : s.Consistent) (hc : ∀ e ∈ vals, e.2.Clean e.1)
    (hk : (vals.map (·.1)).Nodup) (h : applyValues s (encode vals) = .ok s') {n : Nat}
    {p : List DifficultyCount} (hn : (.problemCount, .count n) ∈ vals) (hp : s.difficultyPlan = some p)
    (hne : planTotal p ≠ n) : ¬s.agreeOn s' .problemCount := by
  obtain ⟨extra, -, hxk, -, rfl⟩ := applyValues_ok hc hk h
  intro hagree
  have hcount : (s.writeAll (vals ++ extra)).problemCount = some (n : Int) :=
    writeAll_count_of_mem hxk (List.mem_append_left _ hn)
  exact hne (by exact_mod_cast hs.coupled n p (Eq.trans hagree hcount) hp)

/-! ## The two ways through a turn -/

/-- **Settling a turn changes a hard field only when the message states it**, the learner not
committed to it, or when the field is the plan and the count so stated changed. -/
theorem settle_consented {sh : Shorthand} {ack : Option String} {proposed : List (String × Json)}
    (hs : t.spec.Consistent) (hw : sh.WellCounted) (h : settle t sh ack proposed = .ok (r, t'))
    {f : SpecField} (hf : f.isHard = true) (hch : ¬t.spec.agreeOn t'.spec f) :
    (f ∈ sh.explicitFields ∧ f.name ∉ t.commitments) ∨
      (f = .difficultyPlan ∧ ¬t.spec.agreeOn t'.spec .problemCount ∧
        .problemCount ∈ sh.explicitFields ∧ SpecField.problemCount.name ∉ t.commitments) := by
  obtain ⟨vals, explicit, A, C, t1, s1, hwpc, hg, hs1, hfin⟩ := settle_ok h
  obtain ⟨hclean, hk⟩ := withPlanCount_clean hwpc
  have hout := gate_spec hk hg
  have ht1 : t1.spec = t.spec := by
    rw [hout.thread]
  rw [ht1] at hs1
  have hAc : ∀ e ∈ A, e.2.Clean e.1 := fun e he => hclean e (hout.applied_sublist.subset he)
  have hAk : (A.map (·.1)).Nodup := hk.sublist (hout.applied_sublist.map _)
  -- the thread handed to `finish` holds `s1`, and `finish` keeps its hard fields
  have hfin1 : ∀ g : SpecField, g.isHard = true → s1.agreeOn t'.spec g := by
    intro g hg
    have := finish_agreeOn_hard hfin hg
    rwa [(awaitConfirm_spec _ C).1, (commitHard_spec _ A _).1] at this
  -- a hard value applied was stated by the message, the learner not committed to it
  have hpc : .difficultyPlan ∈ sh.explicitFields → .problemCount ∈ sh.explicitFields := fun h =>
    (Shorthand.mem_explicitFields_count sh).2 (hw.plan_count ((Shorthand.mem_explicitFields_plan sh).1 h))
  have hstated : ∀ e ∈ A, e.1.isHard = true → e.1 ∈ sh.explicitFields ∧ e.1.name ∉ t.commitments :=
    fun e he hh => ⟨withPlanCount_explicit hpc hwpc (hout.applied_hard e he hh).2.1,
      (hout.applied_hard e he hh).2.2⟩
  have hch1 : ¬t.spec.agreeOn s1 f := fun h' => hch (agreeOn.trans h' (hfin1 f hf))
  rcases applyValues_changed hAc hAk hs1 hch1 with hm | ⟨rfl, n, p, hn, hp, hne⟩ | rfl
  · obtain ⟨⟨g, v⟩, hgv, rfl⟩ := List.mem_map.1 hm
    exact .inl (hstated _ hgv hf)
  · refine .inr ⟨rfl, fun h' => ?_, hstated _ hn rfl⟩
    exact applyValues_count_changed hs hAc hAk hs1 hn hp hne
      (agreeOn.trans h' (agreeOn.symm (hfin1 _ rfl)))
  · cases hf

/-- **Applying a confirmed change changes a hard field only when the change names it**, or
when the field is the plan and the count it names changed. -/
theorem applyPending_consented {p : PendingPatch} (hs : t.spec.Consistent)
    (h : applyPending t p = .ok (r, t')) {f : SpecField} (hf : f.isHard = true)
    (hch : ¬t.spec.agreeOn t'.spec f) :
    f.name ∈ p.fields.map (·.1) ∨
      (f = .difficultyPlan ∧ ¬t.spec.agreeOn t'.spec .problemCount ∧
        SpecField.problemCount.name ∈ p.fields.map (·.1)) := by
  obtain ⟨s1, hs1, ack, hfin⟩ := applyPending_ok h
  have hvc : ∀ e ∈ (checkPatch (.obj p.fields) (some t.spec)).validValues, e.2.Clean e.1 :=
    fun e he => checkPatch_clean (mem_validValues_checkPatch.1 he)
  have hvk := checkPatch_keys_nodup (.obj p.fields) (some t.spec)
  have hfin1 : ∀ g : SpecField, g.isHard = true → s1.agreeOn t'.spec g := by
    intro g hg
    have := finish_agreeOn_hard hfin hg
    rwa [(commitHard_spec _ _ _).1] at this
  -- a valid value of the change was named in it
  have hnamed : ∀ g v, (g, v) ∈ (checkPatch (.obj p.fields) (some t.spec)).validValues →
      g.name ∈ p.fields.map (·.1) := by
    intro g v hm
    obtain ⟨fs, w, hfs, hl, -, -⟩ := checkPatch_valid (mem_validValues_checkPatch.1 hm)
    cases hfs
    exact Json.mem_keys_of_lookup hl
  have hch1 : ¬t.spec.agreeOn s1 f := fun h' => hch (agreeOn.trans h' (hfin1 f hf))
  rcases applyValues_changed hvc hvk hs1 hch1 with hm | ⟨rfl, n, q, hn, hq, hne⟩ | rfl
  · obtain ⟨⟨g, v⟩, hgv, rfl⟩ := List.mem_map.1 hm
    exact .inl (hnamed g v hgv)
  · refine .inr ⟨rfl, fun h' => ?_, hnamed _ _ hn⟩
    exact applyValues_count_changed hs hvc hvk hs1 hn hq hne
      (agreeOn.trans h' (agreeOn.symm (hfin1 _ rfl)))
  · cases hf

/-! ## Commitments, and the question a waiting change asks -/

/-- Settling a turn only adds commitments. -/
theorem settle_commitments {sh : Shorthand} {ack : Option String} {proposed : List (String × Json)}
    (h : settle t sh ack proposed = .ok (r, t')) : ∃ added, t'.commitments = t.commitments ++ added := by
  obtain ⟨vals, explicit, A, C, t1, s1, hwpc, hg, -, hfin⟩ := settle_ok h
  obtain ⟨-, hk⟩ := withPlanCount_clean hwpc
  obtain ⟨gained, hgained, -⟩ := (gate_spec hk hg).commits
  obtain ⟨added, hcommit, -⟩ := commitHard_eq { t1 with spec := s1 } A explicit.contains
  obtain ⟨-, -, -, -, hcom, -⟩ := finish_ok hfin
  refine ⟨gained ++ added, ?_⟩
  rw [hcom, (awaitConfirm_spec _ C).2, hcommit, ← List.append_assoc, ← hgained]

/-- Applying a confirmed change only adds commitments. -/
theorem applyPending_commitments {p : PendingPatch} (h : applyPending t p = .ok (r, t')) :
    ∃ added, t'.commitments = t.commitments ++ added := by
  obtain ⟨s1, -, ack, hfin⟩ := applyPending_ok h
  obtain ⟨added, hcommit, -⟩ := commitHard_eq { t with spec := s1 }
    (checkPatch (.obj p.fields) (some t.spec)).validValues fun _ => true
  obtain ⟨-, -, -, -, hcom, -⟩ := finish_ok hfin
  exact ⟨added, by rw [hcom, hcommit]⟩

/-- A turn that ends with a change waiting asks the learner to confirm it. -/
theorem finish_confirms {ack : Option String} {d : Bool} {req : Option Int}
    (h : finish t ack d req = .ok (r, t')) (hp : t'.pending.isSome) :
    t'.state = .clarifying ∧ r.state = .clarifying ∧ r.nextAction = .confirm := by
  obtain ⟨spec, -, -, hpend, -, hstate, hrs, hra⟩ := finish_ok h
  obtain ⟨p, hp⟩ := Option.isSome_iff_exists.1 hp
  have hp' : ({ t with spec } : Thread).pending = some p := hpend ▸ hp
  rw [nextStep_pending hp'] at hstate hra
  exact ⟨hstate, hrs.trans hstate, hra⟩

/-! ## Every turn of a negotiated thread -/

/-- **A hard field changes only with the learner's say.**  In a turn that keeps a negotiated
thread, a hard field changes only when the message is a yes to a waiting change that names it,
or states the field while the learner is not committed to it, or when the field is the plan and
the count changed so.  The thread keeps its commitments and gains commitments to hard fields
only, and a change left waiting is what the turn asks to confirm. -/
theorem hard_fields_change_by_consent {message : Option String} {model : String → ModelReply}
    {prompt : Option String} (ht : Negotiated t)
    (h : turn t message model = (prompt, .ok (r, some t'))) :
    (∀ f, f.isHard = true → ¬t.spec.agreeOn t'.spec f →
      Consented t (Text.trim (message.getD "")) f ∨
        (f = .difficultyPlan ∧ ¬t.spec.agreeOn t'.spec .problemCount ∧
          Consented t (Text.trim (message.getD "")) .problemCount)) ∧
    (∃ added, t'.commitments = t.commitments ++ added) ∧
    (∀ c ∈ t'.commitments, ∃ f : SpecField, f.isHard = true ∧ c = f.name) ∧
    (t'.pending.isSome → t'.state = .clarifying ∧ r.state = .clarifying ∧ r.nextAction = .confirm) := by
  obtain ⟨t1, hspec, hcom, -, hpath⟩ := turn_ok h
  have hts : t1.spec = t.spec := hspec
  have htc : t1.commitments = t.commitments := hcom
  have hs : t1.spec.Consistent := hts ▸ ht.settled.spec
  refine ⟨fun f hf hch => ?_, ?_, (Negotiated.turn ht h).settled.commitments, fun hp => ?_⟩
  · rw [← hts] at hch
    rcases hpath with ⟨p, hp, ha, happ⟩ | ⟨sh, ack, proposed, hsh, -, hset⟩
    · -- a yes to the waiting change
      rcases applyPending_consented hs happ hf hch with hn | ⟨rfl, hcc, hn⟩
      · exact .inl (.confirmed hp ha hn)
      · exact .inr ⟨rfl, hts ▸ hcc, .confirmed hp ha hn⟩
    · -- the message read for stated values
      rcases settle_consented hs (Shorthand.read_wellCounted hsh) hset hf hch with
        ⟨he, hn⟩ | ⟨rfl, hcc, he, hn⟩
      · exact .inl (.stated hsh he (htc ▸ hn))
      · exact .inr ⟨rfl, hts ▸ hcc, .stated hsh he (htc ▸ hn)⟩
  · rcases hpath with ⟨p, -, -, happ⟩ | ⟨sh, ack, proposed, -, -, hset⟩
    · rw [← htc]
      exact applyPending_commitments happ
    · rw [← htc]
      exact settle_commitments hset
  · rcases hpath with ⟨p, -, -, happ⟩ | ⟨sh, ack, proposed, -, -, hset⟩
    · obtain ⟨_, _, _, hfin⟩ := applyPending_ok happ
      exact finish_confirms hfin hp
    · obtain ⟨_, _, _, _, _, _, _, _, _, hfin⟩ := settle_ok hset
      exact finish_confirms hfin hp

/-- The turn of `surrogate_turn_run` keeps the thread, and changes its hard fields only with
the learner's say. -/
theorem surrogate_turn_consented :
    ∃ prompt r t', turn (Thread.greeted "t" .practice)
        (some "2 easy problems in python, return. Topics: lists") surrogateProposer =
        (prompt, .ok (r, some t')) ∧
      (∀ f, f.isHard = true → ¬(Thread.greeted "t" .practice).spec.agreeOn t'.spec f →
        Consented (Thread.greeted "t" .practice)
            (Text.trim ((some "2 easy problems in python, return. Topics: lists").getD "")) f ∨
          (f = .difficultyPlan ∧ ¬(Thread.greeted "t" .practice).spec.agreeOn t'.spec .problemCount ∧
            Consented (Thread.greeted "t" .practice)
              (Text.trim ((some "2 easy problems in python, return. Topics: lists").getD ""))
              .problemCount)) ∧
      (∃ added, t'.commitments = (Thread.greeted "t" .practice).commitments ++ added) ∧
      (∀ c ∈ t'.commitments, ∃ f : SpecField, f.isHard = true ∧ c = f.name) ∧
      (t'.pending.isSome → t'.state = .clarifying ∧ r.state = .clarifying ∧
        r.nextAction = .confirm) := by
  have hrun := surrogate_turn_run
  generalize hout : turn (Thread.greeted "t" .practice) _ _ = o at hrun
  obtain ⟨prompt, _ | ⟨r, _ | t'⟩⟩ := o
  · simp at hrun
  · simp at hrun
  -- the run is generalized in the goal too
  exact ⟨prompt, r, t', rfl, hard_fields_change_by_consent (.created "t" .practice) hout⟩

end Negotiation

end PracticeForge
