import PracticeForge.Proofs.Chat.Apply
import PracticeForge.Proofs.Spec.Consistent

/-!
# Proofs/Chat/Coupling — count and plan stay in step

Writing clean values keeps a draft consistent when a plan written agrees with the count, and a
count written agrees with a plan kept (`SpecDraft.Consistent.writeAll`).  `applyValues` sees
to the second half on its own: a count that comes without a plan rescales the agreed plan.  So
only the first half is asked of its callers (`Negotiation.applyValues_consistent`).
-/

namespace PracticeForge

namespace Negotiation

open SpecDraft

variable {s s' : SpecDraft} {vals : List (SpecField × SpecValue)}

theorem Implied.clean (hs : s.Consistent) (hc : ∀ e ∈ vals, e.2.Clean e.1)
    {e : SpecField × SpecValue} (h : Implied s vals e) : e.2.Clean e.1 := by
  cases h with
  | rescaled hn _ hp _ _ hq =>
    have hn' := hc _ hn
    have hpo : PlanOk _ := hs.fields .difficultyPlan _ hp
    exact (rescalePlan_ok hpo.sorted hpo.total_pos hn'.1 hn'.2 hq).1
  | defaulted => exact Language.defaultConstraints_ne _

theorem Implied.key {e : SpecField × SpecValue} (h : Implied s vals e) :
    e.1 = .difficultyPlan ∨ e.1 = .constraints := by
  cases h
  · exact .inl rfl
  · exact .inr rfl

/-- **Applying checked values keeps a draft consistent**, as long as a plan among them agrees
with the count. -/
theorem applyValues_consistent (hs : s.Consistent) (hc : ∀ e ∈ vals, e.2.Clean e.1)
    (hk : (vals.map (·.1)).Nodup) (hplan : PlanAgrees s vals)
    (h : applyValues s (encode vals) = .ok s') : s'.Consistent := by
  obtain ⟨extra, hx, hxk, hdue, rfl⟩ := applyValues_ok hc hk h
  -- nothing implied is a count
  have hnc : ∀ e ∈ extra, e.1 ≠ .problemCount := fun e he hce => by
    rcases (hx e he).key with h' | h' <;> rw [h'] at hce <;> cases hce
  have hcount_keys : .problemCount ∈ (vals ++ extra).map (·.1) ↔ .problemCount ∈ vals.map (·.1) := by
    simp only [List.map_append, List.mem_append, or_iff_left_iff_imp, List.mem_map]
    rintro ⟨e, he, hce⟩
    exact absurd hce (hnc e he)
  refine hs.writeAll (fun e he => ?_) hxk (fun p hp => ?_) (fun n p hn hpv hp => ?_)
  · rcases List.mem_append.1 he with he | he
    · exact hc e he
    · exact (hx e he).clean hs hc
  · rcases List.mem_append.1 hp with hp | hp
    · -- a plan given agrees as it did among the given values
      rcases hplan p hp with ⟨n, hn, htot⟩ | ⟨hcv, hcur⟩
      · exact .inl ⟨n, List.mem_append_left _ hn, htot⟩
      · exact .inr ⟨fun h' => hcv (hcount_keys.1 h'), hcur⟩
    · -- the agreed plan rescaled to the count given
      generalize he : ((SpecField.difficultyPlan, SpecValue.plan p) : SpecField × SpecValue) = e at hp
      cases hx e hp with
      | rescaled hn _ hp0 _ _ hq =>
        cases he
        have hn' := hc _ hn
        have hpo : PlanOk _ := hs.fields .difficultyPlan _ hp0
        exact .inl ⟨_, List.mem_append_left _ hn, (rescalePlan_ok hpo.sorted hpo.total_pos hn'.1 hn'.2 hq).2⟩
      | defaulted => cases he
  · -- a count given leaves the agreed plan only when it already agrees
    have hn' : (.problemCount, .count n) ∈ vals := by
      rcases List.mem_append.1 hn with hn | hn
      · exact hn
      · exact absurd rfl (hnc _ hn)
    have hpv' : .difficultyPlan ∉ vals.map (·.1) := fun h' => hpv (by simp [List.map_append, h'])
    have hpx : .difficultyPlan ∉ extra.map (·.1) := fun h' => hpv (by simp [List.map_append, h'])
    by_contra hne
    exact hpx (hdue ⟨n, p, hn', hpv', hp, (hs.fields .difficultyPlan p hp).ne_nil, hne⟩)

end Negotiation

end PracticeForge
