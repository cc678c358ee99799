import PracticeForge.Proofs.Spec.Rescale

/-!
# Proofs/Spec/Fields — a draft field by field

The invariants of a draft are stated one field at a time.  Two drafts `agreeOn` a field when
they hold the same value there, and `FieldOk` says what a field may hold: what the patch rules
let through, when it holds anything.  Writing clean values touches only their own fields:

* `SpecDraft.writeAll_agreeOn` — a field no value is written to keeps its value;
* `SpecDraft.writeAll_agreeOn_write` — a field written once holds the value written;
* `SpecDraft.writeAll_fieldOk` — so writing clean values keeps every field within the rules.
-/

namespace PracticeForge

namespace SpecDraft

/-- Two drafts agree on a field when they hold the same value there. -/
def agreeOn (s s' : SpecDraft) : SpecField → Prop
  | .language => s.language = s'.language
  | .problemCount => s.problemCount = s'.problemCount
  | .difficultyPlan => s.difficultyPlan = s'.difficultyPlan
  | .topicTags => s.topicTags = s'.topicTags
  | .problemStyle => s.problemStyle = s'.problemStyle
  | .constraints => s.constraints = s'.constraints
  | .generationFocus => s.generationFocus = s'.generationFocus

/-- What a field may hold, when it holds anything: a count from one to `maxProblems`, a clean
plan, clean topics, non-empty texts. -/
def FieldOk (s : SpecDraft) : SpecField → Prop
  | .problemCount => ∀ n, s.problemCount = some n → (minProblems : Int) ≤ n ∧ n ≤ maxProblems
  | .difficultyPlan => ∀ p, s.difficultyPlan = some p → PlanOk p
  | .topicTags => ∀ ts, s.topicTags = some ts → TagsOk ts
  | .constraints => ∀ c, s.constraints = some c → c ≠ ""
  | .generationFocus => ∀ c, s.generationFocus = some c → c ≠ ""
  | .language | .problemStyle => True

variable {s s' s'' : SpecDraft} {f g : SpecField} {v : SpecValue}

theorem agreeOn_refl (s : SpecDraft) (f : SpecField) : s.agreeOn s f := by
  cases f <;> rfl

theorem agreeOn.symm (h : s.agreeOn s' f) : s'.agreeOn s f := by
  cases f <;> exact Eq.symm h

theorem agreeOn.trans (h : s.agreeOn s' f) (h' : s'.agreeOn s'' f) : s.agreeOn s'' f := by
  cases f <;> exact Eq.trans h h'

theorem FieldOk.of_agreeOn (h : s.agreeOn s' f) (hf : s.FieldOk f) : s'.FieldOk f := by
  cases f <;> simp only [agreeOn] at h <;> simp only [FieldOk, ← h] at hf ⊢ <;> exact hf

/-! ## One write -/

/-- A write leaves every other field as it was. -/
theorem write_agreeOn (h : g ≠ f) : (s.write f v).agreeOn s g := by
  cases f <;> cases v <;> cases g <;> first | exact absurd rfl h | rfl

/-- After a write of a value of the field's kind, the field holds that value whatever it held
before. -/
theorem write_agreeOn_write (hv : v.fits f) : (s.write f v).agreeOn (s'.write f v) f := by
  cases f <;> cases v <;> simp [SpecValue.fits] at hv <;> rfl

theorem fieldOk_write (hv : v.Clean f) : (s.write f v).FieldOk f := by
  cases f <;> cases v <;> simp only [SpecValue.Clean] at hv <;>
    simp only [FieldOk, write, Option.some.injEq, forall_eq'] <;> first | trivial | omega

/-! ## Writes in order -/

theorem writeAll_cons (e : SpecField × SpecValue) (vals : List (SpecField × SpecValue)) :
    s.writeAll (e :: vals) = (s.write e.1 e.2).writeAll vals := rfl

theorem writeAll_append (vals vals' : List (SpecField × SpecValue)) :
    s.writeAll (vals ++ vals') = (s.writeAll vals).writeAll vals' := by
  simp [writeAll, List.foldl_append]

/-- **Frame.**  A field no value is written to keeps its value. -/
theorem writeAll_agreeOn {vals : List (SpecField × SpecValue)} (h : g ∉ vals.map (·.1)) :
    (s.writeAll vals).agreeOn s g := by
  induction vals generalizing s with
  | nil => exact agreeOn_refl s g
  | cons e vals ih =>
    simp only [List.map_cons, List.mem_cons, not_or] at h
    exact agreeOn.trans (ih h.2) (write_agreeOn h.1)

/-- A field written once holds the value written to it. -/
theorem writeAll_agreeOn_write {vals : List (SpecField × SpecValue)} (hk : (vals.map (·.1)).Nodup)
    (hm : (f, v) ∈ vals) (hv : v.fits f) : (s.writeAll vals).agreeOn (s.write f v) f := by
  obtain ⟨pre, post, rfl⟩ := List.append_of_mem hm
  -- `f` is written neither before nor after
  have hpost : f ∉ post.map (·.1) := by
    simp only [List.map_append, List.map_cons] at hk
    exact (List.nodup_cons.1 (List.nodup_append.1 hk).2.1).1
  rw [writeAll_append, writeAll_cons]
  exact agreeOn.trans (writeAll_agreeOn hpost) (write_agreeOn_write hv)

/-- **Clean writes keep a draft within the rules.** -/
theorem writeAll_fieldOk {vals : List (SpecField × SpecValue)} (hc : ∀ e ∈ vals, e.2.Clean e.1)
    (hk : (vals.map (·.1)).Nodup) (hs : ∀ f, s.FieldOk f) (f : SpecField) :
    (s.writeAll vals).FieldOk f := by
  by_cases hf : f ∈ vals.map (·.1)
  · obtain ⟨⟨f', v⟩, hm, rfl⟩ := List.mem_map.1 hf
    have hv := hc _ hm
    exact FieldOk.of_agreeOn (agreeOn.symm (writeAll_agreeOn_write hk hm hv.fits)) (fieldOk_write hv)
  · exact FieldOk.of_agreeOn (agreeOn.symm (writeAll_agreeOn hf)) (hs f)

end SpecDraft

end PracticeForge
