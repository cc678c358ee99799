import PracticeForge.Proofs.Chat.Coupling
import PracticeForge.Proofs.Chat.Shorthand

/-!
# Proofs/Chat/Turn — the steps of a turn, one lemma each

A turn that keeps a thread went one of two ways: the message was a yes to the waiting change,
which is checked again and applied (`applyPending`), or the message was read for stated values,
the dialogue model was asked, and the turn was settled from both (`settle`).  Both end in
`finish`, which fills default constraints, picks the next step and moves the thread there.

Each step gets one lemma that says what it did, so that the invariants of a whole turn are
proved without opening the steps again:

* `Negotiation.finish_ok` — the spec gains at most default constraints; pending change and
  commitments are kept; the state is the one `nextStep` picks;
* `Negotiation.settle_ok`, `Negotiation.applyPending_ok` — the steps a settled turn went
  through;
* `Negotiation.turn_ok` — the two ways a turn that keeps a thread went.
-/

namespace PracticeForge

namespace Negotiation

variable {t t' : Thread} {r : TurnResult}

/-! ## Commitments and the waiting change -/

/-- Committing to the chosen hard fields of some values adds their names, and changes nothing
else. -/
theorem commitHard_eq (t : Thread) (values : List (SpecField × SpecValue))
    (chosen : SpecField → Bool) :
    ∃ added, commitHard t values chosen = { t with commitments := t.commitments ++ added } ∧
      ∀ c ∈ added, ∃ e ∈ values, e.1.isHard = true ∧ chosen e.1 = true ∧ c = e.1.name := by
  induction values generalizing t with
  | nil => exact ⟨[], by simp [commitHard], by simp⟩
  | cons e values ih =>
    obtain ⟨f, v⟩ := e
    show ∃ added, commitHard (if f.isHard && chosen f then t.commit f.name else t) values chosen = _ ∧ _
    split
    · next hc =>
      obtain ⟨more, hm, hmore⟩ := Thread.commit_commitments t f.name
      obtain ⟨added, heq, hadded⟩ := ih (t.commit f.name)
      refine ⟨more ++ added, ?_, fun c hc' => ?_⟩
      · rw [heq, Thread.with_commitments (Thread.commit_eq t f.name), hm, List.append_assoc]
      · rw [Bool.and_eq_true] at hc
        rcases List.mem_append.1 hc' with hc' | hc'
        · exact ⟨(f, v), List.mem_cons_self, hc.1, hc.2, hmore c hc'⟩
        · obtain ⟨e, he, h1, h2, h3⟩ := hadded c hc'
          exact ⟨e, List.mem_cons_of_mem _ he, h1, h2, h3⟩
    · obtain ⟨added, heq, hadded⟩ := ih t
      refine ⟨added, heq, fun c hc' => ?_⟩
      obtain ⟨e, he, h1, h2, h3⟩ := hadded c hc'
      exact ⟨e, List.mem_cons_of_mem _ he, h1, h2, h3⟩

/-- The waiting change names each value of its fields once, as JSON, taken from the values
that wait. -/
theorem pendingOf_fields (C : List (SpecField × SpecValue)) :
    ∃ vals, (pendingOf C).fields = SpecDraft.encode vals ∧ (∀ e ∈ vals, e ∈ C) ∧
      (vals.map (·.1)).Nodup := by
  refine ⟨_, rfl, fun e he => ?_, ?_⟩
  · obtain ⟨f, -, hf⟩ := List.mem_filterMap.1 he
    exact List.mem_of_find?_eq_some hf
  · -- the value found for a field is of that field
    have hkey : ∀ f e, C.find? (·.1 == f) = some e → e.1 = f := fun f e h => by
      simpa using List.find?_some h
    refine List.pairwise_map.2 (List.Pairwise.filterMap _ ?_ (by decide : SpecField.all.Pairwise (· ≠ ·)))
    intro a b hab x hx y hy
    rw [hkey a x hx, hkey b y hy]
    exact hab

theorem awaitConfirm_of_nil (t : Thread) : awaitConfirm t [] = t := rfl

theorem awaitConfirm_of_ne_nil (t : Thread) {C : List (SpecField × SpecValue)} (hC : C ≠ []) :
    awaitConfirm t C = { t with pending := some (pendingOf C) } := by
  simp [awaitConfirm, List.isEmpty_iff, hC]

/-! ## Ending a turn -/

/-- Filling constraints keeps the draft, whose language then has constraints already, or writes
the default constraints of its language. -/
theorem fillConstraints_ok {s s' : SpecDraft} (h : fillConstraints s = .ok s') :
    (s' = s ∧ ∀ l, s.language = some l → ∃ c, s.constraints = some c ∧ c ≠ "") ∨
      ∃ l, s.language = some l ∧ s' = s.writeAll [(.constraints, .text l.defaultConstraints)] := by
  have hmerge : ∀ l : Language, s.merge [("constraints", .str l.defaultConstraints)] =
      .ok (s.writeAll [(.constraints, .text l.defaultConstraints)]) := fun l =>
    SpecDraft.merge_encode s [(.constraints, .text l.defaultConstraints)] (by simp [SpecValue.fits])
  unfold fillConstraints at h
  split at h
  · next l hl _ =>
    rw [hmerge, Except.mapError_eq_ok, Except.ok.injEq] at h
    exact .inr ⟨l, hl, h.symm⟩
  · next l hl _ =>
    rw [hmerge, Except.mapError_eq_ok, Except.ok.injEq] at h
    exact .inr ⟨l, hl, h.symm⟩
  · next hnone hempty =>
    rw [Except.pure_eq_ok] at h
    refine .inl ⟨h.symm, fun l hl => ?_⟩
    cases hc : s.constraints with
    | none => exact absurd hc (hnone l hl)
    | some c => exact ⟨c, rfl, fun he => hempty l hl (he ▸ hc)⟩

variable {d : Bool} {req : Option Int}

/-- A thread becomes READY only with no change waiting, a complete spec and no count put off. -/
theorem nextStep_ready (h : (nextStep t d req).1 = .ready) :
    t.pending = none ∧ t.spec.isComplete = true ∧ d = false := by
  unfold nextStep at h
  split at h
  · cases h
  · next hp =>
    split at h
    · next hc =>
      simp only [Bool.and_eq_true, Bool.not_eq_true'] at hc
      exact ⟨hp, hc⟩
    · split at h <;> cases h

/-- A change waiting for a yes is what a turn asks about. -/
theorem nextStep_pending {p : PendingPatch} (h : t.pending = some p) :
    nextStep t d req = (.clarifying, .confirm, some p.question, some p.questionKey) := by
  simp [nextStep, h]

/-- **Ending a turn.**  The spec gains at most the default constraints of its language; the
waiting change and the commitments are kept; the thread moves to the state `nextStep` picks,
which the answer reports with its action. -/
theorem finish_ok {ack : Option String} (h : finish t ack d req = .ok (r, t')) :
    ∃ spec, fillConstraints t.spec = .ok spec ∧ t'.spec = spec ∧ t'.pending = t.pending ∧
      t'.commitments = t.commitments ∧ t'.state = (nextStep { t with spec } d req).1 ∧
      r.state = t'.state ∧ r.nextAction = (nextStep { t with spec } d req).2.1 := by
  unfold finish at h
  obtain ⟨spec, hspec, h⟩ := Except.bind_eq_ok.1 h
  dsimp only at h
  generalize hn : nextStep { t with spec } d req = step at h
  obtain ⟨state, action, prompt, key⟩ := step
  obtain ⟨t2, ht2, h⟩ := Except.bind_eq_ok.1 h
  unfold Thread.transitionTo at ht2
  split at ht2
  · rw [Except.pure_eq_ok] at ht2 h
    subst ht2
    cases h
    exact ⟨spec, hspec, rfl, rfl, rfl, (congrArg (·.1) hn).symm, rfl, (congrArg (·.2.1) hn).symm⟩
  · exact absurd ht2 Except.throw_ne_ok

/-! ## The two ways through a turn -/

/-- **Settling a turn.**  The checked candidate, with any count its plan implies, goes through
the gate; the values that pass are applied and their stated hard fields committed to; the
values that wait become the waiting change; and the turn ends. -/
theorem settle_ok {sh : Shorthand} {ack : Option String} {proposed : List (String × Json)}
    (h : settle t sh ack proposed = .ok (r, t')) :
    ∃ vals explicit A C t1 s1,
      withPlanCount t.spec (checkPatch (.obj (candidate sh proposed)) (some t.spec))
        sh.explicitFields = (vals, explicit) ∧
      gate t explicit vals = (A, C, t1) ∧ applyValues t1.spec (SpecDraft.encode A) = .ok s1 ∧
      finish (awaitConfirm (commitHard { t1 with spec := s1 } A explicit.contains) C) ack
        sh.countDeferred (sh.requestedCount.map Int.ofNat) = .ok (r, t') := by
  unfold settle at h
  dsimp only at h
  rcases hw : withPlanCount t.spec (checkPatch (.obj (candidate sh proposed)) (some t.spec))
    sh.explicitFields with ⟨vals, explicit⟩
  rw [hw] at h
  rcases hg : gate t explicit vals with ⟨A, C, t1⟩
  rw [hg] at h
  obtain ⟨s1, hs1, h⟩ := Except.bind_eq_ok.1 h
  exact ⟨vals, explicit, A, C, t1, s1, rfl, hg, hs1, h⟩

/-- **Applying a confirmed change.**  The change is checked again against the spec, its valid
values are applied and their hard fields committed to, and the turn ends with nothing put
off. -/
theorem applyPending_ok {p : PendingPatch} (h : applyPending t p = .ok (r, t')) :
    ∃ s1, applyValues t.spec (SpecDraft.encode (checkPatch (.obj p.fields) (some t.spec)).validValues) =
        .ok s1 ∧
      ∃ ack, finish (commitHard { t with spec := s1 } (checkPatch (.obj p.fields) (some t.spec)).validValues
        fun _ => true) ack false none = .ok (r, t') := by
  unfold applyPending at h
  obtain ⟨s1, hs1, h⟩ := Except.bind_eq_ok.1 h
  exact ⟨s1, hs1, _, h⟩

/-- What a negotiated message went through: a yes to a waiting change applies it; any other
message is read for stated values, and its turn is settled with what the model proposed.
Either way the thread it starts from keeps the spec and the commitments and has no change
waiting. -/
def TookPath (t : Thread) (text : String) (r : TurnResult) (t' : Thread) : Prop :=
  ∃ t1, t1.spec = t.spec ∧ t1.commitments = t.commitments ∧ t1.pending = none ∧
    ((∃ p, t.pending = some p ∧ Shorthand.isAffirmative text = true ∧ applyPending t1 p = .ok (r, t')) ∨
      ∃ sh ack proposed, Shorthand.read text = .ok sh ∧
        (∀ p, t.pending = some p → Shorthand.isAffirmative text = false) ∧
        settle t1 sh ack proposed = .ok (r, t'))

variable {text : String} {model : String → ModelReply} {prompt : Option String}

theorem negotiate_ok (h : negotiate t text model = (prompt, .ok (r, t'))) :
    TookPath t text r t' := by
  unfold negotiate at h
  dsimp only at h
  split at h
  · next p hp =>
    split at h
    · next ha =>
      rw [Prod.mk.injEq] at h
      exact ⟨{ t with pending := none }, rfl, rfl, rfl, .inl ⟨p, hp, ha, h.2⟩⟩
    · next ha =>
      split at h
      · rw [Prod.mk.injEq] at h
        cases h.2
      · next sh hsh =>
        obtain ⟨⟨ack, proposed⟩, -, h⟩ := Except.bind_eq_ok.1 (Prod.mk.inj h).2
        refine ⟨{ t with pending := none }, rfl, rfl, rfl,
          .inr ⟨sh, ack, proposed, hsh, fun p' hp' => ?_, h⟩⟩
        rw [hp, Option.some.injEq] at hp'
        simpa using ha
  · next hp =>
    split at h
    · rw [Prod.mk.injEq] at h
      cases h.2
    · next sh hsh =>
      obtain ⟨⟨ack, proposed⟩, -, h⟩ := Except.bind_eq_ok.1 (Prod.mk.inj h).2
      exact ⟨t, rfl, rfl, hp, .inr ⟨sh, ack, proposed, hsh, fun p' hp' => by simp [hp] at hp', h⟩⟩

/-- **The two ways through a turn.**  A turn that keeps a thread negotiated the trimmed message
from the thread with the message added. -/
theorem turn_ok {message : Option String}
    (h : Negotiation.turn t message model = (prompt, .ok (r, some t'))) :
    TookPath (t.addMessage .user (Text.trim (message.getD ""))) (Text.trim (message.getD "")) r t' := by
  unfold Negotiation.turn at h
  dsimp only at h
  split at h
  · simp at h
  split at h
  · simp at h
  split at h
  · next prompt' r' t'' hneg =>
    simp only [Prod.mk.injEq, Except.ok.injEq, Option.some.injEq] at h
    obtain ⟨-, rfl, rfl⟩ := h
    exact negotiate_ok hneg
  · simp at h

/-! ## The values a settled turn hands to the gate -/

section Candidate

variable {sh : Shorthand} {proposed : List (String × Json)}

/-- A count the message states and does not put off is the candidate's count. -/
theorem candidate_count {n : Nat} (hn : sh.problemCount = some n) (hd : sh.countDeferred = false) :
    Json.lookup (candidate sh proposed) "problem_count" = some (.int n) := by
  simp only [candidate, hd, Bool.false_eq_true, if_false]
  rw [Json.lookup_foldl_setEntry (Shorthand.values_keys_nodup sh), Shorthand.lookup_values_count, hn]
  rfl

/-- **A stated count is valid**, whatever the model proposed. -/
theorem verdict_count_of_stated (hw : sh.WellCounted) {n : Nat} (hn : sh.problemCount = some n) :
    Patch.verdict (candidate sh proposed) .problemCount = .valid (.count n) := by
  have hd : sh.countDeferred = false := by
    cases hd : sh.countDeferred
    · rfl
    · rw [(hw.deferred hd).1] at hn
      cases hn
  obtain ⟨h1, h7⟩ := hw.count_le n hn
  unfold Patch.verdict
  rw [show SpecField.problemCount.name = "problem_count" from rfl, candidate_count hn hd]
  simp only [Patch.rule, Patch.count_int h1 h7]

end Candidate

section PlanCount

variable {c : Json} {s : SpecDraft} {explicit explicit' : List SpecField}
  {vals : List (SpecField × SpecValue)}

/-- The values and stated fields pass as the patch has them, unless a valid plan comes with the
count unset and no count agreed: then the plan's total joins them as the count, stated when the
plan is. -/
theorem withPlanCount_cases (c : Json) (s : SpecDraft) (explicit : List SpecField) :
    withPlanCount s (checkPatch c (some s)) explicit = ((checkPatch c (some s)).validValues, explicit) ∨
      ∃ p, (checkPatch c (some s)).get .difficultyPlan = .valid (.plan p) ∧
        (checkPatch c (some s)).get .problemCount = .unset ∧ s.problemCount = none ∧
        withPlanCount s (checkPatch c (some s)) explicit =
          ((checkPatch c (some s)).validValues ++ [(.problemCount, .count (planTotal p))],
            if explicit.contains .difficultyPlan then explicit ++ [.problemCount] else explicit) := by
  unfold withPlanCount
  split
  · next f p hfind hcount =>
    split
    · next hnone =>
      have hf : f = .difficultyPlan := by simpa using List.find?_some hfind
      subst hf
      exact .inr ⟨p, mem_validValues_checkPatch.1 (List.mem_of_find?_eq_some hfind), hcount,
        by simpa using hnone, rfl⟩
    · exact .inl rfl
  · exact .inl rfl

/-- The values handed to the gate are clean, one per field. -/
theorem withPlanCount_clean (h : withPlanCount s (checkPatch c (some s)) explicit = (vals, explicit')) :
    (∀ e ∈ vals, e.2.Clean e.1) ∧ (vals.map (·.1)).Nodup := by
  have hvalid : ∀ e ∈ (checkPatch c (some s)).validValues, e.2.Clean e.1 := fun e he =>
    checkPatch_clean (mem_validValues_checkPatch.1 he)
  rcases withPlanCount_cases c s explicit with heq | ⟨p, hp, hcount, -, heq⟩
  · rw [heq, Prod.mk.injEq] at h
    obtain ⟨rfl, -⟩ := h
    exact ⟨hvalid, checkPatch_keys_nodup c _⟩
  · rw [heq, Prod.mk.injEq] at h
    obtain ⟨rfl, -⟩ := h
    have hpo : PlanOk p := checkPatch_clean hp
    refine ⟨fun e he => ?_, ?_⟩
    · rcases List.mem_append.1 he with he | he
      · exact hvalid e he
      · -- the plan's total is a count within bounds
        rw [List.mem_singleton] at he
        subst he
        exact ⟨hpo.total_pos, hpo.total_le⟩
    · -- the patch itself has no valid count
      rw [List.map_append, List.nodup_append]
      refine ⟨checkPatch_keys_nodup c _, by simp, fun a ha b hb hab => ?_⟩
      rw [List.map_singleton, List.mem_singleton] at hb
      subst hb hab
      obtain ⟨⟨f, v⟩, hm, hf⟩ := List.mem_map.1 ha
      simp only at hf
      subst hf
      rw [mem_validValues_checkPatch, hcount] at hm
      cases hm

/-- A field stated among the values handed to the gate is stated by the message, when a stated
plan always comes with a stated count. -/
theorem withPlanCount_explicit (hpc : .difficultyPlan ∈ explicit → .problemCount ∈ explicit)
    (h : withPlanCount s (checkPatch c (some s)) explicit = (vals, explicit')) {f : SpecField}
    (hf : f ∈ explicit') : f ∈ explicit := by
  rcases withPlanCount_cases c s explicit with heq | ⟨p, -, -, -, heq⟩
  · rw [heq, Prod.mk.injEq] at h
    obtain ⟨-, rfl⟩ := h
    exact hf
  · rw [heq, Prod.mk.injEq] at h
    obtain ⟨-, rfl⟩ := h
    split at hf
    · next hplan =>
      rcases List.mem_append.1 hf with hf | hf
      · exact hf
      · rw [List.mem_singleton] at hf
        subst hf
        exact hpc (by simpa using hplan)
    · exact hf

/-- With a valid count in the patch, the values handed to the gate are the patch's. -/
theorem withPlanCount_of_count {v : SpecValue} (hv : (checkPatch c (some s)).get .problemCount = .valid v)
    (h : withPlanCount s (checkPatch c (some s)) explicit = (vals, explicit')) :
    vals = (checkPatch c (some s)).validValues := by
  rcases withPlanCount_cases c s explicit with heq | ⟨p, -, hcount, -, -⟩
  · rw [heq, Prod.mk.injEq] at h
    exact h.1.symm
  · rw [hv] at hcount
    cases hcount

end PlanCount

end Negotiation

end PracticeForge
