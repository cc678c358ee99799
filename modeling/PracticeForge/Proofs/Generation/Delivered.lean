import PracticeForge.Proofs.Basic
import PracticeForge.Proofs.Generation.SlotRun
import PracticeForge.Proofs.Text.Words

/-!
# Proofs/Generation/Delivered — what a successful run hands back

A run that succeeds hands back one state per slot, in the slots' order, each DONE with a problem
made for its slot and prepared for the learning mode, no two problems sharing an id
(`Delivered`).  A problem is followed from the model's reply to the end of the run:

* the contract check writes the slot's language, difficulty, topic and style over whatever the
  model claimed (`checkDraft_fits`), and the guided preparation keeps them (`finalize_fits`);
* the suite's test names pass exactly when they are the expected ones in some order
  (`Contract.namesIssue_eq_nil_iff`);
* a slot's run ends FAILED without a problem or DONE with such a problem (`runSlot_finished`);
* the renaming of ids always finds a free name, so the ids come out distinct
  (`uniqueIds_nodup`);
* settling the slots' outcomes fails on a defect or a failed slot, naming the failed slot of
  least index (`settle_runFailed`), and otherwise delivers (`settle_delivered`).

`run_delivered` puts these together for the run of the slots one after another.  Read
forwards, a run whose every slot passes at its first draft returns (`run_passes`), and the
reply `passingDraft` keeps the contract of every easy slot on lists in Python answered by a
return value (`passingDraft_reads`).
-/

namespace PracticeForge

/-! ## A problem made for its slot -/

/-- The problem `p` is one for `slot`: it has the slot's language, difficulty, topic and style. -/
structure Problem.Fits (slot : Slot) (p : Problem) : Prop where
  language : p.language = slot.language
  difficulty : p.difficulty = slot.difficulty
  topic : p.topicTag = slot.topic
  style : p.problemStyle = slot.problemStyle

/-- The problem `p` is prepared for the learning mode `mode`: a guided problem carries its
teaching settings. -/
def Problem.PreparedFor (mode : String) (p : Problem) : Prop := mode = "guided" → p.pedagogy.isSome

/-- **The contract check decides the metadata**: a draft that keeps the contract of its slot
has the slot's language, difficulty, topic and style, whatever the reply claimed. -/
theorem checkDraft_fits {room : Nat} {c : Json} {slot : Slot} {d : ProblemDraft}
    (h : checkDraft room c slot = .ok (.ok d)) : d.problem.Fits slot := by
  unfold checkDraft at h
  split at h
  case h_2 => cases h
  case h_1 fs =>
    -- the suite was read, and every way through the checks that succeeds builds the problem
    -- from the slot
    simp only [Except.map_eq_ok] at h
    refine ⟨?_, ?_, ?_, ?_⟩ <;> grind

theorem Generation.readDraft_fits {slot : Slot} {raw : String} {d : ProblemDraft}
    (h : Generation.readDraft slot raw = .ok (.ok d)) : d.problem.Fits slot := by
  obtain ⟨found, -, hd⟩ := Except.bind_eq_ok.1 h
  exact checkDraft_fits hd

/-- The contract check never reads the slot's position. -/
theorem checkDraft_index {room : Nat} {c : Json} (slot : Slot) (i : Int) :
    checkDraft room c { slot with index := i } = checkDraft room c slot := rfl

/-! ## The suite's test names

The contract compares the names a suite defines with the expected ones after sorting both, so
only which names occur, and how often, matters. -/

namespace Contract

/-- Insertion into a sorted list of texts is the library's ordered insertion. -/
theorem insertText_eq (x : String) (l : List String) :
    insertText x l = l.orderedInsert (· ≤ ·) x := by
  induction l with
  | nil => rfl
  | cons y ys ih => simp only [insertText, List.orderedInsert_cons, ih]

/-- The sort of texts is the library's insertion sort, and so its merge sort. -/
theorem sortTexts_eq_mergeSort (l : List String) : sortTexts l = l.mergeSort (· ≤ ·) := by
  rw [List.mergeSort_eq_insertionSort]
  induction l with
  | nil => rfl
  | cons x xs ih => rw [sortTexts, ih, insertText_eq, List.insertionSort_cons]

/-- **A suite's test names pass exactly when they are the expected names in some order.** -/
theorem namesIssue_eq_nil_iff (found : List String) :
    namesIssue found = [] ↔ found.Perm testCaseNames := by
  have hsort : ∀ l : List String, sortTexts l = l.insertionSort (· ≤ ·) := fun l => by
    rw [sortTexts_eq_mergeSort, List.mergeSort_eq_insertionSort]
  simp only [namesIssue, hsort, bne_iff_ne, ne_eq, ite_not, List.cons_ne_nil, imp_false,
    ite_eq_left_iff, not_not]
  constructor
  · intro h
    have hnames := List.perm_insertionSort (· ≤ ·) testCaseNames
    rw [← h] at hnames
    exact (List.perm_insertionSort _ found).symm.trans hnames
  · -- two sorted orderings of the same names are one list
    intro hp
    exact List.Perm.eq_of_pairwise' (List.pairwise_insertionSort _ _)
      (List.pairwise_insertionSort _ _)
      ((List.perm_insertionSort _ _).trans (hp.trans (List.perm_insertionSort _ _).symm))

end Contract

/-! ## Reading a reply as it stands -/

namespace Reply

/-- A text that starts with `{` and ends with `}` is its own unfenced form. -/
theorem unfence_of_braces {s : String} {cs : List Char}
    (h : s.toList = '{' :: cs ++ ['}']) : unfence s = s := by
  have htrim : Text.trim s = s := by
    have hl : Text.isSpace '{' = false := by decide
    have hr : Text.isSpace '}' = false := by decide
    rw [Text.trim_eq, h, List.cons_append, List.dropWhile_cons, hl, if_neg Bool.false_ne_true,
      ← List.cons_append, List.rdropWhile_concat, hr, if_neg Bool.false_ne_true, ← h,
      String.ofList_toList]
  have hfence : startsWith s "```json" = false ∧ startsWith s "```" = false ∧
      endsWith s "```" = false := by
    simp only [startsWith, endsWith, h, List.reverse_cons, List.reverse_append]
    exact ⟨rfl, rfl, rfl⟩
  unfold unfence
  simp only [htrim, hfence, Bool.false_eq_true, if_false]

/-- A reply whose unfenced text reads as an object holds that object: it is the first text
tried. -/
theorem object?_of_parse {room : Nat} {content : String} {fs : List (String × Json)}
    (h : Json.parseWithin room (unfence content) = .ok (.obj fs)) :
    object? room content = .ok (some fs) := by
  unfold object? candidates
  dsimp only
  split
  · split <;> simp [firstObject, h]
  · simp [firstObject, h]

end Reply

/-- A reply whose unfenced text reads as an object is checked as that object. -/
theorem Generation.readDraft_of_parse {slot : Slot} {raw : String} {fs : List (String × Json)}
    (h : Json.parseWithin Generation.draftRoom (Reply.unfence raw) = .ok (.obj fs)) :
    Generation.readDraft slot raw = checkDraft Generation.draftSuiteRoom (.obj fs) slot := by
  rw [Generation.readDraft, Reply.object?_of_parse h]
  rfl

namespace ProblemDraft

/-- Preparing a draft for guided mode gives its problem teaching settings and changes nothing
else of it but its starter code and workspace. -/
theorem guided_problem {d d' : ProblemDraft} (h : d.guided = .ok d') :
    ∃ sc ws, d'.problem =
      { d.problem with pedagogy := some d.pedagogy, starterCode := sc, workspace := ws } := by
  unfold guided at h
  dsimp only at h
  split at h
  case isTrue => cases h; exact ⟨_, _, rfl⟩
  case isFalse =>
    split at h
    case h_1 =>
      -- the workspace is stubbed from the reference workspace
      obtain ⟨w', -, h⟩ := Except.bind_eq_ok.1 h
      cases h
      exact ⟨_, _, rfl⟩
    case h_2 =>
      split at h
      case h_1 =>
        -- the starter code is stubbed from the reference solution, when it can be
        obtain ⟨stub, -, h⟩ := Except.bind_eq_ok.1 h
        split at h <;> cases h
        all_goals exact ⟨_, _, rfl⟩
      case h_2 => cases h; exact ⟨_, _, rfl⟩

theorem guided_fits {d d' : ProblemDraft} {slot : Slot} (h : d.guided = .ok d')
    (hf : d.problem.Fits slot) : d'.problem.Fits slot ∧ d'.problem.pedagogy.isSome := by
  obtain ⟨sc, ws, hd'⟩ := guided_problem h
  rw [hd']
  exact ⟨⟨hf.language, hf.difficulty, hf.topic, hf.style⟩, rfl⟩

/-- The problem a learner gets from a draft for a slot is one for the slot, prepared for the
mode. -/
theorem finalize_fits {d : ProblemDraft} {mode : String} {p : Problem} {slot : Slot}
    (h : d.finalize mode = .ok p) (hf : d.problem.Fits slot) : p.Fits slot ∧ p.PreparedFor mode := by
  unfold finalize at h
  by_cases hm : mode = "guided"
  · simp only [hm, beq_self_eq_true, if_true] at h
    obtain ⟨d', hg, h⟩ := Except.bind_eq_ok.1 h
    cases h
    exact ⟨(guided_fits hg hf).1, fun _ => (guided_fits hg hf).2⟩
  · simp only [show (mode == "guided") = false from beq_false_of_ne hm, Bool.false_eq_true,
      if_false] at h
    obtain ⟨d', hd', h⟩ := Except.bind_eq_ok.1 h
    cases Except.pure_eq_ok.1 hd'
    cases Except.pure_eq_ok.1 h
    exact ⟨hf, fun h => absurd h hm⟩

end ProblemDraft

/-- How the run of `slot` can leave its state `s`, in a learning mode: FAILED with no problem,
or DONE with a problem made for the slot and prepared for the mode. -/
structure SlotState.Finished (mode : String) (slot : Slot) (s : SlotState) : Prop where
  same_slot : s.slot = slot
  ended : s.stage = .failed ∧ s.problem = none ∨
    s.stage = .done ∧ ∃ p, s.problem = some p ∧ p.Fits slot ∧ p.PreparedFor mode

/-! ## How a slot's run ends -/

namespace Generation

variable {σ : Type}

/-- An attempt that finished a problem finished one for its slot, prepared for the mode. -/
theorem Attempt.result_done {slot : Slot} {mode : String} {a : Attempt} {p : Problem}
    (hc : a.Checked slot) (h : a.result mode = .done p) : p.Fits slot ∧ p.PreparedFor mode := by
  cases a with
  | judged raw d v =>
    simp only [Attempt.result] at h
    split at h
    case isTrue => cases h
    case isFalse =>
      split at h
      case h_1 p' hfin =>
        cases h
        exact ProblemDraft.finalize_fits hfin (readDraft_fits hc)
      case h_2 => cases h
  | _ => simp [Attempt.result] at h

/-- **The end of a slot's run**: whatever the services answer, a run of `slot` that does not
stop on a defect leaves the slot as `Finished` says. -/
theorem runSlot_finished (svc : Services σ) (cfg : RunConfig) (spec : ActivitySpec) (slot : Slot)
    (w : σ) {s : SlotState} (h : ((runSlot svc cfg spec slot).run' w).1 = .ok s) :
    s.Finished cfg.learningMode slot := by
  obtain ⟨atts, xs, -, hrun⟩ := runSlot_explained svc cfg spec slot w
  have hend := hrun.ended
  rw [h] at hend
  obtain ⟨hslot, -, hfailed | ⟨hst, ⟨a, p, hlast, hp, hprob⟩, -⟩⟩ := hend
  · exact ⟨hslot, .inl ⟨hfailed.1, hfailed.2.2.1⟩⟩
  · have hmade := Attempt.result_done (hrun.checked a (List.mem_of_getLast? hlast)) hp
    exact ⟨hslot, .inr ⟨hst, p, hprob, hmade⟩⟩

end Generation

/-! ## Distinct ids

`freshId` tries the names `base-n`, `base-(n+1)`, … for as many steps as it has fuel; the
renaming gives it one step more than there are names taken, and numbered names are pairwise
distinct, so one of the steps finds a free name. -/

/-- `freshId` gives a free name once one of the names it tries is free. -/
theorem freshId_not_mem (seen : List String) (base : String) :
    ∀ (fuel n : Nat), (∃ k < fuel, base ++ "-" ++ toString (n + k) ∉ seen) →
      freshId seen base fuel n ∉ seen
  | 0, _, ⟨_, hk, _⟩ => absurd hk (Nat.not_lt_zero _)
  | fuel + 1, n, ⟨k, hk, hfree⟩ => by
    simp only [freshId]
    split
    case isTrue htaken =>
      -- the name numbered `n` is taken, so the free one lies further on
      have hk0 : k ≠ 0 := by
        rintro rfl
        exact hfree (by simpa using htaken)
      refine freshId_not_mem seen base fuel (n + 1) ⟨k - 1, by omega, ?_⟩
      rwa [show n + 1 + (k - 1) = n + k by omega]
    case isFalse hnew => simpa using hnew

/-- Among `seen.length + 1` numbered names, one is not in `seen`. -/
theorem exists_free_name (seen : List String) (base : String) (n : Nat) :
    ∃ k < seen.length + 1, base ++ "-" ++ toString (n + k) ∉ seen := by
  by_contra hall
  simp only [not_exists, not_and, not_not] at hall
  have hinj : Function.Injective fun k => base ++ "-" ++ toString (n + k) := by
    intro a b hab
    have := Nat.repr_injective ((String.append_right_inj (base ++ "-")).1 hab)
    omega
  have hsub : (List.range (seen.length + 1)).map (fun k => base ++ "-" ++ toString (n + k)) ⊆
      seen := by
    intro x hx
    obtain ⟨k, hk, rfl⟩ := List.mem_map.1 hx
    exact hall k (List.mem_range.1 hk)
  have hlen := ((List.Nodup.map hinj List.nodup_range).subperm hsub).length_le
  simp at hlen

/-- The names `uniqueIds` gives from the names `seen` on are pairwise distinct and new. -/
theorem uniqueIds_go_fresh :
    ∀ (ids seen : List String) (i : Nat),
      (uniqueIds.go seen i ids).Nodup ∧ ∀ x ∈ uniqueIds.go seen i ids, x ∉ seen
  | [], _, _ => by simp [uniqueIds.go]
  | id :: rest, seen, i => by
    simp only [uniqueIds.go]
    have hpid : (if seen.contains id then freshId seen id (seen.length + 1) (i + 1) else id) ∉
        seen := by
      split
      case isTrue => exact freshId_not_mem seen id _ _ (exists_free_name seen id (i + 1))
      case isFalse hnew => simpa using hnew
    obtain ⟨hnd, hout⟩ := uniqueIds_go_fresh rest _ (i + 1)
    refine ⟨List.nodup_cons.2 ⟨fun hmem => hout _ hmem List.mem_cons_self, hnd⟩, ?_⟩
    intro x hx
    rcases List.mem_cons.1 hx with rfl | hx
    · exact hpid
    · exact fun hs => hout x hx (List.mem_cons_of_mem _ hs)

theorem uniqueIds_nodup (ids : List String) : (uniqueIds ids).Nodup :=
  (uniqueIds_go_fresh ids [] 0).1

theorem length_uniqueIds_go :
    ∀ (ids seen : List String) (i : Nat), (uniqueIds.go seen i ids).length = ids.length
  | [], _, _ => rfl
  | _ :: rest, _, _ => by simp [uniqueIds.go, length_uniqueIds_go rest]

theorem length_uniqueIds (ids : List String) : (uniqueIds ids).length = ids.length :=
  length_uniqueIds_go ids [] 0

/-- Renaming keeps each problem but for its id. -/
theorem forall₂_makeIdsUnique (ps : List Problem) :
    List.Forall₂ (fun p q => q = { p with id := q.id }) ps (makeIdsUnique ps) := by
  unfold makeIdsUnique
  have hlen : (uniqueIds (ps.map (·.id))).length = ps.length := by simp [length_uniqueIds]
  generalize uniqueIds (ps.map (·.id)) = ids at hlen ⊢
  induction ps generalizing ids with
  | nil => simp
  | cons p ps ih =>
    cases ids with
    | nil => simp at hlen
    | cons id ids => exact .cons rfl (ih ids (by simpa using hlen))

theorem map_id_makeIdsUnique (ps : List Problem) :
    (makeIdsUnique ps).map (·.id) = uniqueIds (ps.map (·.id)) := by
  unfold makeIdsUnique
  rw [List.map_map]
  exact List.map_snd_zip (by simp [length_uniqueIds])


namespace Generation

variable {σ : Type}

/-! ## Settling the slots' outcomes -/

/-- **What a successful run hands back** for the slots `slots`, in a learning mode: one state per
slot, in the slots' order, each DONE with a problem made for its slot and prepared for the mode,
and no two problems with one id. -/
structure Delivered (mode : String) (slots : List Slot) (states : List SlotState) : Prop where
  each : List.Forall₂ (fun (slot : Slot) (s : SlotState) => s.slot = slot ∧ s.stage = .done ∧
    ∃ p, s.problem = some p ∧ p.Fits slot ∧ p.PreparedFor mode) slots states
  distinct : ((states.filterMap (·.problem)).map (·.id)).Nodup

/-- Finished DONE states, their problems renamed apart, are delivered. -/
theorem delivered_renamed {mode : String} {slots : List Slot} {ran : List SlotState}
    (h : List.Forall₂ (fun (slot : Slot) (s : SlotState) => s.slot = slot ∧ s.stage = .done ∧
      ∃ p, s.problem = some p ∧ p.Fits slot ∧ p.PreparedFor mode) slots ran) :
    Delivered mode slots ((ran.zip (makeIdsUnique (ran.filterMap (·.problem)))).map
      fun (s, p) => { s with problem := some p }) := by
  -- every state has its problem, so the problems stand one per state
  have hpick : ran.filterMap (·.problem) = ran.map fun s => s.problem.getD default := by
    induction h with
    | nil => rfl
    | cons hs _ ih =>
      obtain ⟨-, -, p, hp, -⟩ := hs
      simp [hp, ih]
  have hnd : ((makeIdsUnique (ran.filterMap (·.problem))).map (·.id)).Nodup := by
    rw [map_id_makeIdsUnique]
    exact uniqueIds_nodup _
  have hren := forall₂_makeIdsUnique (ran.filterMap (·.problem))
  generalize makeIdsUnique (ran.filterMap (·.problem)) = qs at hren hnd ⊢
  rw [hpick, List.forall₂_map_left_iff] at hren
  -- the states handed back carry the renamed problems, one per state
  have hqs : ((ran.zip qs).map fun (s, p) => { s with problem := some p }).filterMap (·.problem) =
      qs := by
    clear h hnd hpick
    induction hren with
    | nil => rfl
    | cons _ _ ih => simp [ih]
  refine ⟨?_, by rwa [hqs]⟩
  clear hnd hpick hqs
  induction h generalizing qs with
  | nil =>
    cases hren
    exact .nil
  | cons hs _ ih =>
    cases hren with
    | cons hq hrest =>
      obtain ⟨hslot, hdone, p, hp, hfits, hprep⟩ := hs
      rw [hp, Option.getD_some] at hq
      refine .cons ⟨hslot, hdone, _, rfl, ?_, ?_⟩ (ih _ hrest)
      · rw [hq]
        exact ⟨hfits.language, hfits.difficulty, hfits.topic, hfits.style⟩
      · rw [hq]
        exact hprep

/-- The state of a slot that ran to an end. -/
def SlotOutcome.state? : SlotOutcome → Option SlotState
  | .ran s => some s
  | _ => none

/-- The first failed slot of least index is `none` only for no slot; otherwise it is one of
the slots, of index no greater than any other's. -/
theorem firstFailed_spec (l : List SlotState) :
    firstFailed l = none ∧ l = [] ∨
      ∃ s, firstFailed l = some s ∧ s ∈ l ∧ ∀ t ∈ l, s.slot.index ≤ t.slot.index := by
  unfold firstFailed
  -- the slot kept so far is the least of the slots seen so far
  refine foldl_prefix_inv (fun (seen : List SlotState) (best : Option SlotState) =>
    best = none ∧ seen = [] ∨
      ∃ s : SlotState, best = some s ∧ s ∈ seen ∧ ∀ t ∈ seen, s.slot.index ≤ t.slot.index)
    (.inl ⟨rfl, rfl⟩) ?_ rfl
  intro seen a _ best _ hbest
  rcases hbest with ⟨rfl, rfl⟩ | ⟨s, rfl, hs, hle⟩
  · exact .inr ⟨a, rfl, by simp, by simp⟩
  · dsimp only
    split
    case isTrue hlt =>
      refine .inr ⟨a, rfl, by simp, fun t ht => ?_⟩
      rcases List.mem_append.1 ht with ht | ht
      · exact le_of_lt (lt_of_lt_of_le hlt (hle t ht))
      · rw [List.mem_singleton.1 ht]
    case isFalse hge =>
      refine .inr ⟨s, rfl, List.mem_append_left _ hs, fun t ht => ?_⟩
      rcases List.mem_append.1 ht with ht | ht
      · exact hle t ht
      · rw [List.mem_singleton.1 ht]
        exact not_lt.1 hge

theorem firstFailed_eq_none {l : List SlotState} (h : firstFailed l = none) : l = [] := by
  rcases firstFailed_spec l with ⟨-, hnil⟩ | ⟨s, hs, -⟩
  · exact hnil
  · rw [h] at hs
    cases hs

/-- **A run that settles** had no defect and no failed slot, and hands back the states of the
slots that ran, their problems renamed apart. -/
theorem settle_ok {outs : List SlotOutcome} {states : List SlotState}
    (h : settle outs = .ok states) :
    (∀ f, SlotOutcome.defect f ∉ outs) ∧ (∀ s, SlotOutcome.ran s ∈ outs → s.stage ≠ .failed) ∧
      states = ((outs.filterMap SlotOutcome.state?).zip
        (makeIdsUnique ((outs.filterMap SlotOutcome.state?).filterMap (·.problem)))).map
          fun (s, p) => { s with problem := some p } := by
  unfold settle at h
  dsimp only at h
  split at h
  case h_1 => simp at h
  case h_2 => simp at h
  case h_3 hdef hfail =>
    refine ⟨fun f hf => ?_, fun s hs hst => ?_, (Except.pure_eq_ok.1 h).symm⟩
    · rw [List.head?_eq_none_iff, List.filterMap_eq_nil_iff] at hdef
      simpa using hdef _ hf
    · -- no failed slot is left for `firstFailed` to pick
      have hnil := List.filter_eq_nil_iff.1 (firstFailed_eq_none hfail)
      refine hnil s ?_ (by simp [hst])
      exact List.mem_filterMap.2 ⟨_, hs, rfl⟩

/-- The slot a failed run names is one that ran and FAILED, of least index among them. -/
theorem firstFailed_eq_some {l : List SlotState} {s : SlotState} (h : firstFailed l = some s) :
    s ∈ l ∧ ∀ t ∈ l, s.slot.index ≤ t.slot.index := by
  rcases firstFailed_spec l with ⟨hnone, -⟩ | ⟨s', hs', hmem, hle⟩
  · rw [h] at hnone
    cases hnone
  · rw [h] at hs'
    cases hs'
    exact ⟨hmem, hle⟩

/-- **A run stopped by a defect** fails with the first defect, in the slots' order. -/
theorem settle_defect {outs : List SlotOutcome} {f : Failure} (h : SlotOutcome.defect f ∈ outs) :
    ∃ g pre post, settle outs = .error g ∧ outs = pre ++ .defect g :: post ∧
      ∀ g', SlotOutcome.defect g' ∉ pre := by
  cases hset : settle outs with
  | ok states => exact absurd h ((settle_ok hset).1 f)
  | error e =>
    unfold settle at hset
    dsimp only at hset
    split at hset
    case h_1 _ _ g hg =>
      -- the first defect is the head of the defects
      obtain ⟨rest, hrest⟩ := List.head?_eq_some_iff.1 hg
      obtain ⟨pre, o, post, rfl, hpre, ho, -⟩ := List.filterMap_eq_cons_iff.1 hrest
      cases o with
      | defect g' =>
        cases ho
        refine ⟨g, pre, post, by cases hset; rfl, rfl, fun g'' hg'' => ?_⟩
        simpa using hpre _ hg''
      | ran s => cases ho
      | skipped => cases ho
    case h_2 _ _ s hnone _ =>
      have hnil := List.filterMap_eq_nil_iff.1 (List.head?_eq_none_iff.1 hnone)
      simpa using hnil _ h
    case h_3 => cases hset

/-- **A run with a failed slot and no defect** fails naming the failed slot of least index, with
the reason that slot gives. -/
theorem settle_runFailed {outs : List SlotOutcome} (hdef : ∀ f, SlotOutcome.defect f ∉ outs)
    (hfail : ∃ s, SlotOutcome.ran s ∈ outs ∧ s.stage = .failed) :
    ∃ s, settle outs = .error (.runFailed (shortError ("Problem " ++ toString (s.slot.index + 1) ++
        " failed: " ++ s.lastError.getD "None")) (some s.slot.index)) ∧
      SlotOutcome.ran s ∈ outs ∧ s.stage = .failed ∧
      ∀ t, SlotOutcome.ran t ∈ outs → t.stage = .failed → s.slot.index ≤ t.slot.index := by
  obtain ⟨s₀, hs₀, hst₀⟩ := hfail
  cases hset : settle outs with
  | ok states => exact absurd hst₀ ((settle_ok hset).2.1 s₀ hs₀)
  | error e =>
    unfold settle at hset
    dsimp only at hset
    split at hset
    case h_1 _ _ f hf =>
      obtain ⟨o, ho, hof⟩ := List.mem_filterMap.1 (List.mem_of_mem_head? hf)
      cases o with
      | defect f' => exact absurd ho (hdef f')
      | ran s => cases hof
      | skipped => cases hof
    case h_2 _ _ s _ hs =>
      -- the slot `firstFailed` picks is among the failed slots and the least of them
      obtain ⟨hmem, hle⟩ := firstFailed_eq_some hs
      obtain ⟨hmem, hfailed⟩ := List.mem_filter.1 hmem
      obtain ⟨o, ho, hos⟩ := List.mem_filterMap.1 hmem
      cases o with
      | ran s' =>
        cases hos
        refine ⟨s, by cases hset; rfl, ho, by simpa using hfailed, fun t ht htf => ?_⟩
        exact hle t (List.mem_filter.2 ⟨List.mem_filterMap.2 ⟨_, ht, rfl⟩, by simp [htf]⟩)
      | defect _ => cases hos
      | skipped => cases hos
    case h_3 => cases hset

/-- How the run of `slot` can have come out, in a learning mode: run to an end as `Finished`
says, stopped by a defect, or skipped. -/
def SlotOutcome.Of (mode : String) (slot : Slot) : SlotOutcome → Prop
  | .ran s => s.Finished mode slot
  | .defect _ => True
  | .skipped => True

/-- **Settling delivers**: when the outcomes stand one per slot as `Of` says and a slot is
skipped only after one FAILED, a run that settles hands back what `Delivered` says. -/
theorem settle_delivered {mode : String} {slots : List Slot} {outs : List SlotOutcome}
    {states : List SlotState} (hof : List.Forall₂ (SlotOutcome.Of mode) slots outs)
    (hskip : SlotOutcome.skipped ∈ outs → ∃ s, SlotOutcome.ran s ∈ outs ∧ s.stage = .failed)
    (h : settle outs = .ok states) : Delivered mode slots states := by
  obtain ⟨hnodef, hnofail, rfl⟩ := settle_ok h
  apply delivered_renamed
  -- with no defect and no failed slot, no slot was skipped either: every slot ran to DONE
  have hnoskip : SlotOutcome.skipped ∉ outs := fun hs => by
    obtain ⟨s, hs, hst⟩ := hskip hs
    exact hnofail s hs hst
  clear hskip h
  induction hof with
  | nil => exact .nil
  | @cons slot o slots outs ho _ ih =>
    cases o with
    | ran s =>
      obtain ⟨hslot, hfailed | hdone⟩ := ho
      · exact absurd hfailed.1 (hnofail s List.mem_cons_self)
      · exact .cons ⟨hslot, hdone⟩ (ih (fun f hf => hnodef f (List.mem_cons_of_mem _ hf))
          (fun t ht => hnofail t (List.mem_cons_of_mem _ ht))
          (fun hs => hnoskip (List.mem_cons_of_mem _ hs)))
    | defect f => exact absurd List.mem_cons_self (hnodef f)
    | skipped => exact absurd List.mem_cons_self hnoskip

/-! ## The slots run one after another -/

theorem stateM_run_bind {α β : Type} (x : StateM σ α) (f : α → StateM σ β) (w : σ) :
    (x >>= f).run w = (f (x.run w).1).run (x.run w).2 := rfl

/-- **The slots run one after another**: the outcomes stand one per slot, each as `Of` says; a
slot is skipped only once skipping has begun or after a slot that FAILED; and the world moves
only by the services' exchanges. -/
theorem runEach_outcomes (svc : Services σ) (cfg : RunConfig) (spec : ActivitySpec) :
    ∀ (skip : Bool) (slots : List Slot) (w : σ) {outs : List SlotOutcome} {w' : σ},
      (runEach svc cfg spec skip slots).run w = (outs, w') →
      List.Forall₂ (SlotOutcome.Of cfg.learningMode) slots outs ∧
      (SlotOutcome.skipped ∈ outs → skip = true ∨
        ∃ s, SlotOutcome.ran s ∈ outs ∧ s.stage = .failed) ∧
      ∃ xs, svc.Trace w xs w'
  | _, [], w, outs, w', h => by
    simp only [runEach, StateT.run_pure] at h
    obtain ⟨rfl, rfl⟩ := h
    exact ⟨.nil, by simp, [], .nil _⟩
  | true, slot :: rest, w, outs, w', h => by
    rcases h₁ : (runEach svc cfg spec true rest).run w with ⟨outs₁, w₁⟩
    simp only [runEach, stateM_run_bind, h₁, StateT.run_pure] at h
    obtain ⟨rfl, rfl⟩ := h
    obtain ⟨hof, -, xs, htrace⟩ := runEach_outcomes svc cfg spec true rest w h₁
    exact ⟨.cons trivial hof, fun _ => .inl rfl, xs, htrace⟩
  | false, slot :: rest, w, outs, w', h => by
    rcases h₁ : (runSlot svc cfg spec slot).run' w with ⟨r, w₁⟩
    obtain ⟨atts, ys, hys, -⟩ := runSlot_explained svc cfg spec slot w
    rw [h₁] at hys
    simp only [runEach, stateM_run_bind] at h
    rw [show StateT.run (ExceptT.run (runSlot svc cfg spec slot)) w = (r, w₁) from h₁] at h
    cases r with
    | ok s =>
      -- the next slots are skipped from here when this one FAILED
      rcases h₂ : (runEach svc cfg spec (s.stage == .failed) rest).run w₁ with ⟨outs₁, w₂⟩
      simp only [stateM_run_bind, h₂, StateT.run_pure] at h
      obtain ⟨rfl, rfl⟩ := h
      obtain ⟨hof, hskip, xs, htrace⟩ := runEach_outcomes svc cfg spec _ rest w₁ h₂
      refine ⟨.cons (runSlot_finished svc cfg spec slot w (by rw [h₁])) hof, fun hs => .inr ?_,
        ys ++ xs, hys.append htrace⟩
      rcases List.mem_cons.1 hs with hs | hs
      · cases hs
      · rcases hskip hs with hfailed | ⟨t, ht, htf⟩
        · exact ⟨s, List.mem_cons_self, by simpa using hfailed⟩
        · exact ⟨t, List.mem_cons_of_mem _ ht, htf⟩
    | error f =>
      rcases h₂ : (runEach svc cfg spec false rest).run w₁ with ⟨outs₁, w₂⟩
      simp only [stateM_run_bind, h₂, StateT.run_pure] at h
      obtain ⟨rfl, rfl⟩ := h
      obtain ⟨hof, hskip, xs, htrace⟩ := runEach_outcomes svc cfg spec false rest w₁ h₂
      refine ⟨.cons trivial hof, fun hs => .inr ?_, ys ++ xs, hys.append htrace⟩
      rcases List.mem_cons.1 hs with hs | hs
      · cases hs
      · rcases hskip hs with hfalse | ⟨t, ht, htf⟩
        · cases hfalse
        · exact ⟨t, List.mem_cons_of_mem _ ht, htf⟩

/-- The world a run leaves is reached by the services' exchanges alone. -/
theorem run_trace (svc : Services σ) (cfg : RunConfig) (spec : ActivitySpec) (slots : List Slot)
    (w : σ) : ∃ xs, svc.Trace w xs ((run svc cfg spec slots).run' w).2 := by
  rcases hrun : (runEach svc cfg spec false slots).run w with ⟨outs, w₁⟩
  obtain ⟨-, -, xs, htrace⟩ := runEach_outcomes svc cfg spec false slots w hrun
  simp only [run, Effect.run'_bind, Effect.run'_lift, hrun, run'_step]
  exact ⟨xs, htrace⟩

/-- **A run that succeeds delivers its slots**: whatever the services answer, when the run of
`slots` one after another succeeds, it hands back what `Delivered` says. -/
theorem run_delivered (svc : Services σ) (cfg : RunConfig) (spec : ActivitySpec)
    (slots : List Slot) (w : σ) {states : List SlotState}
    (h : ((run svc cfg spec slots).run' w).1 = .ok states) :
    Delivered cfg.learningMode slots states := by
  rcases hrun : (runEach svc cfg spec false slots).run w with ⟨outs, w₁⟩
  obtain ⟨hof, hskip, -⟩ := runEach_outcomes svc cfg spec false slots w hrun
  simp only [run, Effect.run'_bind, Effect.run'_lift, hrun, run'_step] at h
  exact settle_delivered hof (fun hs => (hskip hs).resolve_left Bool.false_ne_true) h

/-! ## A run whose slots all pass -/

section AllPass

variable {svc : Services σ} {cfg : RunConfig} {spec : ActivitySpec} {ready : σ → Prop}
  {slots : List Slot}

/-- Outcomes of slots that all ran to DONE settle: the run returns. -/
theorem settle_ran {ran : List SlotState} (hdone : ∀ s ∈ ran, s.stage = .done) :
    ∃ states, settle (ran.map .ran) = .ok states := by
  have hnone : ran.filter (·.stage == .failed) = [] :=
    List.filter_eq_nil_iff.2 fun s hs => by simp [hdone s hs]
  unfold settle
  simp only [List.filterMap_map, Function.comp_apply, List.filterMap_none, List.head?_nil,
    List.filterMap_some, hnone]
  exact ⟨_, rfl⟩

/-- Slots that each pass, from every world where `ready` holds, run one after another into
states that are all DONE. -/
theorem runEach_passes (hpass : ∀ slot ∈ slots, ∃ s, s.stage = .done ∧ ∀ w, ready w →
      ∃ w', ready w' ∧ (runSlot svc cfg spec slot).run' w = (.ok s, w')) :
    ∀ {w : σ}, ready w → ∃ (ran : List SlotState) (w' : σ), ready w' ∧
      (∀ s ∈ ran, s.stage = .done) ∧
      (runEach svc cfg spec false slots).run w = (ran.map .ran, w') := by
  induction slots with
  | nil => exact fun hw => ⟨[], _, hw, by simp, rfl⟩
  | cons slot rest ih =>
    intro w hw
    obtain ⟨s, hs, hrun⟩ := hpass slot List.mem_cons_self
    obtain ⟨w₁, hw₁, h₁⟩ := hrun w hw
    obtain ⟨ran, w₂, hw₂, hdone, h₂⟩ :=
      ih (fun x hx => hpass x (List.mem_cons_of_mem _ hx)) hw₁
    refine ⟨s :: ran, w₂, hw₂, ?_, ?_⟩
    · simpa [hs] using hdone
    · -- a DONE slot does not start the skipping
      simp only [runEach, stateM_run_bind]
      rw [show StateT.run (ExceptT.run (runSlot svc cfg spec slot)) w = (.ok s, w₁) from h₁]
      simp [hs, show (SlotStage.done == SlotStage.failed) = false from rfl, h₂]
      rfl

/-- **Slots that all pass make the run return**: when the run of every slot ends DONE from
every world where `ready` holds, and leaves such a world, the run hands back the slots'
states. -/
theorem run_passes (hpass : ∀ slot ∈ slots, ∃ s, s.stage = .done ∧ ∀ w, ready w →
      ∃ w', ready w' ∧ (runSlot svc cfg spec slot).run' w = (.ok s, w')) {w : σ} (hw : ready w) :
    ∃ (states : List SlotState) (w' : σ), ready w' ∧
      (run svc cfg spec slots).run' w = (.ok states, w') := by
  obtain ⟨ran, w₁, hw₁, hdone, h₁⟩ := runEach_passes hpass hw
  obtain ⟨states, hstates⟩ := settle_ran hdone
  refine ⟨states, w₁, hw₁, ?_⟩
  simp only [run, Effect.run'_bind, Effect.run'_lift, h₁, run'_step, hstates]

end AllPass

/-! ## A reply that passes -/

/-- A model's reply drafting a Python problem answered by a return value, with the eight tests
the contract asks for. -/
def passingDraft : String :=
  "\x7b\"id\":\"a\",\"title\":\"a\",\"description\":\"a\",\"constraints\":\"a\",\"sample_inputs\":[\"a\"],\"sample_outputs\":[\"a\"],\"starter_code\":\"a\",\"reference_solution\":\"return\",\"test_suite\":\"import solution\\ndef test_case_1(\\ndef test_case_2(\\ndef test_case_3(\\ndef test_case_4(\\ndef test_case_5(\\ndef test_case_6(\\ndef test_case_7(\\ndef test_case_8(\"\x7d"

set_option maxRecDepth 100000 in
/-- That reply keeps the contract of every easy slot on lists in Python answered by a return
value, wherever the slot stands, and its draft is prepared for practice. -/
theorem passingDraft_reads (i : Int) :
    ∃ d p, readDraft ⟨i, .easy, "lists", .python, .returned⟩ passingDraft = .ok (.ok d) ∧
      d.finalize "practice" = .ok p := by
  -- the reply stands unfenced, so it is read as it is; one reading serves every position
  have hcheck : (passingDraft.toList == '{' :: passingDraft.toList.tail.dropLast ++ ['}'] &&
      ((Json.parseWithin draftRoom passingDraft).toOption.bind Json.getObj?).any
      (fun fs => ((checkDraft draftSuiteRoom (.obj fs)
        ⟨0, .easy, "lists", .python, .returned⟩).toOption.bind Except.toOption).any
          fun d => (d.finalize "practice").toBool)) = true := by
    decide +kernel
  rw [Bool.and_eq_true, beq_iff_eq] at hcheck
  obtain ⟨hshape, hcheck⟩ := hcheck
  generalize hj : Json.parseWithin draftRoom passingDraft = r at hcheck
  rcases r with e | j
  · simp [Except.toOption] at hcheck
  cases j
  case obj fs =>
    simp only [Except.toOption, Option.bind_some, Json.getObj?, Option.any_some] at hcheck
    generalize hc : checkDraft draftSuiteRoom (.obj fs) _ = c at hcheck
    rcases c with e | e | d
    · simp [Except.toOption] at hcheck
    · simp [Except.toOption] at hcheck
    cases hf : d.finalize "practice" with
    | error e => simp [Except.toOption, hf, Except.toBool] at hcheck
    | ok p =>
      refine ⟨d, p, ?_, hf⟩
      rw [readDraft_of_parse (by rw [Reply.unfence_of_braces hshape, hj]),
        show (⟨i, .easy, "lists", .python, .returned⟩ : Slot) =
          { (⟨0, .easy, "lists", .python, .returned⟩ : Slot) with index := i } from rfl,
        checkDraft_index, hc]
  all_goals simp [Except.toOption, Json.getObj?] at hcheck

end Generation

end PracticeForge
