import PracticeForge.Proofs.Chat.Turn

/-!
# Proofs/Chat/Outcome — what a turn answers and keeps

A turn on a stored thread goes one of three ways.  It is refused, for a blank message or a
thread past chatting, and the store is left as it was.  It is taken: the thread, with the
learner's trimmed message and the assistant's reply added, is saved once, and the answer is one
of three (`Ended`): it asks to confirm the change that waits, reports READY for a complete spec
with nothing waiting and no count put off, or asks the over-limit question for a count put off
and else for the first missing field, in the order language, count, plan, topics, style,
constraints.  Or it fails, leaving the store as it was: every step of a turn after the message
is read succeeds (`finish_ended`, `settle_ended`, `applyPending_ended`, resting on
`applyValues_succeeds`), so the only failures are those of reading the message's stated values
or the dialogue model's reply.

Main statement: `ThreadStore.handleTurn_outcome`.
-/

namespace PracticeForge

/-- The first missing field of a draft is the first one, in the order they are asked, that the
draft does not have. -/
theorem SpecDraft.missing_head? (s : SpecDraft) :
    s.missing.head? = ([SpecField.language, .problemCount, .difficultyPlan, .topicTags, .problemStyle,
      .constraints].find? fun f => !s.has f) := by
  rw [SpecDraft.missing, List.head?_filter]
  rfl

namespace Negotiation

/-! ## The three ways a turn ends -/

/-- Every field a draft can lack has a question that asks for it. -/
theorem fieldQuestion_of_mem_missing {s : SpecDraft} {f : SpecField} (hf : f ∈ s.missing)
    (count : String) : ∃ q, Wording.fieldQuestion f count = some q := by
  have hreq : f ∈ SpecField.required ++ [SpecField.constraints] := (List.mem_filter.1 hf).1
  simp only [SpecField.required, List.cons_append, List.nil_append, List.mem_cons,
    List.not_mem_nil, or_false] at hreq
  rcases hreq with rfl | rfl | rfl | rfl | rfl | rfl <;> exact ⟨_, rfl⟩

/-- With no count put off, the question asked is that of the first missing field. -/
theorem nextQuestion_of_missing {s : SpecDraft} {f : SpecField} {rest : List SpecField}
    (h : s.missing = f :: rest) (req : Option Int) : ∃ q, nextQuestion s false req = some (q, f.name) := by
  -- whatever count the question mentions
  have hask : ∀ count, ∃ q, (Wording.fieldQuestion f count).map (fun q => (q, f.name)) = some (q, f.name) := by
    intro count
    obtain ⟨q, hq⟩ := fieldQuestion_of_mem_missing (h ▸ List.mem_cons_self : f ∈ s.missing) count
    exact ⟨q, by rw [hq]; rfl⟩
  unfold nextQuestion
  simp only [Bool.false_eq_true, if_false, h]
  exact hask _

/-- **The next step.**  A waiting change is asked about; with nothing waiting, a complete spec
and no count put off make the thread READY; otherwise the over-limit question is asked for a
count put off, and else the question of the first missing field. -/
theorem nextStep_cases (u : Thread) (d : Bool) (req : Option Int) :
    (∃ p, u.pending = some p ∧
      nextStep u d req = (.clarifying, .confirm, some p.question, some p.questionKey)) ∨
    (u.pending = none ∧ u.spec.isComplete = true ∧ d = false ∧
      nextStep u d req = (.ready, .ready, none, none)) ∨
    (u.pending = none ∧ ¬(u.spec.isComplete = true ∧ d = false) ∧ ∃ q,
      nextStep u d req = (.clarifying, .ask, some q, if d then some "problem_count" else
        ([SpecField.language, .problemCount, .difficultyPlan, .topicTags, .problemStyle,
          .constraints].find? fun f => !u.spec.has f).map SpecField.name)) := by
  unfold nextStep
  cases hp : u.pending with
  | some p => exact .inl ⟨p, rfl, rfl⟩
  | none =>
    dsimp only
    by_cases hr : u.spec.isComplete = true ∧ d = false
    · rw [if_pos (by simp [hr])]
      exact .inr (.inl ⟨rfl, hr.1, hr.2, rfl⟩)
    · rw [if_neg (by simpa using hr)]
      refine .inr (.inr ⟨rfl, hr, ?_⟩)
      cases d
      · -- nothing put off: the spec is incomplete, and its first missing field is asked for
        have hmiss : u.spec.missing ≠ [] := by simpa [SpecDraft.isComplete] using hr
        obtain ⟨f, rest, hfr⟩ := List.exists_cons_of_ne_nil hmiss
        obtain ⟨q, hq⟩ := nextQuestion_of_missing hfr req
        rw [hq, ← SpecDraft.missing_head?, hfr]
        exact ⟨q, rfl⟩
      · exact ⟨_, rfl⟩

/-- **How a turn ended** on the thread `t`, with the count put off or not (`d`): the answer `r`
is accepted and reports the state of the kept thread `t'`, which is `t` with the assistant's
reply added, and either confirms the change that waits, or reports READY for a complete spec
with nothing waiting and no count put off, or asks: the over-limit question for a count put off,
else for the first field the spec lacks, in the order language, count, plan, topics, style,
constraints. -/
structure Ended (t : Thread) (d : Bool) (r : TurnResult) (t' : Thread) : Prop where
  id : t'.id = t.id
  reply : ∃ reply, t'.messages = t.messages ++ [⟨.assistant, reply, ""⟩] ∧ r.assistantMessage = some reply
  accepted : r.accepted = true
  state : r.state = t'.state
  way : (∃ p, t'.pending = some p ∧ t'.state = .clarifying ∧ r.nextAction = .confirm ∧
          r.questionKey = some p.questionKey) ∨
        (t'.pending = none ∧ t'.spec.isComplete = true ∧ d = false ∧ t'.state = .ready ∧
          r.nextAction = .ready) ∨
        (t'.pending = none ∧ ¬(t'.spec.isComplete = true ∧ d = false) ∧ t'.state = .clarifying ∧
          r.nextAction = .ask ∧
          r.questionKey = if d then some "problem_count" else
            ([SpecField.language, .problemCount, .difficultyPlan, .topicTags, .problemStyle,
              .constraints].find? fun f => !t'.spec.has f).map SpecField.name)

/-- How a turn ended depends only on the id and the messages of the thread it started from. -/
theorem Ended.of_talk {t u t' : Thread} {d : Bool} {r : TurnResult} (h : Ended u d r t')
    (hid : u.id = t.id) (hmsg : u.messages = t.messages) : Ended t d r t' :=
  ⟨h.id.trans hid, hmsg ▸ h.reply, h.accepted, h.state, h.way⟩

/-! ## Every step after reading succeeds -/

theorem fillConstraints_succeeds (s : SpecDraft) : ∃ s', fillConstraints s = .ok s' := by
  have hmerge : ∀ l : Language, s.merge [("constraints", .str l.defaultConstraints)] =
      .ok (s.writeAll [(.constraints, .text l.defaultConstraints)]) := fun l =>
    SpecDraft.merge_encode s [(.constraints, .text l.defaultConstraints)] (by simp [SpecValue.fits])
  unfold fillConstraints
  split
  · exact ⟨_, by rw [hmerge]; rfl⟩
  · exact ⟨_, by rw [hmerge]; rfl⟩
  · exact ⟨s, rfl⟩

/-- A thread that takes messages may always move to CLARIFYING or READY. -/
theorem transitionTo_talk {t : Thread} (h : t.state.isChat = true) {s : ThreadState}
    (hs : s = .clarifying ∨ s = .ready) : t.transitionTo s = .ok { t with state := s } := by
  unfold Thread.transitionTo
  rw [if_pos]
  · rfl
  · cases hst : t.state <;> rcases hs with rfl | rfl <;> simp_all [ThreadState.isChat, ThreadState.next]

variable {t u : Thread} {ack : Option String}

/-- **Ending a turn** on a thread that takes messages succeeds, and ends it as `Ended` says. -/
theorem finish_ended (hchat : t.state.isChat = true) (d : Bool) (req : Option Int) :
    ∃ r t', finish t ack d req = .ok (r, t') ∧ Ended t d r t' := by
  obtain ⟨spec, hspec⟩ := fillConstraints_succeeds t.spec
  have hway := nextStep_cases { t with spec } d req
  unfold finish
  rw [hspec]
  simp only [bind, Except.bind]
  generalize hn : nextStep { t with spec } d req = step at hway
  obtain ⟨st, a, pr, k⟩ := step
  have hst : st = .clarifying ∨ st = .ready := by
    rcases hway with ⟨p, -, hn'⟩ | ⟨-, -, -, hn'⟩ | ⟨-, -, q, hn'⟩ <;> simp_all
  dsimp only
  rw [transitionTo_talk (t := { t with spec }) hchat hst]
  refine ⟨_, _, rfl, ⟨rfl, ⟨_, rfl, rfl⟩, rfl, rfl, ?_⟩⟩
  -- the kept thread has the filled spec and the waiting change of `t`
  rcases hway with ⟨p, hp, hn'⟩ | ⟨hp, hc, hd, hn'⟩ | ⟨hp, hnot, q, hn'⟩
  · simp only [Prod.mk.injEq] at hn'
    obtain ⟨rfl, rfl, -, rfl⟩ := hn'
    exact .inl ⟨p, hp, rfl, rfl, rfl⟩
  · simp only [Prod.mk.injEq] at hn'
    obtain ⟨rfl, rfl, -, rfl⟩ := hn'
    exact .inr (.inl ⟨hp, hc, hd, rfl, rfl⟩)
  · simp only [Prod.mk.injEq] at hn'
    obtain ⟨rfl, rfl, -, rfl⟩ := hn'
    exact .inr (.inr ⟨hp, hnot, rfl, rfl, rfl⟩)

/-- Committing to fields changes only the commitments. -/
theorem commitHard_talk (t : Thread) (values : List (SpecField × SpecValue)) (chosen : SpecField → Bool) :
    (commitHard t values chosen).id = t.id ∧ (commitHard t values chosen).messages = t.messages ∧
      (commitHard t values chosen).state = t.state := by
  obtain ⟨added, hcommit, -⟩ := commitHard_eq t values chosen
  rw [hcommit]
  exact ⟨rfl, rfl, rfl⟩

/-- Waiting for a yes changes only the waiting change. -/
theorem awaitConfirm_talk (t : Thread) (C : List (SpecField × SpecValue)) :
    (awaitConfirm t C).id = t.id ∧ (awaitConfirm t C).messages = t.messages ∧
      (awaitConfirm t C).state = t.state := by
  unfold awaitConfirm
  split <;> exact ⟨rfl, rfl, rfl⟩

/-- **Settling a turn** on a thread that takes messages succeeds, whatever was stated and
proposed, and ends with the count put off as the message put it off. -/
theorem settle_ended {sh : Shorthand} {proposed : List (String × Json)} (hchat : u.state.isChat = true) :
    ∃ r t', settle u sh ack proposed = .ok (r, t') ∧ Ended u sh.countDeferred r t' := by
  rcases hw : withPlanCount u.spec (checkPatch (.obj (candidate sh proposed)) (some u.spec))
    sh.explicitFields with ⟨vals, explicit⟩
  obtain ⟨hclean, hk⟩ := withPlanCount_clean hw
  rcases hg : gate u explicit vals with ⟨A, C, t1⟩
  have hout := gate_spec hk hg
  -- the values applied now are clean, one per field, so applying them succeeds
  have hAc : ∀ e ∈ A, e.2.Clean e.1 := fun e he => hclean e (hout.applied_sublist.subset he)
  have hAk : (A.map (·.1)).Nodup := hk.sublist (hout.applied_sublist.map _)
  obtain ⟨s1, hs1⟩ := applyValues_succeeds (s := t1.spec) hAc hAk
  -- the thread handed to `finish` is `u` with other spec, commitments and waiting change
  have ht1 := congrArg (fun v : Thread => (v.id, v.messages, v.state)) hout.thread
  simp only [Prod.mk.injEq] at ht1
  obtain ⟨hc1, hc2, hc3⟩ := commitHard_talk { t1 with spec := s1 } A explicit.contains
  obtain ⟨ha1, ha2, ha3⟩ := awaitConfirm_talk (commitHard { t1 with spec := s1 } A explicit.contains) C
  obtain ⟨r, t', hf, hend⟩ := @finish_ended
    (awaitConfirm (commitHard { t1 with spec := s1 } A explicit.contains) C) ack
    (by rw [ha3, hc3, show t1.state = u.state from ht1.2.2]; exact hchat) sh.countDeferred (sh.requestedCount.map Int.ofNat)
  refine ⟨r, t', ?_, hend.of_talk (ha1.trans (hc1.trans ht1.1)) (ha2.trans (hc2.trans ht1.2.1))⟩
  unfold settle
  simp only [hw, hg]
  exact Except.bind_eq_ok.2 ⟨s1, hs1, hf⟩

/-- **Applying a confirmed change** on a thread that takes messages succeeds, and ends with no
count put off. -/
theorem applyPending_ended {p : PendingPatch} (hchat : u.state.isChat = true) :
    ∃ r t', applyPending u p = .ok (r, t') ∧ Ended u false r t' := by
  have hvc : ∀ e ∈ (checkPatch (.obj p.fields) (some u.spec)).validValues, e.2.Clean e.1 :=
    fun e he => checkPatch_clean (mem_validValues_checkPatch.1 he)
  obtain ⟨s1, hs1⟩ := applyValues_succeeds (s := u.spec) hvc (checkPatch_keys_nodup _ _)
  obtain ⟨hc1, hc2, hc3⟩ := commitHard_talk { u with spec := s1 }
    (checkPatch (.obj p.fields) (some u.spec)).validValues fun _ => true
  -- whatever the acknowledgement says, finishing ends the turn as `Ended` says
  have hend : ∀ ack, ∃ r t', finish (commitHard { u with spec := s1 }
      (checkPatch (.obj p.fields) (some u.spec)).validValues fun _ => true) ack false none =
        .ok (r, t') ∧ Ended u false r t' := by
    intro ack
    obtain ⟨r, t', hf, he⟩ := @finish_ended (commitHard { u with spec := s1 }
      (checkPatch (.obj p.fields) (some u.spec)).validValues fun _ => true) ack
      (by rw [hc3]; exact hchat) false none
    exact ⟨r, t', hf, he.of_talk hc1 hc2⟩
  unfold applyPending
  exact (hend _).imp fun r h => h.imp fun t' h' => ⟨Except.bind_eq_ok.2 ⟨s1, hs1, h'.1⟩, h'.2⟩

/-! ## A whole turn -/

/-- Whether a turn put the count off (`d`): only a message read for stated values, one that is
no yes to a waiting change, can, and it does when its reading put the count off. -/
def CountPutOff (t : Thread) (text : String) (d : Bool) : Prop :=
  d = true ↔ (∀ p, t.pending = some p → Shorthand.isAffirmative text = false) ∧
    ∃ sh, Shorthand.read text = .ok sh ∧ sh.countDeferred = true

theorem countPutOff_read {text : String} {sh : Shorthand} (hsh : Shorthand.read text = .ok sh)
    (ha : ∀ p, t.pending = some p → Shorthand.isAffirmative text = false) :
    CountPutOff t text sh.countDeferred := by
  refine ⟨fun hd => ⟨ha, sh, hsh, hd⟩, ?_⟩
  rintro ⟨-, sh', hsh', hd⟩
  rw [hsh, Except.ok.injEq] at hsh'
  exact hsh' ▸ hd

theorem countPutOff_yes {text : String} {p : PendingPatch} (hp : t.pending = some p)
    (ha : Shorthand.isAffirmative text = true) : CountPutOff t text false := by
  refine ⟨fun hd => absurd hd Bool.false_ne_true, ?_⟩
  rintro ⟨hno, -⟩
  rw [hno p hp] at ha
  cases ha

variable {text : String} {model : String → ModelReply}

/-- **Negotiating a message** on a thread that takes messages ends as `Ended` says, or fails,
and then only in reading the message's stated values or the dialogue model's reply. -/
theorem negotiate_outcome (hchat : t.state.isChat = true) :
    (∃ r t' d, (negotiate t text model).2 = .ok (r, t') ∧ Ended t d r t' ∧ CountPutOff t text d) ∨
      ∃ e, (negotiate t text model).2 = .error e ∧
        (Shorthand.read text = .error e ∨ ∃ prompt, proposal (model prompt) = .error e) := by
  unfold negotiate
  dsimp only
  split
  · next p hp =>
    split
    · next ha =>
      -- a yes to the waiting change applies it
      obtain ⟨r, t', h, hend⟩ := applyPending_ended (u := { t with pending := none }) (p := p) hchat
      exact .inl ⟨r, t', false, h, hend.of_talk rfl rfl, countPutOff_yes hp ha⟩
    · next ha =>
      -- any other message drops the waiting change and is read for stated values
      have hno : ∀ p', t.pending = some p' → Shorthand.isAffirmative text = false := by
        intro p' hp'
        simpa using ha
      split
      · next e he => exact .inr ⟨e, rfl, .inl he⟩
      · next sh hsh =>
        rcases hpr : proposal (model (dialoguePromptFor { t with pending := none } text)) with
          e | ⟨ack, proposed⟩
        · exact .inr ⟨e, Except.bind_eq_error.2 (.inl rfl), .inr ⟨_, hpr⟩⟩
        · obtain ⟨r, t', h, hend⟩ := @settle_ended { t with pending := none } ack sh proposed hchat
          exact .inl ⟨r, t', sh.countDeferred, Except.bind_eq_ok.2 ⟨_, rfl, h⟩, hend.of_talk rfl rfl,
            countPutOff_read hsh hno⟩
  · next hp =>
    have hno : ∀ p', t.pending = some p' → Shorthand.isAffirmative text = false := by
      intro p' hp'
      rw [hp] at hp'
      cases hp'
    split
    · next e he => exact .inr ⟨e, rfl, .inl he⟩
    · next sh hsh =>
      rcases hpr : proposal (model (dialoguePromptFor t text)) with e | ⟨ack, proposed⟩
      · exact .inr ⟨e, Except.bind_eq_error.2 (.inl rfl), .inr ⟨_, hpr⟩⟩
      · obtain ⟨r, t', h, hend⟩ := @settle_ended t ack sh proposed hchat
        exact .inl ⟨r, t', sh.countDeferred, Except.bind_eq_ok.2 ⟨_, rfl, h⟩, hend, countPutOff_read hsh hno⟩

end Negotiation

/-- **What a turn does to the store.**  For a stored thread, any message and any dialogue model,
the turn is refused, for a blank message or a thread past chatting: the answer is not accepted,
echoes the message and reports the thread's state, and the store is left as it was.  Or it is
taken: the thread, with the learner's trimmed message added, ends as `Ended` says, with the
assistant's reply added, and is saved once.  Or it fails, the store left as it was, and only
because the message's stated values or the dialogue model's reply could not be read. -/
theorem ThreadStore.handleTurn_outcome {store : ThreadStore} {id : String} {t : Thread}
    (ht : store.get? id = some t) (message : Option String) (model : String → ModelReply) :
    (((Text.trim (message.getD "")).isEmpty = true ∨ t.state.isChat = false) ∧
      (store.handleTurn id message model).store = store ∧
      ∃ r, (store.handleTurn id message model).result = .ok r ∧ r.accepted = false ∧
        r.echo = message ∧ r.state = t.state) ∨
    ((Text.trim (message.getD "")).isEmpty = false ∧ t.state.isChat = true ∧
      ((∃ r t' d, (store.handleTurn id message model).result = .ok r ∧
          (store.handleTurn id message model).store = store.save t' ∧
          Negotiation.Ended (t.addMessage .user (Text.trim (message.getD ""))) d r t' ∧
          Negotiation.CountPutOff t (Text.trim (message.getD "")) d) ∨
        ∃ e, (store.handleTurn id message model).result = .error e ∧
          (store.handleTurn id message model).store = store ∧
          (Shorthand.read (Text.trim (message.getD "")) = .error e ∨
            ∃ prompt, Negotiation.proposal (model prompt) = .error e))) := by
  unfold handleTurn Negotiation.turn
  rw [ht]
  dsimp only
  by_cases hb : (Text.trim (message.getD "")).isEmpty = true
  · -- a blank message
    rw [if_pos hb]
    exact .inl ⟨.inl hb, rfl, _, rfl, rfl, rfl, rfl⟩
  rw [if_neg hb]
  by_cases hc : t.state.isChat = true
  case neg =>
    -- a thread past chatting
    rw [if_pos (by simpa using hc)]
    exact .inl ⟨.inr (by simpa using hc), rfl, _, rfl, rfl, rfl, rfl⟩
  rw [if_neg (by simpa using hc)]
  rcases hn : Negotiation.negotiate (t.addMessage .user (Text.trim (message.getD "")))
    (Text.trim (message.getD "")) model with ⟨prompt, res⟩
  have hout := @Negotiation.negotiate_outcome (t.addMessage .user (Text.trim (message.getD "")))
    (Text.trim (message.getD "")) model hc
  rw [hn] at hout
  refine .inr ⟨by simpa using hb, hc, ?_⟩
  rcases hout with ⟨r, t', d, rfl, hend, hput⟩ | ⟨e, rfl, hcause⟩
  · exact .inl ⟨r, t', d, rfl, rfl, hend, hput⟩
  · exact .inr ⟨e, rfl, rfl, hcause⟩

end PracticeForge
