import PracticeForge.Proofs.Effect
import PracticeForge.Generation.Run

/-!
# Proofs/Generation/SlotRun — the run of one slot, for any behaviour of its services

A slot's run talks to its services: it asks the generator model, hands drafts to the judge,
waits between attempts and tells the watchers how it goes.  Whatever the services answer, the
run is explained by the list of its exchanges with them (`Services.Trace`), and each attempt by
one of seven kinds (`Attempt`): the model could not be reached, its draft was rejected, the judge
could not run, the judge ran the draft, or one of three defects (the model call or the judge
broke down, or the model's text could not be read at all).  The kind fixes the events the
attempt tells, the replies it used and what it came to (`Attempt.result`): a failure that spends
the attempt, a finished problem, or a defect that stops the run.

Main statements:
* `attemptOnce_explained` — one attempt from a drafting state, as its kind, its exchanges and
  the state it leaves.
* `attempts_explained` — the attempt loop makes at most `maxAttempts` attempts, each but the
  last spent by a failure.
* `runSlot_explained` — the whole run of a slot (`SlotRun`): one model call per attempt, the
  events `slot_started`, then each attempt's events in order, then `slot_completed` or
  `slot_failed`; FAILED exactly when the whole budget was spent on failures; DONE with the
  problem the last attempt's passing draft became.  A defect of the last attempt is the only
  way the run fails, and then no closing event is told.
-/

namespace PracticeForge

/-! ## The steps of a slot -/

namespace SlotState

theorem expect_ok {s : SlotState} {stages : List SlotStage} (h : s.stage ∈ stages) :
    s.expect stages = .ok () := by
  unfold expect
  rw [if_pos (List.contains_iff_mem.2 h)]
  rfl

@[simp] theorem startDrafting_queued (slot : Slot) :
    (queued slot).startDrafting = .ok ⟨slot, .drafting, 1, none, none, false, none, none⟩ := rfl

theorem toContractCheck_ok {s : SlotState} (h : s.stage = .drafting) :
    s.toContractCheck = .ok { s with stage := .contractCheck } := by
  simp only [toContractCheck, expect_ok (show s.stage ∈ [SlotStage.drafting] by simp [h])]
  rfl

theorem toSandboxCheck_ok {s : SlotState} (h : s.stage = .contractCheck) (d : ProblemDraft) :
    s.toSandboxCheck d = .ok { s with stage := .sandboxCheck, draft := some d } := by
  simp only [toSandboxCheck, expect_ok (show s.stage ∈ [SlotStage.contractCheck] by simp [h])]
  rfl

theorem complete_ok {s : SlotState} (h : s.stage = .sandboxCheck) (p : Problem) :
    s.complete p = .ok { s with stage := .done, draft := none, problem := some p, lastError := none } := by
  simp only [complete, expect_ok (show s.stage ∈ [SlotStage.sandboxCheck] by simp [h])]
  rfl

/-- `s'` is `s` after an attempt that failed with `error`: drafting again at the next attempt,
or FAILED once the attempts are spent.  The slot and its problem stay. -/
structure FailedFrom (s : SlotState) (error : String) (s' : SlotState) : Prop where
  slot : s'.slot = s.slot
  problem : s'.problem = s.problem
  lastError : s'.lastError = some error
  next : s.attempt < maxAttempts ∧ s'.stage = .drafting ∧ s'.attempt = s.attempt + 1 ∨
    maxAttempts ≤ s.attempt ∧ s'.stage = .failed ∧ s'.attempt = s.attempt

/-- A failure reads only the slot, the attempt number and the problem of the state it starts
from. -/
theorem FailedFrom.of_same {s t s' : SlotState} {error : String} (h : t.FailedFrom error s')
    (hslot : t.slot = s.slot) (hattempt : t.attempt = s.attempt)
    (hproblem : t.problem = s.problem) : s.FailedFrom error s' :=
  ⟨h.slot.trans hslot, h.problem.trans hproblem, h.lastError, hattempt ▸ h.next⟩

/-- `s'` is `s` made DONE, at the same attempt, with the problem `p`. -/
structure DoneFrom (s : SlotState) (p : Problem) (s' : SlotState) : Prop where
  slot : s'.slot = s.slot
  stage : s'.stage = .done
  attempt : s'.attempt = s.attempt
  problem : s'.problem = some p

/-- An attempt fails from any stage of an attempt under way. -/
theorem attemptFailed_ok {s : SlotState} (h : s.stage ∈ [.drafting, .contractCheck, .sandboxCheck])
    (error : String) (feedback : Option String) (timedOut : Bool) :
    ∃ s', s.attemptFailed error feedback timedOut = .ok s' ∧ s.FailedFrom error s' := by
  by_cases hk : maxAttempts ≤ s.attempt
  · refine ⟨{ s with stage := .failed, lastError := some error, timedOut := timedOut, draft := none },
      ?_, ⟨rfl, rfl, rfl, .inr ⟨hk, rfl, rfl⟩⟩⟩
    simp only [attemptFailed, expect_ok h, if_pos hk]
    rfl
  · refine ⟨{ s with
      stage := .drafting, attempt := s.attempt + 1, feedback := feedback,
      lastError := some error, timedOut := timedOut, draft := none }, ?_,
      ⟨rfl, rfl, rfl, .inl ⟨by omega, rfl, rfl⟩⟩⟩
    simp only [attemptFailed, expect_ok h, if_neg hk]
    rfl

end SlotState

namespace Generation

variable {σ : Type}

@[simp] theorem run'_step {α : Type} (r : Except Failure α) (w : σ) :
    (step r : Gen σ α).run' w = (r, w) := rfl

@[simp] theorem run'_announce (svc : Services σ) (e : ProgressEvent) (w : σ) :
    (announce svc e).run' w = (.ok ⟨⟩, svc.publish e w) := rfl

@[simp] theorem run'_ask {α : Type} (f : σ → α × σ) (w : σ) :
    (ask f).run' w = (.ok (f w).1, (f w).2) := rfl

/-! ## Exchanges with the services -/

/-- One exchange of a run with its services. -/
inductive Exchange where
  | asked (a : Gateway.Ask) (r : ModelReply)
  | judged (lang : Language) (files : List (String × String)) (suite : String) (r : JudgeReply)
  | slept (d : Binary64)
  | told (e : ProgressEvent)

namespace Exchange

/-- The model's reply, when the exchange asked the model. -/
def reply? : Exchange → Option ModelReply
  | asked _ r => some r
  | judged .. | slept _ | told _ => none

/-- The judge's reply, when the exchange asked the judge. -/
def judgeReply? : Exchange → Option JudgeReply
  | judged _ _ _ r => some r
  | asked .. | slept _ | told _ => none

/-- The event, when the exchange told the watchers. -/
def event? : Exchange → Option ProgressEvent
  | told e => some e
  | asked .. | judged .. | slept _ => none

end Exchange

/-- **The services answer the exchanges `xs`**, in order, from the world `w`, and leave the
world `w'`: each question gets the reply the services give in the world of that moment. -/
inductive Services.Trace (svc : Services σ) : σ → List Exchange → σ → Prop
  | nil (w : σ) : Trace svc w [] w
  | asked {w w₁ w' : σ} {a : Gateway.Ask} {r : ModelReply} {xs : List Exchange} :
      svc.complete a w = (r, w₁) → Trace svc w₁ xs w' → Trace svc w (.asked a r :: xs) w'
  | judged {w w₁ w' : σ} {lang : Language} {files : List (String × String)} {suite : String}
      {r : JudgeReply} {xs : List Exchange} :
      svc.judge lang files suite w = (r, w₁) → Trace svc w₁ xs w' →
        Trace svc w (.judged lang files suite r :: xs) w'
  | slept {w w' : σ} {d : Binary64} {xs : List Exchange} :
      Trace svc (svc.sleep d w) xs w' → Trace svc w (.slept d :: xs) w'
  | told {w w' : σ} {e : ProgressEvent} {xs : List Exchange} :
      Trace svc (svc.publish e w) xs w' → Trace svc w (.told e :: xs) w'

theorem Services.Trace.append {svc : Services σ} {w w₁ w₂ : σ} {xs ys : List Exchange}
    (h₁ : svc.Trace w xs w₁) (h₂ : svc.Trace w₁ ys w₂) : svc.Trace w (xs ++ ys) w₂ := by
  induction h₁ with
  | nil => exact h₂
  | asked ha _ ih => exact .asked ha (ih h₂)
  | judged hj _ ih => exact .judged hj (ih h₂)
  | slept _ ih => exact .slept (ih h₂)
  | told _ ih => exact .told (ih h₂)

/-! ## The kinds of attempt -/

/-- The error a rejected draft leaves, as the attempt records and tells it. -/
def rejectionError (r : Rejection) : String :=
  shortError ("Contract check failed: " ++ r.issues.headD r.reason)

/-- How one drafting attempt went, by what the services answered and what the contract check
made of the model's text. -/
inductive Attempt where
  /-- The model could not be reached. -/
  | unreachable (provider message : String)
  /-- The model's draft broke the slot's contract. -/
  | rejected (raw : String) (r : Rejection)
  /-- The draft kept the contract, but the judge could not run. -/
  | judgeDown (raw : String) (d : ProblemDraft) (message : String)
  /-- The judge ran the draft's reference solution against its tests. -/
  | judged (raw : String) (d : ProblemDraft) (v : Verdict)
  /-- The model call broke down. -/
  | modelBroke (f : Failure)
  /-- The model's text could not be read at all. -/
  | unreadable (raw : String) (e : Json.ReadError)
  /-- The judge broke down. -/
  | judgeBroke (raw : String) (d : ProblemDraft) (f : Failure)

/-- What an attempt came to: a failure that spends it, a finished problem, or a defect that
stops the run. -/
inductive Attempt.Result where
  | failed (error : String)
  | done (p : Problem)
  | defect (f : Failure)

namespace Attempt

/-- The model's reply. -/
def reply : Attempt → ModelReply
  | unreachable p m => .unavailable p m
  | modelBroke f => .broken f
  | rejected raw _ | judgeDown raw .. | judged raw .. | unreadable raw _ | judgeBroke raw .. =>
    .text raw

/-- The judge's reply, when the draft reached the judge. -/
def judgeReply : Attempt → Option JudgeReply
  | judgeDown _ _ m => some (.unavailable m)
  | judged _ _ v => some (.verdict v)
  | judgeBroke _ _ f => some (.broken f)
  | unreachable .. | rejected .. | modelBroke _ | unreadable .. => none

/-- The kind agrees with what the slot's contract check makes of the model's text. -/
def Checked (slot : Slot) : Attempt → Prop
  | rejected raw r => readDraft slot raw = .ok (.error r)
  | judgeDown raw d _ | judged raw d _ | judgeBroke raw d _ => readDraft slot raw = .ok (.ok d)
  | unreadable raw e => readDraft slot raw = .error e
  | unreachable .. | modelBroke _ => True

/-- What the attempt came to, in a learning mode: a verdict that is not a pass (or a run out of
time) fails it like an unreachable model, a rejected draft or a judge that cannot run; a passing
draft becomes the problem prepared for the mode. -/
def result (mode : String) : Attempt → Result
  | unreachable .. => .failed "Model request failed"
  | rejected _ r => .failed (rejectionError r)
  | judgeDown .. => .failed "Sandbox unavailable"
  | judged _ d v =>
    if !v.success || v.timedOut then .failed v.describe
    else match d.finalize mode with
      | .ok p => .done p
      | .error f => .defect f
  | modelBroke f | judgeBroke _ _ f => .defect f
  | unreadable _ e => .defect (Reply.failure e)

/-- The events of attempt number `k` of the slot at `idx`: its start, then either a contract
failure, or the draft's validation and judging and, unless it passed, the judge's failure.  An
attempt stopped by a defect tells nothing after the point it reached. -/
def events (idx : Int) (k : Nat) : Attempt → List ProgressEvent
  | unreachable .. => [.attemptStarted idx k, .contractFailed idx "Model request failed"]
  | rejected _ r => [.attemptStarted idx k, .contractFailed idx (rejectionError r)]
  | judgeDown .. =>
    [.attemptStarted idx k, .contractValidated idx, .judgeStarted idx,
      .judgeFailed idx "Sandbox unavailable" false]
  | judged _ _ v =>
    [.attemptStarted idx k, .contractValidated idx, .judgeStarted idx] ++
      if !v.success || v.timedOut then [.judgeFailed idx v.describe v.timedOut] else []
  | modelBroke _ | unreadable .. => [.attemptStarted idx k]
  | judgeBroke .. => [.attemptStarted idx k, .contractValidated idx, .judgeStarted idx]

/-- The exchanges after the model's reply, for the slot at `idx` in language `lang`. -/
def afterReply (idx : Int) (lang : Language) : Attempt → List Exchange
  | unreachable .. => [.told (.contractFailed idx "Model request failed")]
  | rejected _ r => [.told (.contractFailed idx (rejectionError r))]
  | judgeDown _ d m =>
    [.told (.contractValidated idx), .told (.judgeStarted idx),
      .judged lang d.referenceFiles d.problem.testSuite (.unavailable m),
      .told (.judgeFailed idx "Sandbox unavailable" false)]
  | judged _ d v =>
    [.told (.contractValidated idx), .told (.judgeStarted idx),
      .judged lang d.referenceFiles d.problem.testSuite (.verdict v)] ++
      if !v.success || v.timedOut then [.told (.judgeFailed idx v.describe v.timedOut)] else []
  | judgeBroke _ d f =>
    [.told (.contractValidated idx), .told (.judgeStarted idx),
      .judged lang d.referenceFiles d.problem.testSuite (.broken f)]
  | modelBroke _ | unreadable .. => []

/-- The exchanges of attempt number `k`, which asked the model `ask`. -/
def exchanges (idx : Int) (k : Nat) (ask : Gateway.Ask) (lang : Language) (a : Attempt) :
    List Exchange :=
  .told (.attemptStarted idx k) :: .asked ask a.reply :: a.afterReply idx lang

/-! The three views of an attempt's exchanges: one model reply, the judge's reply if the draft
got that far, and the attempt's events. -/

theorem replies_exchanges (idx : Int) (k : Nat) (ask : Gateway.Ask) (lang : Language)
    (a : Attempt) : (a.exchanges idx k ask lang).filterMap Exchange.reply? = [a.reply] := by
  cases a with
  | judged raw d v =>
    by_cases hv : (!v.success || v.timedOut) = true <;>
      simp [exchanges, afterReply, reply, Exchange.reply?, List.filterMap_cons, hv]
  | _ => simp [exchanges, afterReply, reply, Exchange.reply?, List.filterMap_cons]

theorem verdicts_exchanges (idx : Int) (k : Nat) (ask : Gateway.Ask) (lang : Language)
    (a : Attempt) :
    (a.exchanges idx k ask lang).filterMap Exchange.judgeReply? = a.judgeReply.toList := by
  cases a with
  | judged raw d v =>
    by_cases hv : (!v.success || v.timedOut) = true <;>
      simp [exchanges, afterReply, judgeReply, Exchange.judgeReply?, List.filterMap_cons, hv]
  | _ => simp [exchanges, afterReply, judgeReply, Exchange.judgeReply?, List.filterMap_cons]

theorem events_exchanges (idx : Int) (k : Nat) (ask : Gateway.Ask) (lang : Language)
    (a : Attempt) : (a.exchanges idx k ask lang).filterMap Exchange.event? = a.events idx k := by
  cases a with
  | judged raw d v =>
    by_cases hv : (!v.success || v.timedOut) = true <;>
      simp [exchanges, afterReply, events, Exchange.event?, List.filterMap_cons, hv]
  | _ => simp [exchanges, afterReply, events, Exchange.event?, List.filterMap_cons]

/-- How an attempt begun in state `s` ended with `r`: a failure sends the slot on from `s` (to
its next attempt or to FAILED), a finished problem makes it DONE at the same attempt, and a
defect stops the run. -/
def Ends (mode : String) (s : SlotState) (a : Attempt) : Except Failure SlotState → Prop
  | .error f => a.result mode = .defect f
  | .ok s' => (∃ e, a.result mode = .failed e ∧ s.FailedFrom e s') ∨
      ∃ p, a.result mode = .done p ∧ s.DoneFrom p s'

/-- How an attempt ended reads only the slot, the attempt number and the problem of the state
it began in. -/
theorem Ends.of_same {mode : String} {s t : SlotState} {a : Attempt}
    {r : Except Failure SlotState} (h : a.Ends mode t r) (hslot : t.slot = s.slot)
    (hattempt : t.attempt = s.attempt) (hproblem : t.problem = s.problem) : a.Ends mode s r := by
  cases r with
  | error f => exact h
  | ok s' =>
    rcases h with ⟨e, he, hf⟩ | ⟨p, hp, hd⟩
    · exact .inl ⟨e, he, hf.of_same hslot hattempt hproblem⟩
    · exact .inr ⟨p, hp, ⟨hd.slot.trans hslot, hd.stage, hd.attempt.trans hattempt, hd.problem⟩⟩

end Attempt

/-! ## One attempt -/

variable (svc : Services σ) (cfg : RunConfig) (spec : ActivitySpec)

/-- The question an attempt from state `s` puts to the model. -/
def draftAsk (s : SlotState) : Gateway.Ask :=
  generationAsk (systemPrompt s.slot.language)
    (slotPrompt s.slot spec.constraints spec.generationFocus s.feedback)

variable {svc cfg spec}

/-- **Judging a draft** that kept the contract: the judge's reply decides the kind of attempt. -/
theorem judgeDraft_explained {s : SlotState} (hs : s.stage = .contractCheck) {raw : String}
    {d : ProblemDraft} (hd : readDraft s.slot raw = .ok (.ok d)) {w w' : σ}
    {r : Except Failure SlotState} (hrun : (judgeDraft svc cfg s d).run' w = (r, w')) :
    ∃ a : Attempt, a.reply = .text raw ∧ a.Checked s.slot ∧
      svc.Trace w (a.afterReply s.slot.index s.slot.language) w' ∧ a.Ends cfg.learningMode s r := by
  have hjs : ({ s with stage := .sandboxCheck, draft := some d } : SlotState).stage ∈
      [.drafting, .contractCheck, .sandboxCheck] := by simp
  simp only [judgeDraft, Effect.run'_bind, run'_step, run'_announce, run'_ask,
    SlotState.toSandboxCheck_ok hs] at hrun
  rcases hj : svc.judge s.slot.language d.referenceFiles d.problem.testSuite
    (svc.publish (.judgeStarted s.slot.index) (svc.publish (.contractValidated s.slot.index) w))
    with ⟨reply, w₁⟩
  rw [hj] at hrun
  cases reply with
  | broken f =>
    obtain ⟨rfl, rfl⟩ := Prod.mk.inj hrun
    exact ⟨.judgeBroke raw d f, rfl, hd, .told (.told (.judged hj (.nil _))), rfl⟩
  | unavailable m =>
    obtain ⟨s', hs', hf⟩ := SlotState.attemptFailed_ok hjs "Sandbox unavailable" s.feedback false
    simp only [hs', Effect.run'_bind, run'_step, run'_announce, Effect.run'_pure] at hrun
    obtain ⟨rfl, rfl⟩ := Prod.mk.inj hrun
    rw [SlotState.errorText, hf.lastError, Option.getD_some]
    exact ⟨.judgeDown raw d m, rfl, hd, .told (.told (.judged hj (.told (.nil _)))),
      .inl ⟨_, rfl, hf.of_same rfl rfl rfl⟩⟩
  | verdict v =>
    by_cases hv : (!v.success || v.timedOut) = true
    · obtain ⟨s', hs', hf⟩ := SlotState.attemptFailed_ok hjs v.describe (some v.feedback) v.timedOut
      simp only [hv, if_true, hs', Effect.run'_bind, run'_step, run'_announce,
        Effect.run'_pure] at hrun
      obtain ⟨rfl, rfl⟩ := Prod.mk.inj hrun
      refine ⟨.judged raw d v, rfl, hd, ?_, .inl ⟨_, by simp [Attempt.result, hv], hf.of_same rfl rfl rfl⟩⟩
      simpa [Attempt.afterReply, hv] using .told (.told (.judged hj (.told (.nil _))))
    · have hv' : (!v.success || v.timedOut) = false := by simpa using hv
      have htrace : svc.Trace w ((Attempt.judged raw d v).afterReply s.slot.index s.slot.language) w₁ := by
        simpa [Attempt.afterReply, hv'] using .told (.told (.judged hj (.nil _)))
      rcases hfin : d.finalize cfg.learningMode with f | p
      · simp only [hv', hfin, Bool.false_eq_true, if_false, Effect.run'_bind, run'_step] at hrun
        obtain ⟨rfl, rfl⟩ := Prod.mk.inj hrun
        exact ⟨.judged raw d v, rfl, hd, htrace, by simp [Attempt.Ends, Attempt.result, hv', hfin]⟩
      · simp only [hv', hfin, Bool.false_eq_true, if_false, Effect.run'_bind, run'_step,
          SlotState.complete_ok (rfl : ({ s with stage := .sandboxCheck, draft := some d } :
            SlotState).stage = .sandboxCheck)] at hrun
        obtain ⟨rfl, rfl⟩ := Prod.mk.inj hrun
        exact ⟨.judged raw d v, rfl, hd, htrace,
          .inr ⟨p, by simp [Attempt.result, hv', hfin], ⟨rfl, rfl, rfl, rfl⟩⟩⟩

/-- **A drafting attempt proper**: the model's reply, and for a text what the contract check
makes of it, decide the kind of attempt. -/
theorem draftAttempt_explained {s : SlotState} (hs : s.stage = .drafting) {w w' : σ}
    {r : Except Failure SlotState} (hrun : (draftAttempt svc cfg spec s).run' w = (r, w')) :
    ∃ a : Attempt, a.Checked s.slot ∧
      svc.Trace w (a.exchanges s.slot.index s.attempt (draftAsk spec s) s.slot.language) w' ∧
      a.Ends cfg.learningMode s r := by
  simp only [draftAttempt, Effect.run'_bind, run'_announce, run'_ask] at hrun
  rcases hm : svc.complete (draftAsk spec s) (svc.publish (.attemptStarted s.slot.index s.attempt) w)
    with ⟨reply, w₁⟩
  rw [show generationAsk (systemPrompt s.slot.language)
    (slotPrompt s.slot spec.constraints spec.generationFocus s.feedback) = draftAsk spec s from rfl,
    hm] at hrun
  cases reply with
  | broken f =>
    obtain ⟨rfl, rfl⟩ := Prod.mk.inj hrun
    exact ⟨.modelBroke f, trivial, .told (.asked hm (.nil _)), rfl⟩
  | unavailable p m =>
    obtain ⟨s', hs', hf⟩ := SlotState.attemptFailed_ok (show s.stage ∈ _ by simp [hs])
      "Model request failed" s.feedback false
    simp only [hs', Effect.run'_bind, run'_step, run'_announce, Effect.run'_pure] at hrun
    obtain ⟨rfl, rfl⟩ := Prod.mk.inj hrun
    rw [SlotState.errorText, hf.lastError, Option.getD_some]
    exact ⟨.unreachable p m, trivial, .told (.asked hm (.told (.nil _))), .inl ⟨_, rfl, hf⟩⟩
  | text raw =>
    simp only [SlotState.toContractCheck_ok hs, Effect.run'_bind, run'_step] at hrun
    rcases hd : readDraft s.slot raw with e | rj | d
    · simp only [hd, Except.mapError] at hrun
      obtain ⟨rfl, rfl⟩ := Prod.mk.inj hrun
      exact ⟨.unreadable raw e, hd, .told (.asked hm (.nil _)), rfl⟩
    · obtain ⟨s', hs', hf⟩ := SlotState.attemptFailed_ok
        (show ({ s with stage := .contractCheck } : SlotState).stage ∈ _ by simp)
        (rejectionError rj) (some rj.feedback) false
      simp only [hd, Except.mapError, show shortError ("Contract check failed: " ++
        rj.issues.headD rj.reason) = rejectionError rj from rfl, hs', Effect.run'_bind, run'_step,
        run'_announce, Effect.run'_pure] at hrun
      obtain ⟨rfl, rfl⟩ := Prod.mk.inj hrun
      rw [SlotState.errorText, hf.lastError, Option.getD_some]
      exact ⟨.rejected raw rj, hd, .told (.asked hm (.told (.nil _))),
        .inl ⟨_, rfl, hf.of_same rfl rfl rfl⟩⟩
    · simp only [hd, Except.mapError] at hrun
      obtain ⟨a, hreply, hchecked, htrace, hends⟩ :=
        judgeDraft_explained
          (show ({ s with stage := .contractCheck } : SlotState).stage = .contractCheck from rfl)
          hd hrun
      refine ⟨a, hchecked, ?_, hends.of_same rfl rfl rfl⟩
      rw [Attempt.exchanges, hreply]
      exact .told (.asked hm htrace)

/-- The backoff of a retry within the budget is a number, not an overflow. -/
theorem backoffDelay_retry (b : Binary64) {n : Int} (h1 : 1 ≤ n) (h2 : n ≤ 2) :
    ∃ d, backoffDelay b n = .ok d := by
  obtain ⟨f, hf⟩ : ∃ f, Binary64.ofInt? (Nat.pow 2 (n - 1).toNat) = some f := by
    obtain rfl | rfl : n = 1 ∨ n = 2 := by omega
    · exact Option.isSome_iff_exists.1 (by decide)
    · exact Option.isSome_iff_exists.1 (by decide)
  refine ⟨Binary64.minKeepFirst (b.mul f) maxBackoff, ?_⟩
  simp only [backoffDelay, if_pos h1, if_pos (show n ≤ 1100 by omega), hf]
  rfl

/-- **The wait before an attempt** within the budget succeeds, with no exchange or one sleep. -/
theorem retryWait_explained (svc : Services σ) (cfg : RunConfig) {s : SlotState}
    (hk : s.attempt ≤ maxAttempts) (w : σ) :
    ∃ (ws : List Exchange) (w₁ : σ), (retryWait svc cfg s).run' w = (.ok (), w₁) ∧
      svc.Trace w ws w₁ ∧ (ws = [] ∨ ∃ d, ws = [.slept d]) := by
  unfold retryWait
  split
  case isTrue hc =>
    have h1 : 1 < s.attempt := by simpa using (Bool.and_eq_true_iff.1 hc).1
    obtain ⟨d, hd⟩ := backoffDelay_retry cfg.backoff (show (1 : Int) ≤ s.attempt - 1 by omega)
      (by simp only [maxAttempts] at hk; omega)
    exact ⟨[.slept d], _, by simp [Effect.run'_bind, hd], .slept (.nil _), .inr ⟨d, rfl⟩⟩
  case isFalse => exact ⟨[], w, by simp, .nil _, .inl rfl⟩

/-- The events of the attempts `atts` of the slot at `idx`, numbered from `k`, in order. -/
def Attempt.trail (idx : Int) : Nat → List Attempt → List ProgressEvent
  | _, [] => []
  | k, a :: rest => a.events idx k ++ trail idx (k + 1) rest

/-- The exchanges `xs` record the attempts `atts` of the slot at `idx`, the first numbered `k`:
the model's replies, the judge's replies and the events, in order. -/
structure Recorded (idx : Int) (k : Nat) (atts : List Attempt) (xs : List Exchange) : Prop where
  replies : xs.filterMap Exchange.reply? = atts.map Attempt.reply
  verdicts : xs.filterMap Exchange.judgeReply? = atts.filterMap Attempt.judgeReply
  events : xs.filterMap Exchange.event? = Attempt.trail idx k atts

theorem Recorded.cons {idx : Int} {k : Nat} {a : Attempt} {atts : List Attempt}
    {xs ys : List Exchange} (h₁ : Recorded idx k [a] xs) (h₂ : Recorded idx (k + 1) atts ys) :
    Recorded idx k (a :: atts) (xs ++ ys) where
  replies := by simp [List.filterMap_append, h₁.replies, h₂.replies]
  verdicts := by
    rw [List.filterMap_append, h₁.verdicts, h₂.verdicts, List.filterMap_cons, List.filterMap_cons]
    cases a.judgeReply <;> rfl
  events := by simp [List.filterMap_append, h₁.events, h₂.events, Attempt.trail]

/-- **One attempt** from a drafting state within the budget: an optional wait, then the
attempt's exchanges, recorded as one attempt of its kind. -/
theorem attemptOnce_explained {s : SlotState} (hs : s.stage = .drafting)
    (hk : s.attempt ≤ maxAttempts) {w w' : σ} {r : Except Failure SlotState}
    (hrun : (attemptOnce svc cfg spec s).run' w = (r, w')) :
    ∃ (a : Attempt) (xs : List Exchange), a.Checked s.slot ∧ svc.Trace w xs w' ∧
      Recorded s.slot.index s.attempt [a] xs ∧ a.Ends cfg.learningMode s r := by
  obtain ⟨ws, w₁, hw, htw, hws⟩ := retryWait_explained svc cfg hk w
  rw [attemptOnce, Effect.run'_bind, hw] at hrun
  obtain ⟨a, hchecked, hta, hends⟩ := draftAttempt_explained hs hrun
  -- the wait has no reply and tells nothing
  have hsilent : ws.filterMap Exchange.reply? = [] ∧ ws.filterMap Exchange.judgeReply? = [] ∧
      ws.filterMap Exchange.event? = [] := by
    rcases hws with rfl | ⟨d, rfl⟩ <;>
      simp [Exchange.reply?, Exchange.judgeReply?, Exchange.event?, List.filterMap_cons]
  refine ⟨a, ws ++ a.exchanges s.slot.index s.attempt (draftAsk spec s) s.slot.language, hchecked,
    htw.append hta, ⟨?_, ?_, ?_⟩, hends⟩
  · simp [List.filterMap_append, hsilent, Attempt.replies_exchanges]
  · rw [List.filterMap_append, hsilent.2.1, Attempt.verdicts_exchanges, List.filterMap_cons,
      List.filterMap_nil]
    cases a.judgeReply <;> rfl
  · simp [List.filterMap_append, hsilent, Attempt.events_exchanges, Attempt.trail]

/-! ## The attempt loop -/

/-- How the attempts `atts`, the first begun in state `s`, settled the slot: a defect of the last
one stops the run; otherwise the slot is FAILED with the budget spent and the last failure's
error kept, or DONE with the problem the last attempt finished. -/
def Attempt.Settles (mode : String) (s : SlotState) (atts : List Attempt) :
    Except Failure SlotState → Prop
  | .error f => ∃ a, atts.getLast? = some a ∧ a.result mode = .defect f
  | .ok s' => s'.slot = s.slot ∧ s'.attempt + 1 = s.attempt + atts.length ∧
    ((s'.stage = .failed ∧ s'.attempt = maxAttempts ∧ s'.problem = s.problem ∧
        ∃ a e, atts.getLast? = some a ∧ a.result mode = .failed e ∧ s'.lastError = some e) ∨
      (s'.stage = .done ∧ ∃ a p, atts.getLast? = some a ∧ a.result mode = .done p ∧
        s'.problem = some p))

/-- A failed attempt before the attempts `atts` from the next state leaves how they settle as it
was, read from the earlier state. -/
theorem Attempt.Settles.cons {mode : String} {s s₁ : SlotState} {a : Attempt} {e : String}
    {atts : List Attempt} {r : Except Failure SlotState} (h : Attempt.Settles mode s₁ atts r)
    (hne : atts ≠ []) (hff : s.FailedFrom e s₁) (hat : s₁.attempt = s.attempt + 1) :
    Attempt.Settles mode s (a :: atts) r := by
  have hlast : (a :: atts).getLast? = atts.getLast? := by
    obtain ⟨b, rest, rfl⟩ := List.exists_cons_of_ne_nil hne
    exact List.getLast?_cons_cons
  cases r with
  | error f => simpa only [Attempt.Settles, hlast] using h
  | ok s' =>
    obtain ⟨hslot, hatt, hend⟩ := h
    refine ⟨hslot.trans hff.slot, by simp; omega, ?_⟩
    rw [hlast]
    rcases hend with ⟨hst, hmax, hprob, hlastErr⟩ | hdone
    · exact .inl ⟨hst, hmax, hprob.trans hff.problem, hlastErr⟩
    · exact .inr hdone

theorem attempts_of_not_drafting {s : SlotState} (hs : s.stage ≠ .drafting) (fuel : Nat) :
    attempts svc cfg spec fuel s = pure s := by
  cases fuel with
  | zero => rfl
  | succ fuel => simp [attempts, hs]

/-- **The attempt loop**, from a drafting state with as much fuel as budget left: at least one
attempt and at most `fuel`, each but the last spent by a failure, recorded in order. -/
theorem attempts_explained : ∀ (fuel : Nat) {s : SlotState} {w w' : σ}
    {r : Except Failure SlotState}, s.stage = .drafting → s.attempt ≤ maxAttempts →
    s.attempt + fuel = maxAttempts + 1 → (attempts svc cfg spec fuel s).run' w = (r, w') →
    ∃ (atts : List Attempt) (xs : List Exchange), atts ≠ [] ∧ atts.length ≤ fuel ∧
      (∀ a ∈ atts, a.Checked s.slot) ∧
      (∀ a ∈ atts.dropLast, ∃ e, a.result cfg.learningMode = .failed e) ∧
      svc.Trace w xs w' ∧ Recorded s.slot.index s.attempt atts xs ∧
      Attempt.Settles cfg.learningMode s atts r
  | 0, s, _, _, _, _, hk, hf, _ => by simp only [maxAttempts] at hk hf; omega
  | fuel + 1, s, w, w', r, hs, hk, hf, hrun => by
    simp only [attempts, hs, beq_self_eq_true, if_true, Effect.run'_bind] at hrun
    rcases h₁ : (attemptOnce svc cfg spec s).run' w with ⟨r₁, w₁⟩
    obtain ⟨a, xs, hchecked, htrace, hrec, hends⟩ := attemptOnce_explained hs hk h₁
    rw [h₁] at hrun
    cases r₁ with
    | error f =>
      -- a defect stops the loop at once
      obtain ⟨rfl, rfl⟩ := Prod.mk.inj hrun
      exact ⟨[a], xs, by simp, by simp, by simpa using hchecked, by simp, htrace, hrec,
        ⟨a, rfl, hends⟩⟩
    | ok s₁ =>
      dsimp only at hrun
      rcases hends with ⟨e, he, hff⟩ | ⟨p, hp, hdone⟩
      · rcases hff.next with ⟨hlt, hst₁, hat₁⟩ | ⟨hge, hst₁, hat₁⟩
        · -- drafting again: the rest of the loop starts from the next attempt
          obtain ⟨atts, ys, hne, hlen, hcs, hpre, htrace', hrec', hset⟩ :=
            attempts_explained fuel hst₁ (by omega) (by omega) hrun
          rw [hff.slot] at hcs hrec'
          rw [hat₁] at hrec'
          refine ⟨a :: atts, xs ++ ys, by simp, by simp; omega, ?_, ?_, htrace.append htrace',
            hrec.cons hrec', hset.cons hne hff hat₁⟩
          · simpa [hchecked] using hcs
          · rw [List.dropLast_cons_of_ne_nil hne]
            simpa [he] using hpre
        · -- the budget is spent: FAILED
          rw [attempts_of_not_drafting (by simp [hst₁]), Effect.run'_pure] at hrun
          obtain ⟨rfl, rfl⟩ := Prod.mk.inj hrun
          refine ⟨[a], xs, by simp, by simp, by simpa using hchecked, by simp, htrace, hrec,
            hff.slot, by simp [hat₁], .inl ⟨hst₁, ?_, hff.problem, a, e, rfl, he, hff.lastError⟩⟩
          simp only [maxAttempts] at hk hge ⊢
          omega
      · -- the judge passed the draft: DONE
        rw [attempts_of_not_drafting (by simp [hdone.stage]), Effect.run'_pure] at hrun
        obtain ⟨rfl, rfl⟩ := Prod.mk.inj hrun
        exact ⟨[a], xs, by simp, by simp, by simpa using hchecked, by simp, htrace, hrec,
          hdone.slot, by simp [hdone.attempt], .inr ⟨hdone.stage, a, p, rfl, hp, hdone.problem⟩⟩

/-! ## The run of a slot -/

/-- The event a slot's run opens with. -/
def slotOpening (slot : Slot) : ProgressEvent :=
  .slotStarted slot.index slot.difficulty.id slot.topic slot.language.id

/-- **How the run of a slot ended**, from its attempts `atts` and the events it told.  A
defect of the last attempt fails the run after the opening event and the attempts' events.
Otherwise the slot's state comes back at the number of attempts made: FAILED with the whole
budget made, no problem and the last failure's error, closed by `slot_failed`; or DONE with the
problem the last attempt finished, closed by `slot_completed`. -/
def SlotEnded (mode : String) (slot : Slot) (atts : List Attempt) (events : List ProgressEvent) :
    Except Failure SlotState → Prop
  | .error f => (∃ a, atts.getLast? = some a ∧ a.result mode = .defect f) ∧
      events = slotOpening slot :: Attempt.trail slot.index 1 atts
  | .ok s => s.slot = slot ∧ s.attempt = atts.length ∧
      ((s.stage = .failed ∧ atts.length = maxAttempts ∧ s.problem = none ∧
          ∃ a e, atts.getLast? = some a ∧ a.result mode = .failed e ∧ s.lastError = some e ∧
            events = slotOpening slot :: Attempt.trail slot.index 1 atts ++
              [.slotFailed slot.index maxAttempts (shortError e)]) ∨
        (s.stage = .done ∧
          (∃ a p, atts.getLast? = some a ∧ a.result mode = .done p ∧ s.problem = some p) ∧
          events = slotOpening slot :: Attempt.trail slot.index 1 atts ++
            [.slotCompleted slot.index atts.length]))

/-- **The run of `slot`** in a learning mode made the attempts `atts`, had the exchanges `xs`
with its services and ended with `r`. -/
structure SlotRun (mode : String) (slot : Slot) (atts : List Attempt) (xs : List Exchange)
    (r : Except Failure SlotState) : Prop where
  attempted : atts ≠ []
  within_budget : atts.length ≤ maxAttempts
  /-- Each attempt's kind is what the contract check made of the model's text. -/
  checked : ∀ a ∈ atts, a.Checked slot
  /-- Every attempt but the last was spent by a failure. -/
  spent : ∀ a ∈ atts.dropLast, ∃ e, a.result mode = .failed e
  /-- The model was asked once per attempt, the judge once per draft that kept the contract. -/
  replies : xs.filterMap Exchange.reply? = atts.map Attempt.reply
  verdicts : xs.filterMap Exchange.judgeReply? = atts.filterMap Attempt.judgeReply
  ended : SlotEnded mode slot atts (xs.filterMap Exchange.event?) r

/-- **The run of a slot, explained**: whatever its services answer, the run of a slot is the
exchanges of its attempts, framed by its opening and closing events, and ends as `SlotEnded`
says. -/
theorem runSlot_explained (svc : Services σ) (cfg : RunConfig) (spec : ActivitySpec)
    (slot : Slot) (w : σ) :
    ∃ (atts : List Attempt) (xs : List Exchange),
      svc.Trace w xs ((runSlot svc cfg spec slot).run' w).2 ∧
      SlotRun cfg.learningMode slot atts xs ((runSlot svc cfg spec slot).run' w).1 := by
  rcases hrun : (attempts svc cfg spec maxAttempts ⟨slot, .drafting, 1, none, none, false, none, none⟩).run'
    (svc.publish (slotOpening slot) w) with ⟨r, w₁⟩
  obtain ⟨atts, xs, hne, hlen, hcs, hpre, htrace, hrec, hset⟩ :=
    attempts_explained maxAttempts rfl (by simp [maxAttempts]) rfl hrun
  have hopen : (.told (slotOpening slot) :: xs).filterMap Exchange.event? =
      slotOpening slot :: Attempt.trail slot.index 1 atts := by
    simp [Exchange.event?, hrec.events]
  simp only [runSlot, Effect.run'_bind, run'_announce, run'_step, SlotState.startDrafting_queued]
  rw [show ProgressEvent.slotStarted slot.index slot.difficulty.id slot.topic slot.language.id =
    slotOpening slot from rfl, hrun]
  cases r with
  | error f =>
    exact ⟨atts, .told (slotOpening slot) :: xs, .told htrace,
      ⟨hne, hlen, hcs, hpre, by simp [Exchange.reply?, List.filterMap_cons, hrec.replies],
        by simp [Exchange.judgeReply?, List.filterMap_cons, hrec.verdicts], hset, hopen⟩⟩
  | ok s =>
    obtain ⟨hslot, hatt, hend⟩ := hset
    simp only at hslot hatt
    rcases hend with ⟨hst, hmax, hprob, a, e, hlast, he, herr⟩ | ⟨hst, a, p, hlast, hp, hprob⟩
    · -- FAILED: the closing event names the last failure's error
      have hclose : ProgressEvent.slotFailed slot.index s.attempt (shortError s.errorText) =
          .slotFailed slot.index maxAttempts (shortError e) := by
        rw [hmax, SlotState.errorText, herr, Option.getD_some]
      simp only [hst, beq_iff_eq, reduceCtorEq, if_false, Effect.run'_bind, run'_announce,
        Effect.run'_pure, hclose]
      refine ⟨atts, .told (slotOpening slot) :: xs ++
        [.told (.slotFailed slot.index maxAttempts (shortError e))], ?_, ⟨hne, hlen, hcs, hpre,
        by simp [Exchange.reply?, List.filterMap_append, List.filterMap_cons, hrec.replies],
        by simp [Exchange.judgeReply?, List.filterMap_append, List.filterMap_cons, hrec.verdicts],
        ?_⟩⟩
      · exact (Services.Trace.told htrace).append (.told (.nil _))
      · refine ⟨hslot, by omega, .inl ⟨hst, by omega, hprob, a, e, hlast, he, herr, ?_⟩⟩
        simp [Exchange.event?, List.filterMap_append, hrec.events]
    · -- DONE: the closing event counts the attempts
      have hclose : ProgressEvent.slotCompleted slot.index s.attempt =
          .slotCompleted slot.index atts.length := by
        rw [show s.attempt = atts.length by omega]
      simp only [hst, beq_self_eq_true, if_true, Effect.run'_bind, run'_announce,
        Effect.run'_pure, hclose]
      refine ⟨atts, .told (slotOpening slot) :: xs ++
        [.told (.slotCompleted slot.index atts.length)], ?_, ⟨hne, hlen, hcs, hpre,
        by simp [Exchange.reply?, List.filterMap_append, List.filterMap_cons, hrec.replies],
        by simp [Exchange.judgeReply?, List.filterMap_append, List.filterMap_cons, hrec.verdicts],
        ?_⟩⟩
      · exact (Services.Trace.told htrace).append (.told (.nil _))
      · refine ⟨hslot, by omega, .inr ⟨hst, ⟨a, p, hlast, hp, hprob⟩, ?_⟩⟩
        simp [Exchange.event?, List.filterMap_append, hrec.events]

/-! ## A slot whose first draft passes

The run of a slot, read forwards: services that, in the worlds `ready` picks out, answer the
generator with the text `raw` and the judge with the verdict `v`, and leave such a world, take a
slot whose draft in `raw` keeps its contract and passes to DONE at its first attempt. -/

/-- Services that, in every world where `ready` holds, answer each request to the generator
with the text `raw` and each judging with the verdict `v`, and leave a world where `ready` still
holds. -/
structure Services.Answers (svc : Services σ) (ready : σ → Prop) (raw : String) (v : Verdict) :
    Prop where
  complete : ∀ a w, ready w → (svc.complete a w).1 = .text raw
  complete_ready : ∀ a w, ready w → ready (svc.complete a w).2
  judge : ∀ lang files suite w, ready w → (svc.judge lang files suite w).1 = .verdict v
  judge_ready : ∀ lang files suite w, ready w → ready (svc.judge lang files suite w).2
  sleep : ∀ d w, ready w → ready (svc.sleep d w)
  publish : ∀ e w, ready w → ready (svc.publish e w)

section FirstDraft

variable (cfg spec) {ready : σ → Prop} {raw : String} {v : Verdict}

/-- An attempt whose draft reads, passes the judge and is prepared for the mode makes the slot
DONE with that problem. -/
theorem draftAttempt_passes (hsvc : svc.Answers ready raw v) (hv : v.success = true)
    (ht : v.timedOut = false) {s : SlotState} (hs : s.stage = .drafting) {d : ProblemDraft}
    (hd : readDraft s.slot raw = .ok (.ok d)) {p : Problem}
    (hp : d.finalize cfg.learningMode = .ok p) {w : σ} (hw : ready w) :
    ∃ w', ready w' ∧ (draftAttempt svc cfg spec s).run' w =
      (.ok { s with stage := .done, draft := none, problem := some p, lastError := none }, w') := by
  -- the states the attempt goes through, each step allowed from the one before
  have hcheck := SlotState.toSandboxCheck_ok
    (show ({ s with stage := .contractCheck } : SlotState).stage = .contractCheck from rfl) d
  have hw₁ := hsvc.publish (.attemptStarted s.slot.index s.attempt) _ hw
  unfold draftAttempt judgeDraft
  -- the model is asked after one event, the judge after two more
  simp only [Effect.run'_bind, run'_announce, run'_ask, hsvc.complete _ _ hw₁, run'_step,
    SlotState.toContractCheck_ok hs, hd, Except.mapError, hcheck,
    hsvc.judge _ _ _ _ (hsvc.publish _ _ (hsvc.publish _ _ (hsvc.complete_ready _ _ hw₁))), hv,
    ht, hp]
  exact ⟨_, hsvc.judge_ready _ _ _ _ (hsvc.publish _ _ (hsvc.publish _ _
    (hsvc.complete_ready _ _ hw₁))), rfl⟩

/-- A first attempt waits for nothing. -/
theorem retryWait_first {s : SlotState} (hs : s.attempt = 1) (w : σ) :
    (retryWait svc cfg s).run' w = (.ok (), w) := by
  simp [retryWait, hs]

/-- **A slot whose first draft passes** is DONE after one attempt, with that draft's problem. -/
theorem runSlot_passes (hsvc : svc.Answers ready raw v) (hv : v.success = true)
    (ht : v.timedOut = false) {slot : Slot} {d : ProblemDraft}
    (hd : readDraft slot raw = .ok (.ok d)) {p : Problem}
    (hp : d.finalize cfg.learningMode = .ok p) {w : σ} (hw : ready w) :
    ∃ w', ready w' ∧ (runSlot svc cfg spec slot).run' w =
      (.ok { SlotState.queued slot with stage := .done, attempt := 1, problem := some p }, w') := by
  let s : SlotState := ⟨slot, .drafting, 1, none, none, false, none, none⟩
  let s' : SlotState := { s with stage := .done, draft := none, problem := some p, lastError := none }
  let w₀ := svc.publish (.slotStarted slot.index slot.difficulty.id slot.topic slot.language.id) w
  obtain ⟨w₁, hw₁, h₁⟩ := draftAttempt_passes cfg spec hsvc hv ht (s := s) rfl hd hp
    (hsvc.publish _ _ hw)
  -- the one attempt, then the loop stops on a state no longer drafting
  have hone : (attemptOnce svc cfg spec s).run' w₀ = (.ok s', w₁) := by
    rw [attemptOnce, Effect.run'_bind_of_ok (retryWait_first cfg rfl w₀), h₁]
  have hloop : (attempts svc cfg spec maxAttempts s).run' w₀ = (.ok s', w₁) := by
    rw [show maxAttempts = 2 + 1 from rfl, attempts,
      if_pos (show (s.stage == SlotStage.drafting) = true from rfl), Effect.run'_bind_of_ok hone,
      attempts_of_not_drafting (by simp)]
    rfl
  refine ⟨svc.publish (.slotCompleted slot.index 1) w₁, hsvc.publish _ _ hw₁, ?_⟩
  rw [runSlot, Effect.run'_bind_of_ok (run'_announce svc _ w),
    Effect.run'_bind_of_ok (show (step (SlotState.queued slot).startDrafting : Gen σ SlotState).run' w₀
      = (.ok s, w₀) from rfl), Effect.run'_bind_of_ok hloop]
  rfl

end FirstDraft

end Generation

end PracticeForge
