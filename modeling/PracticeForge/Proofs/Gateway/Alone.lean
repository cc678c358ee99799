import PracticeForge.Proofs.Gateway.Tasks

/-!
# Proofs/Gateway/Alone — one call at a time is the gateway itself

The loop of `Gateway/Tasks` splits a completion and a closing of the gateway at their await
points.  Run with no other move in between, the pieces put back together are the gateway's own
`CompletionGateway.complete` and `CompletionGateway.close`, on SDKs that number the clients they
make in order and count how often each is closed (`countingSdk`): the same result, the same
kept clients, the same closings (`Loop.complete_alone`, `Loop.close_alone`), from any state of
the loop and whatever the other calls are doing.

The gateway's side is evaluated once per function (`client_run'`, `call_run'`,
`complete_run'`, `close_run'`), the loop's once per move (`run_start_ready` and the others).
-/

namespace PracticeForge

namespace Gateway

/-- SDKs that number the clients they make in order, count how many times each was closed, and
answer every call with `response`. -/
def countingSdk (response : Except Failure Json) : Sdk (List Nat) where
  makeClient _ _ w := (w.length, w ++ [0])
  closeClient _ c w := w.modify c (· + 1)
  send _ w := (response, w)

end Gateway

namespace CompletionGateway

variable {response : Except Failure Json}

/-- The client a target gets from counting SDKs: the kept one when it was made for the target,
else the next number, kept in place of the provider's client, whose closing is counted. -/
theorem client_run' (t : Target) (args : List (String × Json)) (g : CompletionGateway)
    (w : List Nat) :
    (client (Gateway.countingSdk response) t args).run' (g, w) =
      match g.reusable t with
      | some c => (.ok c, (g, w))
      | none => (.ok w.length, (g.keep t w.length, match g.kept t.provider with
        | some (_, old) => (w ++ [0]).modify old (· + 1)
        | none => w ++ [0])) := by
  unfold client
  simp only [Effect.run'_bind, Effect.run'_get]
  rcases g.reusable t with _ | c
  · rcases g.kept t.provider with _ | ⟨i, old⟩ <;> rfl
  · rfl

/-- A provider call on counting SDKs: the response read, from the state the client left. -/
theorem call_run' (t : Target) (ask : Gateway.Ask) (g : CompletionGateway) (w : List Nat) :
    (call (Gateway.countingSdk response) t ask).run' (g, w) =
      (response.bind (Gateway.responseText t.provider),
        if t.provider.keepsClients then
          ((client (Gateway.countingSdk response) t (Gateway.request t ask).client).run' (g, w)).2
        else (g, w)) := by
  unfold call
  split
  · next hkeeps =>
    -- the client is always given; the request then goes out from the state it left
    obtain ⟨c, hc⟩ : ∃ c, (client (Gateway.countingSdk response) t (Gateway.request t ask).client).run'
        (g, w) = (.ok c, ((client (Gateway.countingSdk response) t
          (Gateway.request t ask).client).run' (g, w)).2) := by
      rw [client_run']
      split <;> exact ⟨_, rfl⟩
    rw [Effect.run'_bind, hc]
    cases response <;> rfl
  · cases response <;> rfl

/-- A completion on counting SDKs: the call's answer settled, from the state the call left. -/
theorem complete_run' (ask : Gateway.Ask) (g : CompletionGateway) (w : List Nat) :
    (complete (Gateway.countingSdk response) ask).run' (g, w) =
      match resolveTarget g.config g.settings with
      | .error e => (.error e, (g, w))
      | .ok t => (Gateway.Loop.settle t response,
          ((call (Gateway.countingSdk response) t ask).run' (g, w)).2) := by
  unfold complete
  rw [Effect.run'_bind, resolve_run']
  rcases resolveTarget g.config g.settings with e | t
  · rfl
  · dsimp only
    rw [Gateway.completeVia_run', call_run', Gateway.Loop.settle, Gateway.completeVia_run',
      Effect.run'_ofExcept]
    cases response.bind (Gateway.responseText t.provider) <;> rfl

/-- Closing clients one after another on counting SDKs counts one closing for each. -/
theorem forIn_close_run' (g : CompletionGateway) :
    ∀ (cs : List Entry) (w : List Nat),
      (forIn cs PUnit.unit fun (x : Entry) (_ : PUnit) => do
          onSdk fun w => ((), (Gateway.countingSdk response).closeClient x.1 x.2.2 w)
          pure (ForInStep.yield PUnit.unit) : Effect (CompletionGateway × List Nat) PUnit).run'
        (g, w) = (.ok PUnit.unit, (g, cs.foldl (fun w e => w.modify e.2.2 (· + 1)) w))
  | [], _ => rfl
  | e :: cs, w => by
    rw [List.forIn_cons, Effect.run'_bind]
    exact forIn_close_run' g cs _

/-- Closing the gateway on counting SDKs: the cache is emptied and each kept client is closed
once, in the cache's order. -/
theorem close_run' (g : CompletionGateway) (w : List Nat) :
    (close (Gateway.countingSdk response)).run' (g, w) =
      (.ok (), ({ g with clients := [] }, g.clients.foldl (fun w e => w.modify e.2.2 (· + 1)) w)) := by
  unfold close
  simp only [Effect.run'_bind, Effect.run'_get, Effect.run'_modify]
  rw [forIn_close_run']
  rfl

end CompletionGateway

namespace Gateway

namespace Loop

variable {l : Loop} {k : Nat}

/-- How many times each client made was closed, in the order they were made. -/
def closings (l : Loop) : List Nat := l.made.map (·.closes)

@[simp] theorem length_closings (l : Loop) : l.closings.length = l.made.length :=
  List.length_map ..

theorem closings_setCall (l : Loop) (k : Nat) (x : Call) : (l.setCall k x).closings = l.closings :=
  rfl

theorem closings_keepNew (l : Loop) (t : Target) : (l.keepNew t).closings = l.closings ++ [0] := by
  simp [closings, keepNew]

theorem closings_closeClient (l : Loop) (c : Nat) :
    (l.closeClient c).closings = l.closings.modify c (· + 1) := by
  apply List.ext_getElem?
  intro j
  simp only [closings, closeClient, List.getElem?_map, List.getElem?_modify]
  cases l.made[j]? <;> by_cases h : c = j <;> simp [h]

theorem setCall_setCall (l : Loop) (k : Nat) (x y : Call) :
    (l.setCall k x).setCall k y = l.setCall k y := by
  simp [setCall, List.set_set]

theorem getElem?_setCall {y : Call} (hk : l.calls[k]? = some y) (x : Call) :
    (l.setCall k x).calls[k]? = some x :=
  List.getElem?_set_self (List.getElem?_eq_some_iff.1 hk).1

/-! ## The moves of one call -/

section Moves

variable (ms : List LoopMove)

theorem run_start_ready {ask : Ask} (hk : l.calls[k]? = some (.ready ask)) :
    l.run (.start k :: ms) = (l.begin k ask).run ms := by
  simp [run, move, hk]

theorem run_start_closeReady (hk : l.calls[k]? = some .closeReady) :
    l.run (.start k :: ms) = (l.takeAll k).run ms := by
  simp [run, move, hk]

theorem run_resume_replacing {t : Target} {ask : Ask} {c : Nat}
    (hk : l.calls[k]? = some (.replacing t ask c)) :
    l.run (.resume k :: ms) = (l.setCall k (.asking t ask (some c))).run ms := by
  simp [run, move, hk]

theorem run_resume_closing {c : Nat} {rest : List Nat}
    (hk : l.calls[k]? = some (.closing (c :: rest))) :
    l.run (.resume k :: ms) = ((l.closeClient c).setCall k (.closing rest)).run ms := by
  simp [run, move, hk]

theorem run_resume_closed (hk : l.calls[k]? = some (.closing [])) :
    l.run (.resume k :: ms) = (l.setCall k .closed).run ms := by
  simp [run, move, hk]

theorem run_answer {t : Target} {ask : Ask} {c : Option Nat}
    (hk : l.calls[k]? = some (.asking t ask c)) (response : Except Failure Json) :
    l.run (.answer k response :: ms) = (l.setCall k (.answered (settle t response))).run ms := by
  simp [run, move, hk]

end Moves

/-- A completion whose start leaves it asking, answered next. -/
theorem run_start_answer {ask : Ask} (hk : l.calls[k]? = some (.ready ask)) {l₁ : Loop}
    {t : Target} {c : Option Nat} (hbegin : l.begin k ask = l₁.setCall k (.asking t ask c))
    (hcalls : l₁.calls = l.calls) (response : Except Failure Json) :
    l.run [.start k, .answer k response] = some (l₁.setCall k (.answered (settle t response))) := by
  rw [run_start_ready _ hk, hbegin, run_answer _ (getElem?_setCall (l := l₁) (hcalls ▸ hk) _),
    setCall_setCall]
  rfl

/-! ## A completion alone -/

/-- **A completion run alone is the gateway's completion.**  A completion not yet started whose
moves are made with no other move in between (its start, the wait for the closing of a replaced
client when there is one, and its answer) ends as `CompletionGateway.complete` ends on SDKs that
number their clients and answer with the same response: with its result, the same kept clients
and the same closings. -/
theorem complete_alone {ask : Ask} (hk : l.calls[k]? = some (.ready ask))
    (response : Except Failure Json) :
    ∃ ms l', ms.Sublist [.start k, .resume k, .answer k response] ∧ l.run ms = some l' ∧
      l'.calls = l.calls.set k (.answered
        ((CompletionGateway.complete (countingSdk response) ask).run' (l.gateway, l.closings)).1) ∧
      (l'.gateway, l'.closings) =
        ((CompletionGateway.complete (countingSdk response) ask).run' (l.gateway, l.closings)).2 := by
  rw [CompletionGateway.complete_run']
  rcases ht : resolveTarget l.gateway.config l.gateway.settings with e | t
  · -- no provider could be chosen: the call ends at its start
    refine ⟨[.start k], l.setCall k (.answered (.error e)), by simp, ?_, rfl, rfl⟩
    rw [run_start_ready _ hk]
    simp [begin, ht, run]
  · dsimp only
    rw [CompletionGateway.call_run']
    by_cases hkeeps : t.provider.keepsClients = true
    · rw [if_pos hkeeps, CompletionGateway.client_run']
      rcases hc : l.gateway.reusable t with _ | c
      · rcases hold : l.gateway.kept t.provider with _ | ⟨i, old⟩
        · -- the provider's first client
          have hbegin : l.begin k ask = (l.keepNew t).setCall k (.asking t ask (some l.made.length)) := by
            simp [begin, ht, hkeeps, hc, hold]
          refine ⟨[.start k, .answer k response], _, by simp,
            run_start_answer hk hbegin rfl response, rfl, ?_⟩
          rw [Prod.mk.injEq, closings_setCall, closings_keepNew, length_closings]
          exact ⟨rfl, rfl⟩
        · -- a client made for another key or address is replaced, and waited for
          have hbegin : l.begin k ask =
              ((l.keepNew t).closeClient old).setCall k (.replacing t ask l.made.length) := by
            simp [begin, ht, hkeeps, hc, hold]
          refine ⟨[.start k, .resume k, .answer k response],
            ((l.keepNew t).closeClient old).setCall k (.answered (settle t response)),
            List.Sublist.refl _, ?_, rfl, ?_⟩
          · rw [run_start_ready _ hk, hbegin,
              run_resume_replacing _ (getElem?_setCall (l := (l.keepNew t).closeClient old) hk _),
              setCall_setCall,
              run_answer _ (getElem?_setCall (l := (l.keepNew t).closeClient old) hk _),
              setCall_setCall]
            rfl
          · rw [Prod.mk.injEq, closings_setCall, closings_closeClient, closings_keepNew,
              length_closings]
            exact ⟨rfl, rfl⟩
      · -- the kept client was made for the target
        have hbegin : l.begin k ask = l.setCall k (.asking t ask (some c)) := by
          simp [begin, ht, hkeeps, hc]
        exact ⟨[.start k, .answer k response], _, by simp, run_start_answer hk hbegin rfl response,
          rfl, rfl⟩
    · -- the provider is asked without a kept client
      rw [if_neg hkeeps]
      have hbegin : l.begin k ask = l.setCall k (.asking t ask none) := by
        simp [begin, ht, hkeeps]
      exact ⟨[.start k, .answer k response], _, by simp, run_start_answer hk hbegin rfl response,
        rfl, rfl⟩

/-! ## A closing of the gateway alone -/

/-- A closing of the gateway that has the clients `rest` still to close, resumed once for each
and once more, closes each of them once and ends. -/
theorem run_resume_closing_all :
    ∀ (rest : List Nat) (l : Loop), l.calls[k]? = some (.closing rest) →
      ∃ l', l.run (List.replicate (rest.length + 1) (.resume k)) = some l' ∧
        l'.calls = l.calls.set k .closed ∧ l'.gateway = l.gateway ∧
        l'.closings = rest.foldl (fun w c => w.modify c (· + 1)) l.closings
  | [], l, hk => ⟨l.setCall k .closed, by
      show l.run [.resume k] = _
      rw [run_resume_closed _ hk]
      rfl, rfl, rfl, rfl⟩
  | c :: rest, l, hk => by
    -- one client is closed, and the closing goes on with the others
    have hnext := getElem?_setCall (l := l.closeClient c) hk (.closing rest)
    obtain ⟨l', hrun, hcalls, hgateway, hclosings⟩ := run_resume_closing_all rest _ hnext
    refine ⟨l', ?_, ?_, hgateway, ?_⟩
    · rw [List.length_cons, List.replicate_succ, run_resume_closing _ hk]
      exact hrun
    · rw [hcalls]
      exact List.set_set ..
    · rw [hclosings, closings_setCall, closings_closeClient, List.foldl_cons]

/-- **A closing of the gateway run alone is the gateway's closing.**  A closing not yet started,
resumed after its start once for each kept client, ends as `CompletionGateway.close` ends on
counting SDKs: with no kept client, and each client that was kept closed once more. -/
theorem close_alone (hk : l.calls[k]? = some .closeReady) (response : Except Failure Json) :
    ∃ l', l.run (.start k :: List.replicate l.gateway.clients.length (.resume k)) = some l' ∧
      l'.calls = l.calls.set k .closed ∧
      (CompletionGateway.close (countingSdk response)).run' (l.gateway, l.closings) =
        (.ok (), (l'.gateway, l'.closings)) := by
  -- the kept clients, as the closing takes them
  have hfold : l.gateway.clients.foldl (fun w e => w.modify e.2.2 (· + 1)) l.closings =
      (l.gateway.clients.map (·.2.2)).foldl (fun w c => w.modify c (· + 1)) l.closings := by
    rw [List.foldl_map]
  rw [CompletionGateway.close_run', run_start_closeReady _ hk, ← List.length_map (·.2.2), hfold]
  unfold takeAll
  split
  · next hnone =>
    refine ⟨l.clearKept.setCall k .closed, by rw [hnone]; rfl, rfl, ?_⟩
    rw [hnone, List.foldl_nil]
    rfl
  · next c rest hcs =>
    have hnext := getElem?_setCall (l := l.clearKept.closeClient c) hk (.closing rest)
    obtain ⟨l', hrun, hcalls, hgateway, hclosings⟩ := run_resume_closing_all rest _ hnext
    refine ⟨l', ?_, ?_, ?_⟩
    · rw [hcs, List.length_cons]
      exact hrun
    · rw [hcalls]
      exact List.set_set ..
    · rw [hcs, hgateway, hclosings, closings_setCall, closings_closeClient, List.foldl_cons]
      rfl

end Loop

end Gateway

end PracticeForge
