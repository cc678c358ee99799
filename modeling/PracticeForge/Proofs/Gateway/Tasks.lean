import PracticeForge.Proofs.Gateway.Complete
import PracticeForge.Gateway.Tasks

/-!
# Proofs/Gateway/Tasks — kept clients when calls overlap

A completion for OpenAI or Anthropic takes its client from the gateway's cache, or makes a new
one in place of the cached one when the key or address changed, and only then sends its
request; a closing of the gateway empties the cache and closes what it took, one client after
another.  With calls side by side, the loop's moves interleave these steps.

The bookkeeping counts, for every client, how many times it is *held*, kept by the cache or
taken by a closing of the gateway that has not closed it yet (`Loop.held`), and how many times
its closing was started (`Loop.closesOf`).  The invariant `Loop.Inv` says that the two add up to
one for every client made, that the cache keeps one client per provider, made for the key and
address it is kept under, and that every request goes through a client made for its own call.
Each move keeps it (`Loop.Inv.move`), hence every schedule (`Loop.Inv.run`); and a move that
starts a closing takes that client out of use (`Loop.Inv.closesOf_move`).

Main statements:
* `client_cache_discipline` — what every schedule keeps: requests on their own calls' clients,
  one client per provider, each client closed at most once and exactly when nothing holds it,
  and closed only by the move that replaces it in the cache or by a closing of the gateway.
* `request_outlives_its_client` — nothing keeps a request's client open until the request is
  back: a second completion, after a change of key, replaces it under the first one's request.
-/

namespace PracticeForge

/-! ## The cache of kept clients -/

namespace CompletionGateway

/-- An entry of the cache: a provider, the key and address its client was made for, and the
client. -/
abbrev Entry := Provider × (Option String × Option String) × Nat

/-- The kept clients, in the cache's order. -/
def keptIds (g : CompletionGateway) : List Nat := g.clients.map (·.2.2)

variable {g : CompletionGateway} {t : Target} {p : Provider} {i : Option String × Option String}
  {c old : Nat}

theorem mem_of_kept (h : g.kept p = some (i, c)) : (p, i, c) ∈ g.clients := by
  simp only [kept, Option.map_eq_some_iff] at h
  obtain ⟨e, he, hei⟩ := h
  have hp : e.1 = p := by simpa using List.find?_some he
  have hmem := List.mem_of_find?_eq_some he
  obtain ⟨e1, e2⟩ := e
  simp only at hp hei
  subst hp hei
  exact hmem

/-- The client kept for a provider is among the kept clients. -/
theorem mem_keptIds_of_kept (h : g.kept p = some (i, c)) : c ∈ g.keptIds :=
  List.mem_map.2 ⟨_, mem_of_kept h, rfl⟩

theorem kept_eq_none (h : g.kept p = none) : ∀ e ∈ g.clients, e.1 ≠ p := by
  simp only [kept, Option.map_eq_none_iff, List.find?_eq_none, beq_iff_eq] at h
  exact h

/-- A client the target can use is the one kept for its provider, made for its key and
address. -/
theorem kept_of_reusable (h : g.reusable t = some c) :
    g.kept t.provider = some ((t.apiKey, t.baseUrl), c) := by
  unfold reusable at h
  split at h
  · next i c' hk =>
    split at h
    · next hi =>
      cases h
      rw [hk, show i = (t.apiKey, t.baseUrl) from eq_of_beq hi]
    · cases h
  · cases h

/-- Replacing a provider's entry keeps the providers of the cache as they were. -/
theorem map_fst_replace (l : List Entry) (entry : Entry) (hp : entry.1 = p) :
    (l.map fun e => if e.1 == p then entry else e).map (·.1) = l.map (·.1) := by
  rw [List.map_map]
  refine List.map_congr_left fun e _ => ?_
  by_cases he : e.1 = p <;> simp [he, hp]

/-- Keeping a client keeps one entry per provider. -/
theorem keep_nodup (hnd : (g.clients.map (·.1)).Nodup) (c : Nat) :
    ((g.keep t c).clients.map (·.1)).Nodup := by
  unfold keep
  dsimp only
  split
  · rwa [map_fst_replace (p := t.provider) g.clients _ rfl]
  · next hnone =>
    have hfree := kept_eq_none (Option.not_isSome_iff_eq_none.1 hnone)
    rw [List.map_append, List.nodup_append]
    refine ⟨hnd, List.nodup_singleton _, ?_⟩
    intro a ha b hb
    simp only [List.map_cons, List.map_nil, List.mem_singleton] at hb
    obtain ⟨e, he, rfl⟩ := List.mem_map.1 ha
    subst hb
    exact hfree e he

/-- The entries after keeping a client: the new one, and those of the other providers. -/
theorem mem_keep {e : Entry} (c : Nat) :
    e ∈ (g.keep t c).clients →
      e = (t.provider, (t.apiKey, t.baseUrl), c) ∨ (e ∈ g.clients ∧ e.1 ≠ t.provider) := by
  unfold keep
  dsimp only
  split
  · simp only [List.mem_map]
    rintro ⟨e', he', rfl⟩
    by_cases hp : e'.1 = t.provider
    · simp [hp]
    · simp [hp, he']
  · next hnone =>
    have hfree := kept_eq_none (Option.not_isSome_iff_eq_none.1 hnone)
    simp only [List.mem_append, List.mem_singleton]
    rintro (he | rfl)
    · exact .inr ⟨he, hfree e he⟩
    · exact .inl rfl

/-- Replacing the entry of the provider whose client is `old` by one for `c` takes one `old`
away and puts one `c` in. -/
theorem count_replace (x : Nat) (entry : Entry) (hp : entry.1 = p) :
    ∀ (l : List Entry), (l.map (·.1)).Nodup → (p, i, old) ∈ l →
      ((l.map fun e => if e.1 == p then entry else e).map (·.2.2)).count x +
          (if old = x then 1 else 0) =
        (l.map (·.2.2)).count x + (if entry.2.2 = x then 1 else 0)
  | [], _, hmem => absurd hmem List.not_mem_nil
  | e :: l, hnd, hmem => by
    obtain ⟨hfree, hnd⟩ := List.nodup_cons.1 hnd
    by_cases he : e.1 = p
    · -- the entry replaced is the first one; the rest has no entry of the provider
      have hrest : ∀ e' ∈ l, e'.1 ≠ p := fun e' he' hp' =>
        hfree (List.mem_map.2 ⟨e', he', hp'.trans he.symm⟩)
      have hfirst : e = (p, i, old) := by
        rcases List.mem_cons.1 hmem with h | h
        · exact h.symm
        · exact absurd rfl (hrest _ h)
      have hsame : (l.map fun e => if e.1 == p then entry else e) = l :=
        calc (l.map fun e => if e.1 == p then entry else e) = l.map id :=
              List.map_congr_left fun e' he' => by simp [hrest e' he']
          _ = l := List.map_id l
      subst hfirst
      rw [List.map_cons, hsame]
      simp only [beq_self_eq_true, if_true, List.map_cons, List.count_cons, beq_iff_eq]
      omega
    · have hmem' : (p, i, old) ∈ l := by
        rcases List.mem_cons.1 hmem with h | h
        · exact absurd (by rw [← h]) he
        · exact h
      have ih := count_replace x entry hp l hnd hmem'
      simp only [List.map_cons, he, beq_iff_eq, if_false, List.count_cons] at ih ⊢
      omega

/-- The count of a client among the kept ones after keeping `c` for a target: `c` comes in, and
the client kept before for the target's provider, if any, goes out. -/
theorem count_keep (hnd : (g.clients.map (·.1)).Nodup) (x : Nat) :
    (g.keep t c).keptIds.count x + (match g.kept t.provider with
      | some (_, old) => if old = x then 1 else 0
      | none => 0) = g.keptIds.count x + (if c = x then 1 else 0) := by
  unfold keep keptIds
  dsimp only
  rcases hk : g.kept t.provider with _ | ⟨i, old⟩
  · simp [List.count_append, List.count_cons]
  · simp only [Option.isSome_some, if_true]
    exact count_replace (p := t.provider) x (t.provider, (t.apiKey, t.baseUrl), c) rfl g.clients hnd
      (mem_of_kept hk)

/-- A change of the run-time choice keeps the clients. -/
theorem clients_reconfigure {σ : Type} (changes : List (String × Json)) (now : String)
    (g : CompletionGateway) (w : σ) :
    ((CompletionGateway.reconfigure (σ := σ) changes now).run' (g, w)).2.1.clients = g.clients := by
  unfold CompletionGateway.reconfigure
  simp only [Effect.run'_bind, Effect.run'_get, Effect.run'_ofExcept]
  cases g.config.reconfigure changes now <;> rfl

end CompletionGateway

/-! ## What the loop keeps track of -/

theorem sum_map_set {α : Type} (f : α → Nat) {l : List α} {k : Nat} {y : α} (h : l[k]? = some y)
    (x : α) : ((l.set k x).map f).sum + f y = (l.map f).sum + f x := by
  induction l generalizing k with
  | nil => simp at h
  | cons a l ih =>
    cases k with
    | zero =>
      simp only [List.getElem?_cons_zero, Option.some.injEq] at h
      subst h
      simp only [List.set_cons_zero, List.map_cons, List.sum_cons]
      omega
    | succ k =>
      simp only [List.getElem?_cons_succ] at h
      have := ih h
      simp only [List.set_cons_succ, List.map_cons, List.sum_cons]
      omega

namespace Gateway

/-- The clients a call has taken to close and not closed yet: those of a closing of the
gateway. -/
def Call.toClose : Call → List Nat
  | .closing rest => rest
  | _ => []

/-- The client `c` was made for the provider `p`, with the key and address `i`. -/
def MadeFor (made : List Made) (c : Nat) (p : Provider) (i : Option String × Option String) :
    Prop :=
  ∃ m, made[c]? = some m ∧ m.provider = p ∧ m.identity = i

/-- A call's request goes through a client exactly when its provider keeps clients, and that
client was made for the call's provider, key and address. -/
def Call.OnOwnClient (made : List Made) : Call → Prop
  | .replacing t _ c => MadeFor made c t.provider (t.apiKey, t.baseUrl)
  | .asking t _ (some c) => MadeFor made c t.provider (t.apiKey, t.baseUrl)
  | .asking t _ none => t.provider.keepsClients = false
  | _ => True

theorem MadeFor.append {made : List Made} {c : Nat} {p : Provider}
    {i : Option String × Option String} (h : MadeFor made c p i) (more : List Made) :
    MadeFor (made ++ more) c p i := by
  obtain ⟨m, hm, hp, hi⟩ := h
  exact ⟨m, by rw [List.getElem?_append_left (List.getElem?_eq_some_iff.1 hm).1, hm], hp, hi⟩

/-- Starting to close a client changes no client's provider, key or address. -/
theorem MadeFor.closeClient {made : List Made} {c : Nat} {p : Provider}
    {i : Option String × Option String} (h : MadeFor made c p i) (d : Nat) :
    MadeFor (made.modify d fun m => { m with closes := m.closes + 1 }) c p i := by
  obtain ⟨m, hm, hp, hi⟩ := h
  refine ⟨if d = c then { m with closes := m.closes + 1 } else m, ?_, ?_, ?_⟩
  · simp [List.getElem?_modify, hm]
  · split <;> exact hp
  · split <;> exact hi

theorem Call.OnOwnClient.mono {made made' : List Made}
    (hmono : ∀ c p i, MadeFor made c p i → MadeFor made' c p i) :
    ∀ {call : Call}, call.OnOwnClient made → call.OnOwnClient made'
  | .replacing _ _ _, h => hmono _ _ _ h
  | .asking _ _ (some _), h => hmono _ _ _ h
  | .asking _ _ none, h => h
  | .ready _, _ | .answered _, _ | .closeReady, _ | .closing _, _ | .closed, _ => trivial

/-- Setting one call: the others stay on their own clients while the clients made only grow or
start closing, and the new one is on its own. -/
theorem Call.onOwnClient_set {made made' : List Made} {calls : List Call}
    (hall : ∀ call ∈ calls, call.OnOwnClient made)
    (hmono : ∀ c p i, MadeFor made c p i → MadeFor made' c p i) (k : Nat) {x : Call}
    (hx : x.OnOwnClient made') : ∀ call ∈ calls.set k x, call.OnOwnClient made' := by
  intro call hcall
  rcases List.mem_or_eq_of_mem_set hcall with hcall | rfl
  · exact (hall call hcall).mono hmono
  · exact hx

namespace Loop

variable {l : Loop} {k : Nat}

/-- How many times the client `c` is held: kept by the gateway, or taken by a closing of the
gateway that has not closed it yet. -/
def held (l : Loop) (c : Nat) : Nat :=
  l.gateway.keptIds.count c + (l.calls.map fun call => call.toClose.count c).sum

/-- How many times the closing of the client `c` was started. -/
def closesOf (l : Loop) (c : Nat) : Nat := ((l.made[c]?).map (·.closes)).getD 0

@[simp] theorem length_closeClient (l : Loop) (d : Nat) :
    (l.closeClient d).made.length = l.made.length := by
  simp [closeClient]

@[simp] theorem setCall_made (l : Loop) (k : Nat) (x : Call) : (l.setCall k x).made = l.made := rfl

theorem held_closeClient (l : Loop) (d c : Nat) : (l.closeClient d).held c = l.held c := rfl

theorem closesOf_setCall (l : Loop) (k : Nat) (x : Call) (c : Nat) :
    (l.setCall k x).closesOf c = l.closesOf c := rfl

/-- Starting to close a client made adds one to its closings and to no other's. -/
theorem closesOf_closeClient {d : Nat} (hd : d < l.made.length) (c : Nat) :
    (l.closeClient d).closesOf c = l.closesOf c + if d = c then 1 else 0 := by
  unfold closesOf closeClient
  rw [List.getElem?_modify]
  by_cases hdc : d = c
  · subst hdc
    obtain ⟨m, hm⟩ : ∃ m, l.made[d]? = some m := ⟨_, List.getElem?_eq_getElem hd⟩
    simp [hm]
  · simp only [hdc, if_false, Nat.add_zero]
    cases l.made[c]? <;> rfl

/-- Setting a call changes what is held by what the two calls have taken to close. -/
theorem held_setCall {y : Call} (hk : l.calls[k]? = some y) (x : Call) (c : Nat) :
    (l.setCall k x).held c + y.toClose.count c = l.held c + x.toClose.count c := by
  have := sum_map_set (fun call : Call => call.toClose.count c) hk x
  simp only [held, setCall] at this ⊢
  omega

/-- What a call has taken to close is held. -/
theorem count_toClose_le_held {y : Call} (hk : l.calls[k]? = some y) (c : Nat) :
    y.toClose.count c ≤ l.held c := by
  have hmem : y.toClose.count c ∈ l.calls.map fun call => call.toClose.count c :=
    List.mem_map.2 ⟨y, List.mem_of_getElem? hk, rfl⟩
  have := List.le_sum_of_mem hmem
  unfold held
  omega

/-! ## The invariant -/

/-- What every state a schedule reaches satisfies. -/
structure Inv (l : Loop) : Prop where
  /-- The cache keeps one client per provider. -/
  one_per_provider : (l.gateway.clients.map (·.1)).Nodup
  /-- A kept client was made for its provider, with the key and address it is kept under. -/
  kept_made : ∀ e ∈ l.gateway.clients, MadeFor l.made e.2.2 e.1 e.2.1
  /-- Every client made is held once or closed once; a number no client has is neither. -/
  held_or_closed : ∀ c, l.held c + l.closesOf c = if c < l.made.length then 1 else 0
  /-- A request's client was made for its call's provider, key and address. -/
  own_clients : ∀ call ∈ l.calls, call.OnOwnClient l.made

/-- A client that is held was made. -/
theorem Inv.lt_of_held (hi : l.Inv) {c : Nat} (h : 0 < l.held c) : c < l.made.length := by
  have := hi.held_or_closed c
  split at this
  · assumption
  · omega

/-- A kept client was made. -/
theorem Inv.lt_of_kept (hi : l.Inv) {c : Nat} (h : c ∈ l.gateway.keptIds) : c < l.made.length :=
  hi.lt_of_held (Nat.lt_of_lt_of_le (List.count_pos_iff.2 h) (Nat.le_add_right _ _))

/-- A client that a closing of the gateway has still to close was made. -/
theorem Inv.lt_of_toClose (hi : l.Inv) {call : Call} (hk : l.calls[k]? = some call) {c : Nat}
    (h : c ∈ call.toClose) : c < l.made.length :=
  hi.lt_of_held (Nat.lt_of_lt_of_le (List.count_pos_iff.2 h) (count_toClose_le_held hk c))

/-- A call that takes nothing to close and whose request, if any, is on its own client can take
the place of another that takes nothing to close. -/
theorem Inv.setCall (hi : l.Inv) {y x : Call} (hk : l.calls[k]? = some y) (hy : y.toClose = [])
    (hx : x.toClose = []) (hown : x.OnOwnClient l.made) : (l.setCall k x).Inv where
  one_per_provider := hi.one_per_provider
  kept_made := hi.kept_made
  held_or_closed c := by
    have := held_setCall hk x c
    rw [hy, hx, List.count_nil] at this
    rw [closesOf_setCall, setCall_made]
    have := hi.held_or_closed c
    omega
  own_clients := Call.onOwnClient_set hi.own_clients (fun _ _ _ h => h) k hown

/-- A client the target can use from the cache was made for it. -/
theorem Inv.madeFor_reusable (hi : l.Inv) {t : Target} {c : Nat} (h : l.gateway.reusable t = some c) :
    MadeFor l.made c t.provider (t.apiKey, t.baseUrl) :=
  hi.kept_made _ (CompletionGateway.mem_of_kept (CompletionGateway.kept_of_reusable h))

/-! ## What each move keeps -/

@[simp] theorem length_keepNew (l : Loop) (t : Target) :
    (l.keepNew t).made.length = l.made.length + 1 := by
  simp [keepNew]

/-- The client made for a target is made for its provider, key and address. -/
theorem madeFor_keepNew (l : Loop) (t : Target) :
    MadeFor (l.keepNew t).made l.made.length t.provider (t.apiKey, t.baseUrl) :=
  ⟨_, List.getElem?_concat_length .., rfl, rfl⟩

/-- Making a client starts no closing. -/
theorem closesOf_keepNew (l : Loop) (t : Target) (c : Nat) :
    (l.keepNew t).closesOf c = l.closesOf c := by
  unfold closesOf keepNew
  rcases Nat.lt_or_ge c l.made.length with hc | hc
  · rw [List.getElem?_append_left hc]
  · rw [List.getElem?_append_right hc, List.getElem?_eq_none hc]
    rcases Nat.eq_or_lt_of_le hc with rfl | hlt
    · simp
    · rw [List.getElem?_eq_none (by simp only [List.length_singleton]; omega)]

/-- The clients kept after a new one is kept: the new one, made for its target, and others made
before for what they are kept under. -/
theorem Inv.kept_made_keepNew (hi : l.Inv) (t : Target) :
    ∀ e ∈ (l.keepNew t).gateway.clients, MadeFor (l.keepNew t).made e.2.2 e.1 e.2.1 := by
  intro e he
  rcases CompletionGateway.mem_keep _ he with rfl | ⟨he, -⟩
  · exact madeFor_keepNew l t
  · exact (hi.kept_made e he).append _

/-- Making a client for a target and keeping it: the new client is held once and not closed,
and the one kept before for the target's provider, if any, is held once less. -/
theorem Inv.held_closesOf_keepNew (hi : l.Inv) (t : Target) (c : Nat) :
    (l.keepNew t).held c + (l.keepNew t).closesOf c + (match l.gateway.kept t.provider with
      | some (_, old) => if old = c then 1 else 0
      | none => 0) = if c < (l.keepNew t).made.length then 1 else 0 := by
  have hkeep := CompletionGateway.count_keep (t := t) (c := l.made.length) hi.one_per_provider c
  have hbefore := hi.held_or_closed c
  have hnew : (if c < l.made.length + 1 then 1 else 0) =
      (if c < l.made.length then 1 else 0) + if l.made.length = c then 1 else 0 := by
    split_ifs <;> omega
  rw [closesOf_keepNew, length_keepNew, hnew]
  simp only [held, Loop.keepNew, CompletionGateway.keptIds] at hkeep hbefore ⊢
  omega

/-- Replacing a kept client made for another key or address by a new one, whose closing then
starts, keeps the invariant. -/
theorem Inv.replace (hi : l.Inv) {ask : Ask} (hk : l.calls[k]? = some (.ready ask)) {t : Target}
    {i : Option String × Option String} {old : Nat} (hold : l.gateway.kept t.provider = some (i, old)) :
    (((l.keepNew t).closeClient old).setCall k (.replacing t ask l.made.length)).Inv where
  one_per_provider := CompletionGateway.keep_nodup hi.one_per_provider _
  kept_made e he := (hi.kept_made_keepNew t e he).closeClient old
  held_or_closed c := by
    have hlt : old < (l.keepNew t).made.length := by
      rw [length_keepNew]
      exact Nat.lt_succ_of_lt (hi.lt_of_kept (CompletionGateway.mem_keptIds_of_kept hold))
    have hset := held_setCall (l := (l.keepNew t).closeClient old) hk (.replacing t ask l.made.length) c
    have hmade := hi.held_closesOf_keepNew t c
    rw [hold] at hmade
    rw [closesOf_setCall, setCall_made, length_closeClient, closesOf_closeClient hlt,
      ← hmade]
    simp only [Call.toClose, List.count_nil, held_closeClient] at hset ⊢
    omega
  own_clients := Call.onOwnClient_set hi.own_clients (fun _ _ _ h => (h.append _).closeClient old) k
    ((madeFor_keepNew l t).closeClient old)

/-- Making and keeping the first client of a provider keeps the invariant. -/
theorem Inv.keepFirst (hi : l.Inv) {ask : Ask} (hk : l.calls[k]? = some (.ready ask)) {t : Target}
    (hfree : l.gateway.kept t.provider = none) :
    ((l.keepNew t).setCall k (.asking t ask (some l.made.length))).Inv where
  one_per_provider := CompletionGateway.keep_nodup hi.one_per_provider _
  kept_made := hi.kept_made_keepNew t
  held_or_closed c := by
    have hset := held_setCall (l := l.keepNew t) hk (.asking t ask (some l.made.length)) c
    have hmade := hi.held_closesOf_keepNew t c
    rw [hfree] at hmade
    rw [closesOf_setCall, setCall_made, ← hmade]
    simp only [Call.toClose, List.count_nil] at hset ⊢
    omega
  own_clients := Call.onOwnClient_set hi.own_clients (fun _ _ _ h => h.append _) k
    (madeFor_keepNew l t)

/-- The start of a completion keeps the invariant. -/
theorem Inv.begin (hi : l.Inv) {ask : Ask} (hk : l.calls[k]? = some (.ready ask)) :
    (l.begin k ask).Inv := by
  unfold Loop.begin
  split
  · exact hi.setCall hk rfl rfl trivial
  · next t _ =>
    split
    · -- the provider's calls go through kept clients
      split
      · next c hc => exact hi.setCall hk rfl rfl (hi.madeFor_reusable hc)
      · split
        · next i old hold => exact hi.replace hk hold
        · next hfree => exact hi.keepFirst hk hfree
    · next hkeeps => exact hi.setCall hk rfl rfl (by simpa [Call.OnOwnClient] using hkeeps)

/-- A gateway that keeps the same clients keeps the invariant, whatever else changes in it. -/
theorem Inv.sameClients (hi : l.Inv) {g : CompletionGateway} (hg : g.clients = l.gateway.clients) :
    ({ l with gateway := g } : Loop).Inv where
  one_per_provider := hg ▸ hi.one_per_provider
  kept_made := hg ▸ hi.kept_made
  held_or_closed := by
    simpa only [held, closesOf, CompletionGateway.keptIds, hg] using hi.held_or_closed
  own_clients := hi.own_clients

@[simp] theorem clearKept_made (l : Loop) : l.clearKept.made = l.made := rfl

/-- Emptying the cache leaves a client held only by the closings of the gateway. -/
theorem held_clearKept (l : Loop) (c : Nat) :
    l.clearKept.held c + l.gateway.keptIds.count c = l.held c := by
  simp [held, clearKept, CompletionGateway.keptIds, Nat.add_comm]

/-- The start of a closing of the gateway keeps the invariant: the clients it takes from the
cache are held by it instead, and the closing of the first starts. -/
theorem Inv.takeAll (hi : l.Inv) (hk : l.calls[k]? = some .closeReady) : (l.takeAll k).Inv := by
  unfold Loop.takeAll
  split
  · next hnone =>
    -- nothing was kept: the cache was empty already
    have hclients : l.gateway.clients = [] := List.map_eq_nil_iff.1 hnone
    exact (hi.sameClients (g := { l.gateway with clients := [] }) hclients.symm).setCall hk rfl rfl
      trivial
  · next c rest hcs =>
    have hcount (x : Nat) : l.gateway.keptIds.count x = rest.count x + if c = x then 1 else 0 := by
      simp only [CompletionGateway.keptIds, hcs, List.count_cons, beq_iff_eq]
    have hc : c < l.clearKept.made.length := by
      refine hi.lt_of_kept ?_
      rw [CompletionGateway.keptIds, hcs]
      exact List.mem_cons_self
    refine ⟨List.nodup_nil, fun e he => absurd he List.not_mem_nil, fun x => ?_, ?_⟩
    · have hset := held_setCall (l := l.clearKept.closeClient c) hk (.closing rest) x
      have hclear := held_clearKept l x
      rw [held_closeClient] at hset
      rw [closesOf_setCall, setCall_made, closesOf_closeClient hc, length_closeClient,
        clearKept_made]
      have := hi.held_or_closed x
      simp only [Call.toClose, List.count_nil, hcount] at hset hclear
      change _ + (l.closesOf x + _) = _
      omega
    · exact Call.onOwnClient_set hi.own_clients (fun _ _ _ h => h.closeClient c) k trivial

/-- A closing of the gateway that goes on to its next client keeps the invariant: the client is
no longer held by it, and its closing starts. -/
theorem Inv.closeNext (hi : l.Inv) {c : Nat} {rest : List Nat}
    (hk : l.calls[k]? = some (.closing (c :: rest))) :
    ((l.closeClient c).setCall k (.closing rest)).Inv where
  one_per_provider := hi.one_per_provider
  kept_made e he := (hi.kept_made e he).closeClient c
  held_or_closed x := by
    have hset := held_setCall (l := l.closeClient c) hk (.closing rest) x
    rw [held_closeClient] at hset
    rw [closesOf_setCall, setCall_made, length_closeClient,
      closesOf_closeClient (hi.lt_of_toClose hk List.mem_cons_self)]
    have := hi.held_or_closed x
    simp only [Call.toClose, List.count_cons, beq_iff_eq] at hset
    omega
  own_clients := Call.onOwnClient_set hi.own_clients (fun _ _ _ h => h.closeClient c) k trivial

/-- **One move keeps the invariant.** -/
theorem Inv.move (hi : l.Inv) {m : LoopMove} {l' : Loop} (h : l.move m = some l') : l'.Inv := by
  cases m with
  | reconfigure changes now =>
    cases h
    exact hi.sameClients (CompletionGateway.clients_reconfigure changes now l.gateway ())
  | start k =>
    simp only [Loop.move] at h
    split at h
    · next ask hk =>
      cases h
      exact hi.begin hk
    · next hk =>
      cases h
      exact hi.takeAll hk
    · cases h
  | resume k =>
    simp only [Loop.move] at h
    split at h
    · next t ask c hk =>
      cases h
      -- the request goes out on the client the call took
      have hown := hi.own_clients _ (List.mem_of_getElem? hk)
      exact hi.setCall hk rfl rfl hown
    · next c rest hk =>
      cases h
      exact hi.closeNext hk
    · next hk =>
      cases h
      exact hi.setCall hk rfl rfl trivial
    · cases h
  | answer k response =>
    simp only [Loop.move] at h
    split at h
    · next t ask c hk =>
      cases h
      exact hi.setCall hk rfl rfl trivial
    · cases h

/-- **A whole schedule keeps the invariant.** -/
theorem Inv.run (hi : l.Inv) {ms : List LoopMove} {l' : Loop} (h : l.run ms = some l') :
    l'.Inv := by
  induction ms generalizing l with
  | nil =>
    cases h
    exact hi
  | cons m ms ih =>
    simp only [Loop.run, Option.bind_eq_some_iff] at h
    obtain ⟨l₁, h₁, h₂⟩ := h
    exact ih (hi.move h₁) h₂

/-- A gateway that keeps no client, with calls none of which has started, satisfies the
invariant. -/
theorem inv_init {g : CompletionGateway} (hg : g.clients = []) {calls : List Call}
    (hcalls : ∀ call ∈ calls, (∃ ask, call = .ready ask) ∨ call = .closeReady) :
    (init g calls).Inv where
  one_per_provider := by simp [init, hg]
  kept_made e he := by simp [init, hg] at he
  held_or_closed c := by
    have hnone : ∀ call ∈ calls, call.toClose.count c = 0 := by
      intro call hcall
      rcases hcalls call hcall with ⟨ask, rfl⟩ | rfl <;> rfl
    simpa [held, closesOf, init, hg, CompletionGateway.keptIds, List.sum_eq_zero_iff] using hnone
  own_clients call hcall := by
    rcases hcalls call hcall with ⟨ask, rfl⟩ | rfl <;> trivial

/-! ## Which moves close a client -/

/-- The move `m` takes the client `c` out of use: a completion starts whose target's provider
keeps `c`, made for another key or address; or a closing of the gateway starts with `c` first
among the kept clients; or a closing of the gateway goes on to `c`, the next of the clients it
took. -/
def Drops (l : Loop) (m : LoopMove) (c : Nat) : Prop :=
  (∃ k ask t i, m = .start k ∧ l.calls[k]? = some (.ready ask) ∧
    resolveTarget l.gateway.config l.gateway.settings = .ok t ∧ t.provider.keepsClients = true ∧
    l.gateway.kept t.provider = some (i, c) ∧ i ≠ (t.apiKey, t.baseUrl)) ∨
  (∃ k rest, m = .start k ∧ l.calls[k]? = some .closeReady ∧ l.gateway.keptIds = c :: rest) ∨
  (∃ k rest, m = .resume k ∧ l.calls[k]? = some (.closing (c :: rest)))

/-- A completion's start closes at most the client kept for its provider, and only when that
client was made for another key or address. -/
theorem Inv.closesOf_begin (hi : l.Inv) (ask : Ask) (c : Nat) :
    (l.begin k ask).closesOf c = l.closesOf c ∨
      ∃ t i, resolveTarget l.gateway.config l.gateway.settings = .ok t ∧
        t.provider.keepsClients = true ∧ l.gateway.kept t.provider = some (i, c) ∧
        i ≠ (t.apiKey, t.baseUrl) ∧ (l.begin k ask).closesOf c = l.closesOf c + 1 := by
  unfold Loop.begin
  split
  · exact .inl (closesOf_setCall ..)
  · next t ht =>
    split
    · next hkeeps =>
      split
      · exact .inl (closesOf_setCall ..)
      · next hnone =>
        split
        · next i old hold =>
          have hlt : old < (l.keepNew t).made.length := by
            rw [length_keepNew]
            exact Nat.lt_succ_of_lt (hi.lt_of_kept (CompletionGateway.mem_keptIds_of_kept hold))
          rw [closesOf_setCall, closesOf_closeClient hlt, closesOf_keepNew]
          by_cases hc : old = c
          · subst hc
            -- the kept client is not the target's: `reusable` found nothing
            have hne : i ≠ (t.apiKey, t.baseUrl) := by
              rintro rfl
              simp [CompletionGateway.reusable, hold] at hnone
            exact .inr ⟨t, i, ht, hkeeps, hold, hne, by simp⟩
          · exact .inl (by simp [hc])
        · exact .inl (by rw [closesOf_setCall, closesOf_keepNew])
    · exact .inl (closesOf_setCall ..)

/-- A closing of the gateway starts by closing the first kept client, and no other. -/
theorem Inv.closesOf_takeAll (hi : l.Inv) (c : Nat) :
    (l.takeAll k).closesOf c = l.closesOf c ∨
      ∃ rest, l.gateway.keptIds = c :: rest ∧ (l.takeAll k).closesOf c = l.closesOf c + 1 := by
  unfold Loop.takeAll
  split
  · exact .inl rfl
  · next first rest hcs =>
    have hlt : first < l.clearKept.made.length := by
      refine hi.lt_of_kept ?_
      rw [CompletionGateway.keptIds, hcs]
      exact List.mem_cons_self
    rw [closesOf_setCall, closesOf_closeClient hlt]
    by_cases hc : first = c
    · subst hc
      exact .inr ⟨rest, hcs, by simp; rfl⟩
    · exact .inl (by simp [hc]; rfl)

/-- **What a move closes.**  A move starts the closing of at most one client, once, and only
of a client it takes out of use. -/
theorem Inv.closesOf_move (hi : l.Inv) {m : LoopMove} {l' : Loop} (h : l.move m = some l')
    (c : Nat) : l'.closesOf c = l.closesOf c ∨ (l.Drops m c ∧ l'.closesOf c = l.closesOf c + 1) := by
  cases m with
  | reconfigure changes now =>
    cases h
    exact .inl rfl
  | start k =>
    simp only [Loop.move] at h
    split at h
    · next ask hk =>
      cases h
      rcases hi.closesOf_begin (k := k) ask c with hsame | ⟨t, i, ht, hkeeps, hold, hne, hup⟩
      · exact .inl hsame
      · exact .inr ⟨.inl ⟨k, ask, t, i, rfl, hk, ht, hkeeps, hold, hne⟩, hup⟩
    · next hk =>
      cases h
      rcases hi.closesOf_takeAll (k := k) c with hsame | ⟨rest, hcs, hup⟩
      · exact .inl hsame
      · exact .inr ⟨.inr (.inl ⟨k, rest, rfl, hk, hcs⟩), hup⟩
    · cases h
  | resume k =>
    simp only [Loop.move] at h
    split at h
    · cases h
      exact .inl (closesOf_setCall ..)
    · next first rest hk =>
      cases h
      rw [closesOf_setCall, closesOf_closeClient (hi.lt_of_toClose hk List.mem_cons_self)]
      by_cases hc : first = c
      · subst hc
        exact .inr ⟨.inr (.inr ⟨k, rest, rfl, hk⟩), by simp⟩
      · exact .inl (by simp [hc])
    · cases h
      exact .inl (closesOf_setCall ..)
    · cases h
  | answer k response =>
    simp only [Loop.move] at h
    split at h
    · cases h
      exact .inl (closesOf_setCall ..)
    · cases h

/-! ## Closed once, and only out of use -/

/-- A client is held by nothing when it is neither kept nor left to close by a closing of the
gateway. -/
theorem held_eq_zero_iff (l : Loop) (c : Nat) :
    l.held c = 0 ↔ c ∉ l.gateway.keptIds ∧ ∀ call ∈ l.calls, c ∉ call.toClose := by
  simp [held, List.sum_eq_zero_iff, List.count_eq_zero]

/-- A client is closed at most once. -/
theorem Inv.closesOf_le_one (hi : l.Inv) (c : Nat) : l.closesOf c ≤ 1 := by
  have := hi.held_or_closed c
  split at this <;> omega

/-- A client is closed exactly when it was made and nothing holds it: it is neither kept nor left
to close by a closing of the gateway. -/
theorem Inv.closed_iff (hi : l.Inv) (c : Nat) :
    l.closesOf c = 1 ↔
      c < l.made.length ∧ c ∉ l.gateway.keptIds ∧ ∀ call ∈ l.calls, c ∉ call.toClose := by
  rw [← held_eq_zero_iff]
  have := hi.held_or_closed c
  split at this <;> constructor
  · intro h
    exact ⟨‹_›, by omega⟩
  · intro h
    omega
  · intro h
    omega
  · rintro ⟨hlt, -⟩
    contradiction

end Loop

/-! ## Calls side by side -/

open Loop in
/-- **The clients of calls side by side.**  Start from a gateway that keeps no client, with
completions and closings of the gateway not yet started, and run any schedule of their moves,
with any changes of the run-time choice in between.  Then:

* every request that goes through a client (exactly the OpenAI and Anthropic ones) goes through
  one made for its own call's provider, key and address;
* the cache keeps one client per provider, each made for that provider and for the key and
  address it is kept under;
* a client is closed at most once, and it is closed exactly when it was made and is neither
  kept nor left to close by a closing of the gateway;
* from there on, a move that starts a closing starts it once, of a client it takes out of use:
  the kept client of a provider that a new completion replaces, being made for another key or
  address, or a client a closing of the gateway takes. -/
theorem client_cache_discipline {g : CompletionGateway} (hg : g.clients = []) {calls : List Call}
    (hcalls : ∀ call ∈ calls, (∃ ask, call = .ready ask) ∨ call = .closeReady)
    {ms : List LoopMove} {l : Loop} (hrun : (init g calls).run ms = some l) :
    (∀ call ∈ l.calls, call.OnOwnClient l.made) ∧
    (l.gateway.clients.map (·.1)).Nodup ∧
    (∀ e ∈ l.gateway.clients, MadeFor l.made e.2.2 e.1 e.2.1) ∧
    (∀ c, l.closesOf c ≤ 1 ∧ (l.closesOf c = 1 ↔
      c < l.made.length ∧ c ∉ l.gateway.keptIds ∧ ∀ call ∈ l.calls, c ∉ call.toClose)) ∧
    (∀ m l' c, l.move m = some l' → l.closesOf c < l'.closesOf c →
      l.Drops m c ∧ l'.closesOf c = l.closesOf c + 1) := by
  have hi : l.Inv := (inv_init hg hcalls).run hrun
  refine ⟨hi.own_clients, hi.one_per_provider, hi.kept_made,
    fun c => ⟨hi.closesOf_le_one c, hi.closed_iff c⟩, fun m l' c hm hc => ?_⟩
  rcases hi.closesOf_move hm c with hsame | hdrop
  · omega
  · exact hdrop

/-- Two completions on a gateway set at run time to OpenAI with the key `a`. -/
def keyChange : Loop :=
  .init ⟨Settings.defaults, ⟨some .openai, some "a", none, none, none⟩, []⟩
    [.ready (Ask.plain "sys" "usr"), .ready (Ask.plain "sys" "usr")]

/-- The first completion starts, the key changes to `b`, and the second completion starts. -/
def keyChangeMoves : List LoopMove :=
  [.start 0, .reconfigure [("api_key", .str "b")] "now", .start 1]

open Loop in
theorem keyChange_discipline :
    ∃ l, keyChange.run keyChangeMoves = some l ∧
      (∀ call ∈ l.calls, call.OnOwnClient l.made) ∧
      (l.gateway.clients.map (·.1)).Nodup ∧
      (∀ e ∈ l.gateway.clients, MadeFor l.made e.2.2 e.1 e.2.1) ∧
      (∀ c, l.closesOf c ≤ 1 ∧ (l.closesOf c = 1 ↔
        c < l.made.length ∧ c ∉ l.gateway.keptIds ∧ ∀ call ∈ l.calls, c ∉ call.toClose)) ∧
      (∀ m l' c, l.move m = some l' → l.closesOf c < l'.closesOf c →
        l.Drops m c ∧ l'.closesOf c = l.closesOf c + 1) := by
  have hcalls : ∀ call ∈ [Call.ready (Ask.plain "sys" "usr"), .ready (Ask.plain "sys" "usr")],
      (∃ ask, call = .ready ask) ∨ call = .closeReady := by
    intro call hcall
    simp only [List.mem_cons, List.not_mem_nil, or_false, or_self] at hcall
    exact .inl ⟨_, hcall⟩
  obtain ⟨l, hrun⟩ : ∃ l, keyChange.run keyChangeMoves = some l := ⟨_, rfl⟩
  exact ⟨l, hrun, client_cache_discipline rfl hcalls hrun⟩

/-- **A request outlives its client.**  The first completion makes a client for the key `a` and
sends its request on it; the key changes to `b`; the second completion then makes a client for
`b` in its place and starts closing the first one, while the first request is still under way
on it, and that request can still come back. -/
theorem request_outlives_its_client :
    ∃ l, keyChange.run keyChangeMoves = some l ∧
      (∃ t ask, l.calls[0]? = some (.asking t ask (some 0))) ∧ l.closesOf 0 = 1 ∧
      ∀ response, (l.move (.answer 0 response)).isSome := by
  exact ⟨_, rfl, ⟨_, _, rfl⟩, rfl, fun _ => rfl⟩

end Gateway

end PracticeForge
