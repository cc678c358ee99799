import PracticeForge.Gateway.Complete

/-!
# Gateway/Tasks — the calls on one gateway side by side

Completions, changes of the run-time choice and closings of one gateway are served by one event
loop, so a call runs alone between two of its await points.

* A completion resolves its provider and, for OpenAI and Anthropic, takes its client at once:
  the kept one when it was made for the call's key and address, else a new one, which takes the
  place of the kept one.  The closing of the replaced client then starts, and the completion
  waits for it to finish before it sends its request on the new client.  It then waits for the
  response.
* A closing of the gateway takes all the kept clients at once, leaving none, and closes them
  one after another, waiting for each.
* A change of the run-time choice has no await point.

A client counts as closed from the moment its closing starts: the SDKs mark a client closed
before they wait for its connections.  The loop's moves are the steps of one call between two
await points, and the providers' responses are part of the schedule.  A call run alone, with no
other move in between, is `CompletionGateway.complete` or `CompletionGateway.close`
(`Proofs/Gateway/Alone`).
-/

namespace PracticeForge

namespace Gateway

/-- A client the gateway made: the provider, key and address it was made for, and how many
times its closing was started. -/
structure Made where
  provider : Provider
  identity : Option String × Option String
  closes : Nat
  deriving Repr, Inhabited

/-- Where a call on the gateway has got to. -/
inductive Call where
  /-- A completion not yet started, with what it asks. -/
  | ready (ask : Ask)
  /-- A completion for the target `t` waiting for a replaced client to close, before it asks on
  its new client `c`. -/
  | replacing (t : Target) (ask : Ask) (c : Nat)
  /-- A completion for the target `t` whose request is under way, on the client `c` when the
  provider's calls go through kept clients. -/
  | asking (t : Target) (ask : Ask) (c : Option Nat)
  /-- A completion that ended. -/
  | answered (r : Except Failure String)
  /-- A closing of the gateway not yet started. -/
  | closeReady
  /-- A closing of the gateway waiting for a client to close, with the clients it still has to
  close. -/
  | closing (rest : List Nat)
  /-- A closing of the gateway that ended. -/
  | closed
  deriving Inhabited

/-- A move of the event loop: a step of one call between two await points, or a change of the
run-time choice. -/
inductive LoopMove where
  /-- The run-time choice changes. -/
  | reconfigure (changes : List (String × Json)) (now : String)
  /-- The call at position `k` starts. -/
  | start (k : Nat)
  /-- The closing the call at position `k` waits for has finished. -/
  | resume (k : Nat)
  /-- The request of the call at position `k` comes back with `response`. -/
  | answer (k : Nat) (response : Except Failure Json)

/-- One gateway, the clients it made (numbered by when it made them) and the calls on it. -/
structure Loop where
  gateway : CompletionGateway
  made : List Made
  calls : List Call

namespace Loop

/-- A gateway before any move: no client made yet. -/
def init (g : CompletionGateway) (calls : List Call) : Loop := ⟨g, [], calls⟩

/-- Starts closing the client `c`. -/
def closeClient (l : Loop) (c : Nat) : Loop :=
  { l with made := l.made.modify c fun m => { m with closes := m.closes + 1 } }

/-- The call at position `k` gets to `call`. -/
def setCall (l : Loop) (k : Nat) (call : Call) : Loop := { l with calls := l.calls.set k call }

/-- Makes a client for the target `t`, numbered after the others, and keeps it in place of the
one kept for its provider. -/
def keepNew (l : Loop) (t : Target) : Loop :=
  { l with
    gateway := l.gateway.keep t l.made.length
    made := l.made ++ [⟨t.provider, (t.apiKey, t.baseUrl), 0⟩] }

/-- A completion at position `k`, asking `ask`, starts: it resolves its provider and takes its
client, making a new one in place of a kept one made for another key or address. -/
def begin (l : Loop) (k : Nat) (ask : Ask) : Loop :=
  match resolveTarget l.gateway.config l.gateway.settings with
  | .error e => l.setCall k (.answered (.error e))
  | .ok t =>
    if t.provider.keepsClients then
      match l.gateway.reusable t with
      | some c => l.setCall k (.asking t ask (some c))
      | none =>
        match l.gateway.kept t.provider with
        | some (_, old) => ((l.keepNew t).closeClient old).setCall k (.replacing t ask l.made.length)
        | none => (l.keepNew t).setCall k (.asking t ask (some l.made.length))
    else l.setCall k (.asking t ask none)

/-- The gateway's cache emptied. -/
def clearKept (l : Loop) : Loop := { l with gateway := { l.gateway with clients := [] } }

/-- A closing of the gateway at position `k` starts: it takes the kept clients, leaving none,
and starts closing the first. -/
def takeAll (l : Loop) (k : Nat) : Loop :=
  match l.gateway.clients.map (·.2.2) with
  | [] => l.clearKept.setCall k .closed
  | c :: rest => (l.clearKept.closeClient c).setCall k (.closing rest)

/-- What a completion comes to when its provider responds with `response`. -/
def settle (t : Target) (response : Except Failure Json) : Except Failure String :=
  ((completeVia t (Effect.ofExcept (σ := Unit) (response.bind (responseText t.provider)))).run' ()).1

/-- One move, when the call it names can make it. -/
def move (l : Loop) : LoopMove → Option Loop
  | .reconfigure changes now =>
    some { l with
      gateway := ((CompletionGateway.reconfigure (σ := Unit) changes now).run' (l.gateway, ())).2.1 }
  | .start k =>
    match l.calls[k]? with
    | some (.ready ask) => some (l.begin k ask)
    | some .closeReady => some (l.takeAll k)
    | _ => none
  | .resume k =>
    match l.calls[k]? with
    | some (.replacing t ask c) => some (l.setCall k (.asking t ask (some c)))
    | some (.closing (c :: rest)) => some ((l.closeClient c).setCall k (.closing rest))
    | some (.closing []) => some (l.setCall k .closed)
    | _ => none
  | .answer k response =>
    match l.calls[k]? with
    | some (.asking t _ _) => some (l.setCall k (.answered (settle t response)))
    | _ => none

/-- A schedule of moves, each from the state the one before left. -/
def run (l : Loop) : List LoopMove → Option Loop
  | [] => some l
  | m :: ms => (l.move m).bind (·.run ms)

end Loop

end Gateway

end PracticeForge
