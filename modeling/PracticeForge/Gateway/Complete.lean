import PracticeForge.Gateway.Config
import PracticeForge.Gateway.Reply
import PracticeForge.Text.Words

/-!
# Gateway/Complete — one text completion from whichever provider is configured

A completion resolves the provider first (so a missing key fails before anything is sent),
then makes the provider's call and reads the text out of its response.  Every failure of the
call becomes a completion failure of that provider, its message the failure's message (or its
kind when the message is empty); an answer that is empty or only blanks is refused the same
way.  Nothing is retried here: callers decide what a failure means.

OpenAI and Anthropic calls go through clients kept per provider.  A client is made again when
the key or the address it was made for changes, and the old one is then closed; closing the
gateway closes them all.
-/

namespace PracticeForge

/-- Whether a provider's calls go through clients the gateway keeps: OpenAI's and Anthropic's. -/
def Provider.keepsClients (p : Provider) : Bool := p == .openai || p == .anthropic

namespace Gateway

/-- The seconds a provider call may take. -/
def requestTimeout : Nat := 120

/-- What a completion asks: the instructions, the prompt, and the sampling settings, passed to
the provider as they are given. -/
structure Ask where
  system : String
  user : String
  temperature : Json
  maxTokens : Json
  deriving Repr, Inhabited

/-- A request with the usual sampling settings: temperature 0.3 and at most 4096 tokens. -/
def Ask.plain (system user : String) : Ask :=
  ⟨system, user, .float (Binary64.ofRatio false 3 10), .int 4096⟩

/-- One call of a provider's SDK: the arguments its client is made with and those of the call
itself.  Ollama is reached by a plain HTTP post, whose arguments are the address, the time
limit and the body. -/
structure SdkCall where
  provider : Provider
  client : List (String × Json)
  args : List (String × Json)
  deriving Repr, Inhabited

/-- The system and user messages of a chat. -/
def chatMessages (ask : Ask) : Json :=
  .arr [.obj [("role", .str "system"), ("content", .str ask.system)],
    .obj [("role", .str "user"), ("content", .str ask.user)]]

/-- The arguments a hosted provider's client is made with; an empty address means the
provider's own. -/
def clientArgs (t : Target) : List (String × Json) :=
  [("api_key", Json.ofStrOpt t.apiKey), ("base_url", Json.ofStrOpt (given? t.baseUrl)),
    ("timeout", .int requestTimeout)]

/-- The chat endpoint of an Ollama server. -/
def ollamaUrl (t : Target) : String :=
  String.ofList ((t.baseUrl.getD "").toList.reverse.dropWhile (· == '/')).reverse ++ "/api/chat"

/-- The call that asks a provider for a completion. -/
def request (t : Target) (ask : Ask) : SdkCall :=
  match t.provider with
  | .openai => ⟨.openai, clientArgs t,
      [("model", .str t.model), ("messages", chatMessages ask), ("temperature", ask.temperature),
        ("max_tokens", ask.maxTokens)]⟩
  | .anthropic => ⟨.anthropic, clientArgs t,
      [("model", .str t.model), ("system", .str ask.system),
        ("messages", .arr [.obj [("role", .str "user"), ("content", .str ask.user)]]),
        ("temperature", ask.temperature), ("max_tokens", ask.maxTokens)]⟩
  | .gemini => ⟨.gemini, [("api_key", Json.ofStrOpt t.apiKey)],
      [("model", .str t.model), ("contents", .str ask.user),
        ("config", .obj [("system_instruction", if ask.system == "" then .null else .str ask.system),
          ("temperature", ask.temperature), ("max_output_tokens", ask.maxTokens),
          ("response_mime_type", .str "application/json"),
          ("thinking_config", .obj [("thinking_budget", .int 0)])])]⟩
  | .ollama => ⟨.ollama, [],
      [("url", .str (ollamaUrl t)), ("timeout", .int requestTimeout), ("model", .str t.model),
        ("stream", .bool false), ("format", .str "json"), ("messages", chatMessages ask),
        ("options", .obj [("temperature", ask.temperature), ("num_predict", ask.maxTokens)])]⟩

/-- A value, or the fallback when it is empty, zero or missing. -/
def orElseFalsy (v fallback : Json) : Json := if v.truthy then v else fallback

/-- A field of a record; other values have no fields. -/
def field (v : Json) (key : String) : Except Failure Json :=
  match v with
  | .obj fs => .ok ((Json.lookup fs key).getD .null)
  | other => .error (.system "AttributeError" ("'" ++ other.kindName ++ "' object has no attribute 'get'"))

/-- The text of Anthropic content blocks: the texts of the text blocks that are not empty, one
per line, without surrounding blanks. -/
def blocksText (blocks : List Json) : Except Failure Json := do
  let parts := (blocks.filter fun b => (b.getD "type").getStr? == some "text").map fun b =>
    (match b with
      | .obj fs => (Json.lookup fs "text").getD (.str "")
      | _ => .str "")
  let parts := parts.filter Json.truthy
  let texts ← (parts.zip (List.range parts.length)).mapM fun (p, i) =>
    match p with
    | .str s => .ok s
    | other => .error (.badType ("sequence item " ++ toString i ++ ": expected str instance, " ++
        other.kindName ++ " found"))
  pure (.str (Text.trim ("\n".intercalate texts)))

/-- The text of a provider's response. -/
def responseText (p : Provider) (response : Json) : Except Failure Json :=
  match p with
  | .openai =>
    let choice := ((response.getD "choices").getArr?.bind List.head?).getD .null
    .ok (orElseFalsy ((choice.getD "message").getD "content") (.str ""))
  | .anthropic => blocksText ((response.getD "content").getArr?.getD [])
  | .gemini => .ok (orElseFalsy (response.getD "text") (.str ""))
  | .ollama => do
    let message ← field response "message"
    let content ← field (orElseFalsy message (.obj [])) "content"
    pure (orElseFalsy content (.str ""))

/-- The failure of a provider call as the gateway reports it. -/
def asCompletion (p : Provider) (e : Failure) : Failure :=
  match e with
  | .completion .. => e
  | _ => .completion p.name (if e.message == "" then e.kind else e.message)

/-- The completion an answer gives: its text, unless it is empty or only blanks. -/
def finish (p : Provider) (text : Json) : Except Failure String :=
  match text with
  | .str s => if (Text.trim s).isEmpty then .error (.completion p.name "Empty response") else .ok s
  | other =>
    if other.truthy then
      .error (.system "AttributeError" ("'" ++ other.kindName ++ "' object has no attribute 'strip'"))
    else .error (.completion p.name "Empty response")

/-- Completes through an adapter for a resolved provider. -/
def completeVia {τ : Type} (t : Target) (call : Effect τ Json) : Effect τ String := do
  let text ← tryCatch call fun e => throw (asCompletion t.provider e)
  Effect.ofExcept (finish t.provider text)

end Gateway

/-- The SDKs a gateway talks to, acting on a world of type `σ`. -/
structure Sdk (σ : Type) where
  /-- Makes a client of a provider with the given arguments; gives its number. -/
  makeClient : Provider → List (String × Json) → σ → Nat × σ
  /-- Closes a client. -/
  closeClient : Provider → Nat → σ → σ
  /-- Makes one call and gives the response as a record. -/
  send : Gateway.SdkCall → σ → Except Failure Json × σ

/-- A completion gateway: the settings, the run-time choice of provider, and the clients it
keeps, each with the key and address it was made for. -/
structure CompletionGateway where
  settings : Settings
  config : RuntimeConfig
  clients : List (Provider × (Option String × Option String) × Nat)
  deriving Repr

namespace CompletionGateway

/-- A gateway with no run-time choice and no clients. -/
def fresh (st : Settings) : CompletionGateway := ⟨st, RuntimeConfig.empty, []⟩

/-- The client kept for a provider, with the key and address it was made for. -/
def kept (g : CompletionGateway) (p : Provider) : Option ((Option String × Option String) × Nat) :=
  (g.clients.find? (·.1 == p)).map (·.2)

/-- The kept client a target can use: the one kept for its provider, if it was made for the
target's key and address. -/
def reusable (g : CompletionGateway) (t : Target) : Option Nat :=
  match g.kept t.provider with
  | some (i, c) => if i == (t.apiKey, t.baseUrl) then some c else none
  | none => none

/-- The gateway keeping the client `c` for a target, made for its key and address: in place of
the client kept for its provider, or after the others when there is none. -/
def keep (g : CompletionGateway) (t : Target) (c : Nat) : CompletionGateway :=
  let entry := (t.provider, (t.apiKey, t.baseUrl), c)
  { g with
    clients := if (g.kept t.provider).isSome then
        g.clients.map fun e => if e.1 == t.provider then entry else e
      else g.clients ++ [entry] }

variable {σ : Type} (sdk : Sdk σ)

/-- Acts on the SDKs' world. -/
def onSdk {α : Type} (f : σ → α × σ) : Effect (CompletionGateway × σ) α :=
  modifyGet fun (g, w) => let (a, w) := f w; (a, (g, w))

/-- The client of a provider for a target's key and address: the kept one when it was made for
them, else a new one, which replaces (and closes) the kept one. -/
def client (t : Target) (args : List (String × Json)) : Effect (CompletionGateway × σ) Nat := do
  let (g, _) ← get
  if let some c := g.reusable t then return c
  let c ← onSdk (sdk.makeClient t.provider args)
  modify fun (g, w) => (g.keep t c, w)
  if let some (_, old) := g.kept t.provider then onSdk fun w => ((), sdk.closeClient t.provider old w)
  pure c

/-- Closes every kept client, in the order they were first made. -/
def close : Effect (CompletionGateway × σ) Unit := do
  let (g, _) ← get
  modify fun (g, w) => ({ g with clients := [] }, w)
  for (p, _, c) in g.clients do
    onSdk fun w => ((), sdk.closeClient p c w)

/-- Changes the run-time choice of provider at time `now`. -/
def reconfigure (changes : List (String × Json)) (now : String) :
    Effect (CompletionGateway × σ) RuntimeConfig := do
  let (g, _) ← get
  let c ← Effect.ofExcept (g.config.reconfigure changes now)
  modify fun (g, w) => ({ g with config := c }, w)
  pure c

/-- The provider a completion would go to now. -/
def resolve : Effect (CompletionGateway × σ) Target := do
  let (g, _) ← get
  Effect.ofExcept (resolveTarget g.config g.settings)

/-- Asks a resolved provider through its SDK and gives the text of the answer. -/
def call (t : Target) (ask : Gateway.Ask) : Effect (CompletionGateway × σ) Json := do
  let r := Gateway.request t ask
  if t.provider.keepsClients then
    let _ ← client sdk t r.client
  let response ← onSdk (sdk.send r)
  Effect.ofExcept (Gateway.responseText t.provider (← Effect.ofExcept response))

/-- One completion from the configured provider. -/
def complete (ask : Gateway.Ask) : Effect (CompletionGateway × σ) String := do
  let t ← resolve
  Gateway.completeVia t (call sdk t ask)

end CompletionGateway

end PracticeForge
