import PracticeForge.Config.Settings

/-!
# Gateway/Config — which provider answers, with what key and model

The provider is chosen at run time, over the settings: the run-time choice first, then the
configured provider, then the first of OpenAI, Anthropic and Gemini that has a key in the
settings, then Ollama when a local model is configured.  Every provider but Ollama needs a key
(the run-time one, else the settings' one); Ollama has an address instead (the run-time one,
else the settings' one).  The model is the run-time one, else Ollama's configured model for
Ollama, else the configured model when the provider is the configured one, else the provider's
default.  Empty texts count as not given throughout.

The run-time choice is changed field by field: a change names some of the four fields, `null`
clearing one, and a change that does not validate leaves the choice as it was.
-/

namespace PracticeForge

/-- A model provider. -/
inductive Provider where
  | openai
  | anthropic
  | gemini
  | ollama
  deriving DecidableEq, Repr, Inhabited

namespace Provider

/-- The provider's name. -/
def name : Provider → String
  | .openai => "openai"
  | .anthropic => "anthropic"
  | .gemini => "gemini"
  | .ollama => "ollama"

/-- Every provider, in the order they are tried for a key. -/
def all : List Provider := [.openai, .anthropic, .gemini, .ollama]

/-- The provider of a name. -/
def ofName? (s : String) : Option Provider := all.find? (·.name == s)

/-- The model asked when none is chosen. -/
def defaultModel : Provider → String
  | .openai => "gpt-4o-mini"
  | .anthropic => "claude-3-5-haiku-latest"
  | .gemini => "gemini-2.5-flash"
  | .ollama => "llama3.1"

/-- The provider's key in the settings; Ollama has none. -/
def settingsKey (st : Settings) : Provider → String
  | .openai => st.openaiApiKey
  | .anthropic => st.anthropicApiKey
  | .gemini => st.geminiApiKey
  | .ollama => ""

end Provider

/-- A text that counts as given: not empty. -/
def given? (s : Option String) : Option String := s.filter (· != "")

/-- The provider, key, address and model chosen at run time, each possibly left open. -/
structure RuntimeConfig where
  provider : Option Provider
  apiKey : Option String
  baseUrl : Option String
  model : Option String
  /-- When the choice was last changed; none before the first change. -/
  updatedAt : Option String
  deriving Repr, Inhabited

namespace RuntimeConfig

/-- Nothing chosen. -/
def empty : RuntimeConfig := ⟨none, none, none, none, none⟩

/-- The JSON form. -/
def toJson (c : RuntimeConfig) : Json :=
  .obj [("provider", Json.ofStrOpt (c.provider.map Provider.name)), ("api_key", Json.ofStrOpt c.apiKey),
    ("base_url", Json.ofStrOpt c.baseUrl), ("model", Json.ofStrOpt c.model),
    ("updated_at", Json.ofStrOpt c.updatedAt)]

/-- The names of the fields a change may name. -/
def fieldNames : List String := ["provider", "api_key", "base_url", "model"]

/-- Applies a change at time `now`: the fields it names take its values, which are then checked
together with the others. -/
def reconfigure (c : RuntimeConfig) (changes : List (String × Json)) (now : String) :
    Except Failure RuntimeConfig := do
  if let some (k, _) := changes.find? fun e => !fieldNames.contains e.1 then
    throw (.badType ("LlmConfigHolder.reconfigure() got an unexpected keyword argument '" ++ k ++ "'"))
  let value (k : String) (current : Json) : Json := (Json.lookup changes k).getD current
  let c := toJson c
  let provider := Schema.at_ (.key "provider")
    (Schema.nullable (Schema.literal (Provider.all.map Provider.name)) (value "provider" (c.getD "provider")))
  let text (k : String) := Schema.at_ (.key k) (Schema.nullable Schema.str (value k (c.getD k)))
  match provider, text "api_key", text "base_url", text "model" with
  | .ok p, .ok k, .ok u, .ok m => pure ⟨p.bind Provider.ofName?, k, u, m, some now⟩
  | p, k, u, m =>
    throw (.invalid (Schema.issuesOf p ++ Schema.issuesOf k ++ Schema.issuesOf u ++ Schema.issuesOf m))

end RuntimeConfig

/-- A provider with everything a call needs. -/
structure Target where
  provider : Provider
  apiKey : Option String
  baseUrl : Option String
  model : String
  deriving Repr, Inhabited

/-- The JSON form. -/
def Target.toJson (t : Target) : Json :=
  .obj [("provider", .str t.provider.name), ("api_key", Json.ofStrOpt t.apiKey),
    ("base_url", Json.ofStrOpt t.baseUrl), ("model", .str t.model)]

/-- The provider a completion goes to under a run-time choice and the settings. -/
def resolveTarget (rt : RuntimeConfig) (st : Settings) : Except Failure Target := do
  let named := (rt.provider.map Provider.name).orElse fun _ => given? (some st.llmProvider)
  let keyed := ([Provider.openai, .anthropic, .gemini].find? fun p => p.settingsKey st != "").map Provider.name
  let local_ := if st.ollamaModel != "" then some "ollama" else none
  let name ← match (named.orElse fun _ => keyed).orElse fun _ => local_ with
    | some n => pure n
    | none => throw (.completion "none" "No LLM provider is configured")
  let provider ← match Provider.ofName? name with
    | some p => pure p
    | none => throw (.completion name "Unknown LLM provider")
  let apiKey := (given? rt.apiKey).orElse fun _ => given? (some (provider.settingsKey st))
  if provider != .ollama && apiKey.isNone then
    throw (.completion name "API key is not configured")
  let baseUrl := if provider == .ollama then some ((given? rt.baseUrl).getD st.ollamaBaseUrl) else rt.baseUrl
  let model := given? rt.model
  let model := if model.isNone && provider == .ollama then given? (some st.ollamaModel) else model
  let configured := (given? (some st.llmProvider)).getD name
  let model := if model.isNone && name == configured then given? (some st.llmModel) else model
  pure ⟨provider, apiKey, baseUrl, model.getD provider.defaultModel⟩

end PracticeForge
