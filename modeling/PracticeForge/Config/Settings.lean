import PracticeForge.Schema.Check
import PracticeForge.Number.Decimal

/-!
# Config/Settings — how the service is set up

The settings name the service, the stores (in memory unless a database is given), the model
provider and its credentials, the judge (the container tool and its time limit), the pace of
generation (parallel slots, the wait before a retry, the progress buffer, the heartbeat) and
the front end allowed to call.  Every setting has a default; given values are read leniently
(numbers from texts, booleans from words) and unknown settings are refused.

The judge's time limit is given in milliseconds: a limit that is not positive means the default
of 15 s, and no limit exceeds 30 s.
-/

namespace PracticeForge

open Schema

/-- The longest time the judge may take, in milliseconds. -/
def maxJudgeTimeoutMs : Nat := 30000

/-- The judge's time limit when none is set, in milliseconds. -/
def defaultJudgeTimeoutMs : Nat := 15000

/-- The service's settings. -/
structure Settings where
  appName : String
  debug : Bool
  supabaseUrl : String
  supabaseServiceKey : String
  llmProvider : String
  llmModel : String
  openaiApiKey : String
  anthropicApiKey : String
  geminiApiKey : String
  ollamaBaseUrl : String
  ollamaModel : String
  dockerPath : String
  judgeTimeoutMs : Int
  generationConcurrency : Int
  generationBackoffSeconds : Binary64
  progressBufferSize : Int
  heartbeatIntervalSeconds : Binary64
  frontendUrl : String
  deriving Repr

namespace Settings

/-- The settings when nothing is given. -/
def defaults : Settings :=
  ⟨"Codecraft", false, "", "", "", "", "", "", "", "http://127.0.0.1:11434", "", "docker", 15000, 2,
    Binary64.ofRatio false 1 2, 500, Binary64.ofRatio false 10 1, "http://localhost:3000"⟩

/-- The names of the settings, in order. -/
def names : List String :=
  ["app_name", "debug", "supabase_url", "supabase_service_key", "llm_provider", "llm_model",
    "openai_api_key", "anthropic_api_key", "gemini_api_key", "ollama_base_url", "ollama_model",
    "docker_path", "judge_timeout_ms", "generation_concurrency", "generation_backoff_seconds",
    "progress_buffer_size", "heartbeat_interval_seconds", "frontend_url"]

/-- Reads settings from given values, the rest taking their defaults. -/
def check (j : Json) : Checked Settings := do
  let fs ← entries j
  let d := defaults
  let text (name : String) (dflt : String) : Checked String := field fs name str (some dflt)
  let appName := text "app_name" d.appName
  let debug := field fs "debug" bool (some d.debug)
  let supabaseUrl := text "supabase_url" d.supabaseUrl
  let supabaseServiceKey := text "supabase_service_key" d.supabaseServiceKey
  let llmProvider := text "llm_provider" d.llmProvider
  let llmModel := text "llm_model" d.llmModel
  let openaiApiKey := text "openai_api_key" d.openaiApiKey
  let anthropicApiKey := text "anthropic_api_key" d.anthropicApiKey
  let geminiApiKey := text "gemini_api_key" d.geminiApiKey
  let ollamaBaseUrl := text "ollama_base_url" d.ollamaBaseUrl
  let ollamaModel := text "ollama_model" d.ollamaModel
  let dockerPath := text "docker_path" d.dockerPath
  let judgeTimeoutMs := field fs "judge_timeout_ms" int (some d.judgeTimeoutMs)
  let concurrency := field fs "generation_concurrency" int (some d.generationConcurrency)
  let backoff := field fs "generation_backoff_seconds" double (some d.generationBackoffSeconds)
  let bufferSize := field fs "progress_buffer_size" int (some d.progressBufferSize)
  let heartbeat := field fs "heartbeat_interval_seconds" double (some d.heartbeatIntervalSeconds)
  let frontendUrl := text "frontend_url" d.frontendUrl
  let issues := issuesOf appName ++ issuesOf debug ++ issuesOf supabaseUrl ++
    issuesOf supabaseServiceKey ++ issuesOf llmProvider ++ issuesOf llmModel ++
    issuesOf openaiApiKey ++ issuesOf anthropicApiKey ++ issuesOf geminiApiKey ++
    issuesOf ollamaBaseUrl ++ issuesOf ollamaModel ++ issuesOf dockerPath ++
    issuesOf judgeTimeoutMs ++ issuesOf concurrency ++ issuesOf backoff ++ issuesOf bufferSize ++
    issuesOf heartbeat ++ issuesOf frontendUrl ++ extraKeys fs names
  if !issues.isEmpty then .error issues
  else
    let get {α : Type} (c : Checked α) (dflt : α) : α := match c with | .ok a => a | .error _ => dflt
    pure ⟨get appName d.appName, get debug d.debug, get supabaseUrl d.supabaseUrl,
      get supabaseServiceKey d.supabaseServiceKey, get llmProvider d.llmProvider,
      get llmModel d.llmModel, get openaiApiKey d.openaiApiKey,
      get anthropicApiKey d.anthropicApiKey, get geminiApiKey d.geminiApiKey,
      get ollamaBaseUrl d.ollamaBaseUrl, get ollamaModel d.ollamaModel, get dockerPath d.dockerPath,
      get judgeTimeoutMs d.judgeTimeoutMs, get concurrency d.generationConcurrency,
      get backoff d.generationBackoffSeconds, get bufferSize d.progressBufferSize,
      get heartbeat d.heartbeatIntervalSeconds, get frontendUrl d.frontendUrl⟩

/-- The judge's time limit in seconds. -/
def judgeTimeoutSeconds (s : Settings) : Binary64 :=
  let ms : Nat := if 0 < s.judgeTimeoutMs then s.judgeTimeoutMs.toNat else defaultJudgeTimeoutMs
  Binary64.ofRatio false (min ms maxJudgeTimeoutMs) 1000

/-- The container tool the judge runs; an empty setting means `docker`. -/
def dockerCommand (s : Settings) : String := if s.dockerPath.isEmpty then "docker" else s.dockerPath

end Settings

end PracticeForge
