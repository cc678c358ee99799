import PracticeForge.Api.Exchange
import PracticeForge.Api.Site

/-!
# Api/Routes — the web interface of the service

The routes create, list, show and chat with threads, start generation and replay its progress,
list, show, edit and publish activities, and show and change the model configuration.  Every
route but the progress stream and the two fixed pages records an `api_call` usage event with
its route, whether it succeeded (and the kind of failure when not), and the thread or activity
it concerns.

Parameters are checked before a route runs; faults are answered with 422 and no event.  Missing
records are answered with 404, requests in the wrong state with 409, a generation run whose
slot failed with 502 and the slot, a pipeline defect with 500 and its kind, and any other
failure with a bare 500.  While the site is unconfigured, every route but the two fixed pages
fails with a bare 500 before its parameters are checked.  A path with a trailing slash is served as the path without it; a
known path asked with another method is answered with 405, an unknown path with 404.
-/

namespace PracticeForge

namespace Api

open Schema

/-- The most items a listing gives. -/
def maxListLimit : Int := 200

/-- The longest message a learner may send. -/
def maxMessageLength : Nat := 8000

/-- The name of the service, as its front page gives it. -/
def appName : String := "Codecraft"

/-- The fields of a JSON body, or the fault of a body that is missing or not an object. -/
def bodyFields (body : Option Json) : Checked (List (String × Json)) :=
  match body with
  | none | some .null => .error [⟨[], .missing⟩]
  | some (.obj fs) => .ok fs
  | some _ => .error [⟨[], .modelAttributesType⟩]

/-- A listing limit from the query (its last value), 50 when absent, kept between 1 and 200. -/
def limitOf (query : List (String × String)) : Checked Int := do
  match (query.filter (·.1 == "limit")).getLast? with
  | none => pure 50
  | some (_, v) =>
    let n ← at_ (.key "limit") (int (.str v))
    pure (max 1 (min n maxListLimit))

/-- Runs a route under its usage event. -/
def instrumented (route : String) (kwargs : Telemetry.Fields) (endpoint : Effect Site Json) :
    Effect Site Response := do
  let r ← tryCatch (do pure (Except.ok (← endpoint))) fun e => pure (.error e)
  let (r, events) := Telemetry.instrument (.str route) (.str "v1") kwargs 0 r
  for e in events do Site.record e
  match r with
  | .ok j => pure (ok j)
  | .error f => pure (ofFailure f)

/-- Answers a missing record with 404 and its message. -/
def notFound {α : Type} (e : Effect Site α) : Effect Site α :=
  tryCatch e fun f =>
    match f with
    | .threadNotFound _ | .activityNotFound _ => throw (.http 404 (.str f.message))
    | f => throw f

/-- The service of the site. -/
def service : Effect Site (ThreadService Site) := do pure (Site.service (← get).settings)

/-- The stores of the site. -/
def storage : Effect Site (Storage Site) := do pure (Site.storage (← get).settings)

/-- Answers a request after its parameters check. -/
def checked {α : Type} (place : String) (c : Checked α) (k : α → Effect Site Response) :
    Effect Site Response :=
  match c with
  | .ok a => k a
  | .error issues => pure (unprocessable place issues)

/-- `POST /api/threads`. -/
def createThread (body : Option Json) : Effect Site Response :=
  checked "body" (do
      let fs ← bodyFields body
      field fs "learning_mode" (literal ["practice", "guided"]) (some "practice")) fun mode =>
    instrumented "/api/threads" [] do
      pure (← (← service).createThread (.str mode)).toJson

/-- `GET /api/threads`. -/
def listThreads (query : List (String × String)) : Effect Site Response :=
  checked "query" (limitOf query) fun limit =>
    instrumented "/api/threads:list" [] do
      let ts ← (← storage).listThreads limit
      pure (.obj [("threads", .arr (ts.map Thread.summary))])

/-- `GET /api/threads/{id}`. -/
def showThread (id : String) : Effect Site Response :=
  instrumented "/api/threads/{id}" [("thread_id", .str id)] do
    let t ← notFound ((← service).thread id)
    match t.toJson with
    | .obj fs => pure (.obj (fs ++ [("generating", .bool false)]))
    | j => pure j

/-- Reads the message of a chat request. -/
def messageOf (body : Option Json) : Checked String := do
  let fs ← bodyFields body
  let m ← field fs "message" str none
  if m.length > maxMessageLength then .error [⟨[.key "message"], .valueError⟩] else pure m

/-- `POST /api/threads/{id}/messages`. -/
def postMessage (id : String) (body : Option Json) : Effect Site Response :=
  checked "body" (messageOf body) fun message =>
    instrumented "/api/threads/{id}/messages" [("thread_id", .str id)] do
      pure (← notFound ((← service).postMessage id (some message))).toJson

/-- `POST /api/threads/{id}/generate`. -/
def generate (id : String) : Effect Site Response :=
  instrumented "/api/threads/{id}/generate" [("thread_id", .str id)] do
    let (activityId, count) ← tryCatch (notFound ((← service).triggerGeneration id)) fun f =>
      match f with
      | .invalidThreadState m => throw (.http 409 (.str m))
      | .runFailed reason slot =>
        throw (.http 502 (.obj [("detail", .str reason), ("slot_index", Json.ofIntOpt slot)]))
      | f => throw f
    pure (.obj [("activity_id", .str activityId), ("problem_count", .int count)])

/-- `GET /api/threads/{id}/progress`: what the current run has reported, up to its end. -/
def progress (id : String) : Effect Site Response := do
  match ← (tryCatch (do pure (Except.ok (← (← service).replay id))) fun e => pure (.error e)) with
  | .error f => pure (ofFailure (match f with
      | .threadNotFound _ => .http 404 (.str f.message)
      | f => f))
  | .ok events =>
    let shown := events.takeWhile fun e => !e.isTerminal
    let ends := shown.length < events.length
    let shown := if ends then shown ++ (events.drop shown.length).take 1 else shown
    pure ⟨200, .events shown ends,
      [("content-type", "text/event-stream; charset=utf-8"), ("cache-control", "no-cache")]⟩

/-- An activity as listings show it. -/
def activityEntry (a : Activity) : Json :=
  .obj [("id", .str a.id), ("title", .str a.title), ("status", .str a.status.name),
    ("problem_count", .int a.problems.length), ("time_limit_seconds", Json.ofIntOpt a.timeLimitSeconds),
    ("created_at", .str a.createdAt)]

/-- `GET /api/activities`. -/
def listActivities (query : List (String × String)) : Effect Site Response :=
  checked "query" (limitOf query) fun limit =>
    instrumented "/api/activities" [] do
      let as ← (← storage).listActivities limit
      pure (.obj [("activities", .arr (as.map activityEntry))])

/-- `GET /api/activities/{id}`. -/
def showActivity (id : String) : Effect Site Response :=
  instrumented "/api/activities/{id}" [("activity_id", .str id)] do
    pure (← notFound ((← storage).activity id)).toJson

/-- Reads an edit of an activity: a new title, and a new time limit when one is given. -/
def editOf (body : Option Json) : Checked (Option String × Option (Option Int)) := do
  let fs ← bodyFields body
  let title := field fs "title" (nullable str) (some none)
  let limit := field fs "time_limit_seconds" (nullable int) (some none)
  match title, limit with
  | .ok t, .ok l => pure (t, if fs.any (·.1 == "time_limit_seconds") then some l else none)
  | t, l => .error (issuesOf t ++ issuesOf l)

/-- `PATCH /api/activities/{id}`. -/
def editActivity (id : String) (body : Option Json) : Effect Site Response :=
  checked "body" (editOf body) fun (title, limit) =>
    instrumented "/api/activities/{id}:patch" [("activity_id", .str id)] do
      let a ← tryCatch (notFound ((← storage).patchActivity id title limit)) fun f =>
        match f with
        | .activityLocked m => throw (.http 409 (.str m))
        | f => throw f
      pure a.toJson

/-- `POST /api/activities/{id}/publish`. -/
def publish (id : String) : Effect Site Response :=
  instrumented "/api/activities/{id}/publish" [("activity_id", .str id)] do
    pure (← notFound ((← storage).publishActivity id)).toJson

/-- The model configuration: the run-time choice and the provider and model that answer now. -/
def describeLlm : Effect Site Json := do
  let g := (← get).gateway
  let c := g.config
  let active := (resolveTarget c g.settings).toOption
  pure (.obj [("provider", Json.ofStrOpt (c.provider.map Provider.name)), ("model", Json.ofStrOpt c.model),
    ("base_url", Json.ofStrOpt c.baseUrl), ("has_api_key", .bool (given? c.apiKey).isSome),
    ("updated_at", Json.ofStrOpt c.updatedAt),
    ("active_provider", Json.ofStrOpt (active.map (·.provider.name))),
    ("active_model", Json.ofStrOpt (active.map (·.model)))])

/-- Reads a change of the model configuration: the fields it names, checked. -/
def llmChangeOf (body : Option Json) : Checked (List (String × Json)) := do
  let fs ← bodyFields body
  let provider := field fs "provider" (nullable (literal (Provider.all.map Provider.name))) (some none)
  let texts := ["api_key", "base_url", "model"].map fun k => field fs k (nullable str) (some none)
  match provider, texts.mapM id with
  | .ok _, .ok _ => pure (fs.filter fun e => RuntimeConfig.fieldNames.contains e.1)
  | p, _ => .error (issuesOf p ++ texts.flatMap issuesOf)

/-- `PUT /api/settings/llm`. -/
def changeLlm (body : Option Json) : Effect Site Response :=
  checked "body" (llmChangeOf body) fun changes =>
    instrumented "/api/settings/llm:put" [] do
      let now ← Site.now
      let _ ← Site.onGateway (CompletionGateway.reconfigure changes now)
      describeLlm

/-- The parts of a path; a trailing slash is dropped, as the redirect it gets leads there. -/
def segments (path : String) : List String :=
  let parts := match path.splitOn "/" with
    | "" :: rest => rest
    | other => other
  if parts.length > 1 && parts.getLast? == some "" then parts.dropLast else parts

/-- The route a method and path reach. -/
def endpoint (req : Request) : List String → Option (Effect Site Response)
  | [""] => if req.method == "GET" then some (pure (ok (.obj [("name", .str appName),
      ("docs", .str "/docs"), ("health", .str "/health")]))) else none
  | ["health"] => if req.method == "GET" then some (pure (ok (.obj [("status", .str "ok")]))) else none
  | ["api", "threads"] =>
    if req.method == "GET" then some (listThreads req.query)
    else if req.method == "POST" then some (createThread req.body) else none
  | ["api", "threads", id] => if req.method == "GET" && id != "" then some (showThread id) else none
  | ["api", "threads", id, "messages"] =>
    if req.method == "POST" && id != "" then some (postMessage id req.body) else none
  | ["api", "threads", id, "generate"] => if req.method == "POST" && id != "" then some (generate id) else none
  | ["api", "threads", id, "progress"] => if req.method == "GET" && id != "" then some (progress id) else none
  | ["api", "activities"] => if req.method == "GET" then some (listActivities req.query) else none
  | ["api", "activities", id] =>
    if id == "" then none
    else if req.method == "GET" then some (showActivity id)
    else if req.method == "PATCH" then some (editActivity id req.body) else none
  | ["api", "activities", id, "publish"] => if req.method == "POST" && id != "" then some (publish id) else none
  | ["api", "settings", "llm"] =>
    if req.method == "GET" then some (instrumented "/api/settings/llm" [] describeLlm)
    else if req.method == "PUT" then some (changeLlm req.body) else none
  | _ => none

/-- Answers a request. -/
def serve (req : Request) : Effect Site Response := do
  let parts := segments req.path
  match endpoint req parts with
  | some e =>
    if (← get).unconfigured && !(parts == [""] || parts == ["health"]) then
      pure serverError
    else e
  | none =>
    let known := ["GET", "POST", "PUT", "PATCH", "DELETE"].any fun m => (endpoint { req with method := m } parts).isSome
    pure (if known then detail 405 (.str "Method Not Allowed") else detail 404 (.str "Not Found"))

end Api

end PracticeForge
