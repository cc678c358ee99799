import PracticeForge.Service.Threads
import PracticeForge.Store.Tables
import PracticeForge.Gateway.Scripted
import PracticeForge.Judge.Docker
import PracticeForge.Judge.Scripted

/-!
# Api/Site — the service behind the web interface, its outside services scripted

The site holds what the running service keeps: its settings, the stores (in memory, or in the
database when one is configured), the progress channels, the id counter, the clock and the
completion gateway; and the outside services it talks to, each a replayable stand-in: the
providers' SDKs, the container tool and the database.

Model requests go through the gateway: a provider failure is an expected failure of the call,
anything else a defect.  Judging goes through the container tool in a fresh directory: a tool
that cannot run makes the judge unavailable, anything else is a defect.  Usage events are also
written to the database's `telemetry_events` table when that is asked for and a database is
configured; writing them never fails a request.
-/

namespace PracticeForge

namespace Api

/-- The state of the service and of the stand-ins it talks to. -/
structure Site where
  settings : Settings
  /-- Whether usage events are also written to the database. -/
  eventsToDatabase : Bool
  memory : Memory
  tables : Tables
  bus : ProgressBus
  /-- The ids taken so far. -/
  ids : Nat
  /-- The clock readings taken so far. -/
  clock : Nat
  gateway : CompletionGateway
  sdk : ScriptedSdk
  tool : Judge.ScriptedTool
  /-- The judge's working directories made so far. -/
  dirs : Nat
  /-- Whether the environment's settings failed their checks: the site runs on the defaults,
  and every route that needs a service fails. -/
  unconfigured : Bool

namespace Site

/-- Whether the settings name a database to keep the stores in. -/
def usesDatabase (st : Settings) : Bool := st.supabaseUrl != "" && st.supabaseServiceKey != ""

/-- A site that has done nothing yet. -/
def start (st : Settings) (eventsToDatabase : Bool) (tables : Tables) (tool : Judge.ScriptedTool) :
    Site :=
  ⟨st, eventsToDatabase, Memory.empty, tables, ProgressBus.empty st.progressBufferSize, 0, 0,
    CompletionGateway.fresh st, ScriptedSdk.start [], tool, 0, false⟩

/-- A site set up from environment variables, named in lower case: names that are no setting
are ignored and an empty value counts as unset.  `enable_telemetry_db` set to `1` also writes
usage events to the database.  Settings that fail their checks leave the site unconfigured. -/
def ofEnvironment (env : List (String × String)) (tables : Tables) (tool : Judge.ScriptedTool) :
    Site :=
  let given := env.filter fun (k, v) => v != "" && Settings.names.contains k
  let toDatabase := env.lookup "enable_telemetry_db" == some "1"
  match Settings.check (.obj (given.map fun (k, v) => (k, .str v))) with
  | .ok st => start st toDatabase tables tool
  | .error _ => { start Settings.defaults toDatabase tables tool with unconfigured := true }

/-- Reads the clock. -/
def now : Effect Site String :=
  modifyGet fun w => (Clock.reading (w.clock + 1), { w with clock := w.clock + 1 })

/-- The database. -/
def database : Database Site := fun q => (Tables.run q).focus (·.tables) fun w t => { w with tables := t }

/-- The stores the settings choose. -/
def storage (st : Settings) : Storage Site :=
  if usesDatabase st then Storage.ofDatabase database now
  else Memory.storage.focus (·.memory) fun w m => { w with memory := m }

/-- Acts on the gateway and the SDKs. -/
def onGateway {α : Type} (e : Effect (CompletionGateway × ScriptedSdk) α) : Effect Site α :=
  e.focus (fun w => (w.gateway, w.sdk)) fun w (g, s) => { w with gateway := g, sdk := s }

/-- Asks the configured model. -/
def complete (a : Gateway.Ask) (w : Site) : ModelReply × Site :=
  match (onGateway (CompletionGateway.complete ScriptedSdk.sdk a)).run' w with
  | (.ok s, w) => (.text s, w)
  | (.error (.completion p m), w) => (.unavailable p m, w)
  | (.error f, w) => (.broken f, w)

/-- Makes a working directory for the judge, named apart from those made before. -/
def mkdtemp (w : Site) : String × Site :=
  (Judge.tempDirName w.dirs, { w with dirs := w.dirs + 1 })

/-- Runs a command with the container tool. -/
def runTool : Judge.ProcessRunner Site := fun cmd t timeout w =>
  let (r, tool) := Judge.runProcess Judge.ScriptedTool.start cmd t timeout w.tool
  (r, { w with tool := tool })

/-- Judges files with the container tool, in a directory of its own. -/
def judge (lang : Language) (files : List (String × String)) (suite : String) (w : Site) :
    JudgeReply × Site :=
  let (r, w) := Judge.judge w.settings runTool mkdtemp lang files suite w
  match r with
  | .ok v => (.verdict v, w)
  | .error (.sandbox m) => (.unavailable m, w)
  | .error f => (.broken f, w)

/-- The services of a generation run. -/
def services : Generation.Services Site where
  complete := complete
  judge := judge
  sleep _ w := w
  publish e w := match w.bus.publish "" e with
    | .ok b => { w with bus := b }
    | .error _ => w

/-- Writes a usage event to the database, when asked to; a failure to write it is dropped. -/
def record (payload : Telemetry.Fields) : Effect Site Unit := do
  let w ← get
  if w.eventsToDatabase && usesDatabase w.settings then
    tryCatch (do let _ ← database (.insert "telemetry_events" payload)) fun _ => pure ()

/-- The thread service of a site with the given settings. -/
def service (st : Settings) : ThreadService Site where
  storage := storage st
  services := services
  bus := (·.bus)
  setBus w b := { w with bus := b }
  mintId := mintId.focus (·.ids) fun w n => { w with ids := n }
  backoff := st.generationBackoffSeconds
  record := record

end Site

end Api

end PracticeForge
