import PracticeForge.Spec.Draft
import PracticeForge.Failure

/-!
# Chat/Thread — a conversation that settles a spec

A thread holds the chat between a learner and the assistant, the spec agreed so far, the hard
fields the learner has committed to, and a change waiting for the learner's yes.  Its state
moves along a fixed graph:

    DRAFT ─▸ CLARIFYING ⇄ READY ─▸ GENERATING ─▸ SAVED
                 │          │           │
                 └──────────┴───────────┴──▸ FAILED

`CLARIFYING` and `READY` may also stay where they are; `SAVED` and `FAILED` are final.  Only
`DRAFT`, `CLARIFYING` and `READY` take chat messages.
-/

namespace PracticeForge

open Schema

/-- Where a thread stands. -/
inductive ThreadState where
  | draft
  | clarifying
  | ready
  | generating
  | saved
  | failed
  deriving DecidableEq, Repr, Inhabited

namespace ThreadState

/-- All states. -/
def all : List ThreadState := [.draft, .clarifying, .ready, .generating, .saved, .failed]

/-- The name of a state. -/
def name : ThreadState → String
  | .draft => "DRAFT"
  | .clarifying => "CLARIFYING"
  | .ready => "READY"
  | .generating => "GENERATING"
  | .saved => "SAVED"
  | .failed => "FAILED"

/-- The state with a name. -/
def ofName? (s : String) : Option ThreadState := all.find? (·.name == s)

/-- Reads a state from its name; any other value is refused, named as written. -/
def ofJson (j : Json) : Except Failure ThreadState :=
  match j.getStr?.bind ofName? with
  | some s => pure s
  | none => throw (.badValue (j.quotedForm ++ " is not a valid ThreadState"))

/-- The states a thread may move to from a state. -/
def next : ThreadState → List ThreadState
  | .draft => [.clarifying, .ready]
  | .clarifying => [.clarifying, .ready, .failed]
  | .ready => [.clarifying, .ready, .generating, .failed]
  | .generating => [.saved, .failed]
  | .saved => []
  | .failed => []

/-- Whether a thread in this state takes chat messages. -/
def isChat : ThreadState → Bool
  | .draft | .clarifying | .ready => true
  | _ => false

end ThreadState

/-- Who wrote a message. -/
inductive Role where
  | user
  | assistant
  deriving DecidableEq, Repr, Inhabited

/-- The name of a role. -/
def Role.name : Role → String
  | .user => "user"
  | .assistant => "assistant"

/-- One chat message. -/
structure Message where
  role : Role
  content : String
  /-- When the message was first stored; empty until then. -/
  createdAt : String
  deriving Repr, Inhabited

/-- How the problems of an activity are offered. -/
inductive LearningMode where
  | practice
  /-- Public function bodies of Python problems are stubbed out as TODO blocks. -/
  | guided
  deriving DecidableEq, Repr, Inhabited

/-- The name of a mode. -/
def LearningMode.name : LearningMode → String
  | .practice => "practice"
  | .guided => "guided"

/-- Reads a mode. -/
def LearningMode.check (j : Json) : Checked LearningMode := do
  let s ← literal ["practice", "guided"] j
  pure (if s == "guided" then .guided else .practice)

/-- A change to hard fields waiting for the learner's yes. -/
structure PendingPatch where
  fields : List (String × Json)
  question : String
  questionKey : String
  deriving Repr, Inhabited

/-- A conversation. -/
structure Thread where
  id : String
  state : ThreadState
  learningMode : LearningMode
  spec : SpecDraft
  messages : List Message
  commitments : List String
  pending : Option PendingPatch
  activityId : Option String
  lastError : Option String
  /-- When the thread was first stored; empty until then. -/
  createdAt : String
  /-- When the thread was last stored; empty until then. -/
  updatedAt : String
  deriving Repr

namespace Thread

/-- A new thread. -/
def fresh (id : String) (mode : LearningMode) : Thread :=
  ⟨id, .draft, mode, SpecDraft.empty, [], [], none, none, none, "", ""⟩

/-- The thread as stored at time `now`: last stored now, and first stored now unless it was
before, as are its messages. -/
def stamp (t : Thread) (now : String) : Thread :=
  { t with
    createdAt := if t.createdAt == "" then now else t.createdAt
    updatedAt := now
    messages := t.messages.map fun m => if m.createdAt == "" then { m with createdAt := now } else m }

/-- Moves to a state the graph allows. -/
def transitionTo (t : Thread) (s : ThreadState) : Except Failure Thread :=
  if t.state.next.contains s then pure { t with state := s }
  else throw (.invalidTransition (t.state.name ++ " -> " ++ s.name ++ " is not allowed"))

/-- Records a commitment to a field, once. -/
def commit (t : Thread) (field : String) : Thread :=
  if t.commitments.contains field then t else { t with commitments := t.commitments ++ [field] }

/-- Appends a message. -/
def addMessage (t : Thread) (role : Role) (content : String) : Thread :=
  { t with messages := t.messages ++ [⟨role, content, ""⟩] }

/-- The JSON form of a pending change. -/
def pendingJson (p : PendingPatch) : Json :=
  .obj [("fields", .obj p.fields), ("question", .str p.question), ("question_key", .str p.questionKey)]

/-- The JSON form of a message. -/
def messageJson (m : Message) : Json :=
  .obj [("role", .str m.role.name), ("content", .str m.content), ("created_at", .str m.createdAt)]

/-- The JSON form. -/
def toJson (t : Thread) : Json :=
  .obj [("id", .str t.id), ("state", .str t.state.name), ("learning_mode", .str t.learningMode.name),
    ("spec", t.spec.toJson), ("messages", .arr (t.messages.map messageJson)),
    ("commitments", Json.ofStrs t.commitments),
    ("pending", (t.pending.map pendingJson).getD .null),
    ("activity_id", Json.ofStrOpt t.activityId), ("last_error", Json.ofStrOpt t.lastError),
    ("created_at", .str t.createdAt), ("updated_at", .str t.updatedAt)]

/-- Reads a role. -/
def checkRole (j : Json) : Checked Role := do
  let s ← literal ["user", "assistant"] j
  pure (if s == "user" then .user else .assistant)

/-- Reads a message. -/
def checkMessage (j : Json) : Checked Message := do
  let fs ← entries j
  let role := field fs "role" checkRole none
  let content := field fs "content" str none
  let created := field fs "created_at" instant (some "")
  match role, content, created with
  | .ok r, .ok c, .ok t => pure ⟨r, c, t⟩
  | _, _, _ => .error (issuesOf role ++ issuesOf content ++ issuesOf created)

/-- Reads a pending change. -/
def checkPending (j : Json) : Checked PendingPatch := do
  let fs ← entries j
  let fields := field fs "fields" (fun v => match v with
    | .obj e => .ok e
    | _ => fault .dictType) none
  let question := field fs "question" str none
  let key := field fs "question_key" str none
  match fields, question, key with
  | .ok f, .ok q, .ok k => pure ⟨f, q, k⟩
  | _, _, _ => .error (issuesOf fields ++ issuesOf question ++ issuesOf key)

/-- Reads a state by its name. -/
def checkState (j : Json) : Checked ThreadState :=
  match j.getStr?.bind ThreadState.ofName? with
  | some s => .ok s
  | none => fault .enum

/-- Reads a thread; every field but `id` has a default. -/
def check (j : Json) : Checked Thread := do
  let fs ← entries j
  let id := field fs "id" str none
  let state := field fs "state" checkState (some .draft)
  let mode := field fs "learning_mode" LearningMode.check (some .practice)
  let spec := field fs "spec" SpecDraft.check (some SpecDraft.empty)
  let messages := field fs "messages" (list checkMessage) (some [])
  let commitments := field fs "commitments" (list str) (some [])
  let pending := field fs "pending" (nullable checkPending) (some none)
  let activity := field fs "activity_id" (nullable str) (some none)
  let lastError := field fs "last_error" (nullable str) (some none)
  let created := field fs "created_at" instant (some "")
  let updated := field fs "updated_at" instant (some "")
  match id, state, mode, spec, messages, commitments, pending, activity, lastError, created, updated with
  | .ok i, .ok s, .ok m, .ok sp, .ok ms, .ok cs, .ok p, .ok a, .ok e, .ok c, .ok u =>
    pure ⟨i, s, m, sp, ms, cs, p, a, e, c, u⟩
  | _, _, _, _, _, _, _, _, _, _, _ =>
    .error (issuesOf id ++ issuesOf state ++ issuesOf mode ++ issuesOf spec ++ issuesOf messages ++
      issuesOf commitments ++ issuesOf pending ++ issuesOf activity ++ issuesOf lastError ++
      issuesOf created ++ issuesOf updated)

/-- The view of a thread that answers show: its state, spec, commitments, pending change,
activity, last error and messages. -/
def view (t : Thread) (withMessages : Bool) : Json :=
  .obj ([("state", .str t.state.name), ("spec", t.spec.toJson), ("commitments", Json.ofStrs t.commitments),
    ("pending", (t.pending.map pendingJson).getD .null), ("activity_id", Json.ofStrOpt t.activityId),
    ("last_error", Json.ofStrOpt t.lastError)] ++
    (if withMessages then
      [("messages", .arr (t.messages.map fun m => .arr [.str m.role.name, .str m.content]))]
    else []))

/-- A summary for listings. -/
def summary (t : Thread) : Json :=
  .obj [("id", .str t.id), ("state", .str t.state.name), ("learning_mode", .str t.learningMode.name),
    ("activity_id", Json.ofStrOpt t.activityId), ("message_count", .int t.messages.length),
    ("last_message", Json.ofStrOpt (t.messages.getLast?.map (·.content))),
    ("created_at", .str t.createdAt), ("updated_at", .str t.updatedAt)]

end Thread

end PracticeForge
