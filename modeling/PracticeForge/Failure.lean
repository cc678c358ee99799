import PracticeForge.Schema.Issue
import PracticeForge.Text.Quote
import PracticeForge.Json.Show

/-!
# Failure — why an operation did not finish

Every way an operation of this library can stop early, as a cause with the data its message is
made from.  `Failure.kind` names the class of the failure and `Failure.message` gives its text;
callers outside the library report both.

Expected failures are a flaky model provider (`completion`), an unavailable judge (`sandbox`),
a slot that ran out of attempts (`runFailed`), and requests in the wrong state or for unknown
records.  Defects of the pipeline itself (`invalidTransition`, `plannerInvariant`,
`persistenceInvariant`, `contractDefinition`) are never retried.
-/

namespace PracticeForge

/-- Why an operation stopped. -/
inductive Failure where
  /-- A value does not have the expected shape. -/
  | invalid (issues : List Schema.Issue)
  /-- A table has no entry for the key. -/
  | noKey (key : Json)
  /-- A value is of the right kind but unusable. -/
  | badValue (message : String)
  /-- A value of the wrong kind was given. -/
  | badType (message : String)
  /-- A number is too large for a double. -/
  | overflow (message : String)
  /-- A position is out of range. -/
  | badIndex (message : String)
  /-- A model provider failed. -/
  | completion (provider message : String)
  /-- The judge could not run. -/
  | sandbox (message : String)
  | threadNotFound (id : String)
  | invalidThreadState (message : String)
  | activityNotFound (id : String)
  | activityLocked (message : String)
  /-- A slot used up its attempts; the reason is safe to show. -/
  | runFailed (reason : String) (slot : Option Int)
  | invalidTransition (message : String)
  | plannerInvariant (message : String)
  | persistenceInvariant (message : String)
  | contractDefinition (message : String)
  /-- A scripted stand-in for an outside service was told to fail. -/
  | scripted (message : String)
  /-- A scripted stand-in broke down in a way nothing expects. -/
  | crash (message : String)
  /-- Values nested deeper than a reader allows. -/
  | tooDeep (message : String)
  /-- A reader ran out of the room it works in. -/
  | outOfMemory
  /-- A text holds what UTF-8 cannot encode. -/
  | unencodable (message : String)
  /-- The database refused a call. -/
  | database (message : String)
  /-- A call to the operating system failed, with the class of its error. -/
  | system (cls message : String)
  /-- A request is answered with an error status and a detail. -/
  | http (status : Nat) (detail : Json)
  deriving Repr

namespace Failure

/-- The class of a failure. -/
def kind : Failure → String
  | .invalid _ => "ValidationError"
  | .noKey _ => "KeyError"
  | .badValue _ => "ValueError"
  | .badType _ => "TypeError"
  | .overflow _ => "OverflowError"
  | .badIndex _ => "IndexError"
  | .completion .. => "CompletionError"
  | .sandbox _ => "SandboxError"
  | .threadNotFound _ => "ThreadNotFoundError"
  | .invalidThreadState _ => "InvalidThreadStateError"
  | .activityNotFound _ => "ActivityNotFoundError"
  | .activityLocked _ => "ActivityLockedError"
  | .runFailed .. => "RunFailedError"
  | .invalidTransition _ => "InvalidTransitionError"
  | .plannerInvariant _ => "PlannerInvariantError"
  | .persistenceInvariant _ => "PersistenceInvariantError"
  | .contractDefinition _ => "ContractDefinitionError"
  | .scripted _ => "ScriptError"
  | .crash _ => "RuntimeError"
  | .tooDeep _ => "RecursionError"
  | .outOfMemory => "MemoryError"
  | .unencodable _ => "UnicodeEncodeError"
  | .database _ => "FakeDBError"
  | .system cls _ => cls
  | .http .. => "HTTPException"

/-- The text of a failure. -/
def message : Failure → String
  | .invalid issues => Schema.render issues
  | .noKey key => key.quotedForm
  | .badValue m | .badType m | .overflow m | .badIndex m => m
  | .completion provider m => provider ++ ": " ++ m
  | .sandbox m => m
  | .threadNotFound id => "Thread not found: " ++ id
  | .invalidThreadState m => m
  | .activityNotFound id => "Activity not found: " ++ id
  | .activityLocked m => m
  | .runFailed reason _ => reason
  | .invalidTransition m | .plannerInvariant m | .persistenceInvariant m => m
  | .contractDefinition m => m
  | .scripted m | .crash m | .database m | .tooDeep m | .unencodable m => m
  | .outOfMemory => ""
  | .system _ m => m
  | .http status detail => toString status ++ ": " ++ (detail.getStr?.getD detail.display)

/-- Whether the failure is of a kind that a handler of bad values catches: a value refused, or a
text that cannot be encoded. -/
def isBadValue : Failure → Bool
  | .badValue _ | .unencodable _ => true
  | _ => false

/-- Whether the failure is a defect of the pipeline rather than an expected outcome. -/
def isDefect : Failure → Bool
  | .invalidTransition _ | .plannerInvariant _ | .persistenceInvariant _
  | .contractDefinition _ => true
  | _ => false

/-- A failed lookup of a key in a table: a list or an object cannot be a key at all, and any
other value is simply missing. -/
def lookupFailed (key : Json) : Failure :=
  match key with
  | .arr _ => .badType "unhashable type: 'list'"
  | .obj _ => .badType "unhashable type: 'dict'"
  | k => .noKey k

end Failure

/-- A computation that acts on a state of type `σ` and may stop with a failure; a failure keeps
the state reached so far, as the outside world keeps what was done before an error. -/
abbrev Effect (σ : Type) := ExceptT Failure (StateM σ)

/-- Lifts a result that may be a failure. -/
def Effect.ofExcept {σ α : Type} (r : Except Failure α) : Effect σ α := ExceptT.mk (pure r)

/-- Runs a computation from a state. -/
def Effect.run' {σ α : Type} (e : Effect σ α) (s : σ) : Except Failure α × σ := e.run.run s

/-- Runs a computation on a part of a larger state, seen through `view` and written back with
`update`. -/
def Effect.focus {σ τ α : Type} (view : τ → σ) (update : τ → σ → τ) (e : Effect σ α) :
    Effect τ α :=
  ExceptT.mk fun t => let (r, s) := e.run' (view t); (r, update t s)

end PracticeForge
