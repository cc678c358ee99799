import PracticeForge.Activity.Store

/-!
# Store/Database — threads and activities kept in database tables

The database keeps JSON rows in named tables and answers a handful of queries: rows by id,
rows ordered by a column (newest first) up to a limit, and the insertion, replacement, update
and deletion of a row by id.  Threads live in the table `threads` and activities in
`activities`, each row the record's stored form.

Saving a thread stamps it and replaces its row.  Creating an activity inserts its row and then
saves the thread; if saving the thread fails, the activity's row is deleted again before the
failure goes on.  Updating an activity writes only its title, status and time limit, and
succeeds even when no row has its id.  A row that does not read back as a record is a failure
of the read.
-/

namespace PracticeForge

/-- A row of a table. -/
abbrev Row := List (String × Json)

/-- A query of a database. -/
inductive Query where
  /-- The rows of a table, those with an id when one is given, ordered newest first by a
  column when one is given, up to a limit when one is given; `single` asks for at most one. -/
  | select (table : String) (id : Option String) (newestBy : Option String) (limit : Option Int)
      (single : Bool)
  /-- Adds a row, which must have a new id. -/
  | insert (table : String) (row : Row)
  /-- Replaces the row with the same id, or adds it. -/
  | upsert (table : String) (row : Row)
  /-- Writes some columns of the rows with an id. -/
  | update (table : String) (columns : Row) (id : String)
  /-- Removes the rows with an id. -/
  | delete (table : String) (id : String)
  deriving Repr

namespace Query

/-- The table a query reads or writes. -/
def table : Query → String
  | .select t .. | .insert t _ | .upsert t _ | .update t .. | .delete t _ => t

/-- The name of what a query does. -/
def action : Query → String
  | .select .. => "select"
  | .insert .. => "insert"
  | .upsert .. => "upsert"
  | .update .. => "update"
  | .delete .. => "delete"

end Query

/-- A database over a world of type `σ`: the rows a query gives, or none when a single row was
asked for and there is none. -/
abbrev Database (σ : Type) := Query → Effect σ (Option (List Row))

/-- The fields of a record's JSON form. -/
def rowOf (j : Json) : Row :=
  match j with
  | .obj fs => fs
  | _ => []

namespace Storage

variable {σ : Type}

/-- The first row a query gives, when it is not empty. -/
def firstRow (rows : Option (List Row)) : Option Row :=
  match rows with
  | some (r :: _) => if r.isEmpty then none else some r
  | _ => none

/-- Reads a row as a record. -/
def readRow {α : Type} (check : Json → Schema.Checked α) (r : Row) : Effect σ α :=
  Effect.ofExcept ((check (.obj r)).mapError Failure.invalid)

/-- Saves a thread in its table, stamped with the time. -/
def saveThreadRow (db : Database σ) (now : Effect σ String) (t : Thread) : Effect σ Thread := do
  let t := t.stamp (← now)
  let _ ← db (.upsert "threads" (rowOf t.toJson))
  pure t

/-- The storage of threads and activities in a database, timed by a clock. -/
def ofDatabase (db : Database σ) (now : Effect σ String) : Storage σ where
  getThread id := do
    match firstRow (← db (.select "threads" (some id) none none true)) with
    | some r => pure (some (← readRow Thread.check r))
    | none => pure none
  saveThread := saveThreadRow db now
  listThreads limit := do
    let rows ← db (.select "threads" none (some "updated_at") (some limit) false)
    (rows.getD []).mapM (readRow Thread.check)
  getActivity id := do
    match firstRow (← db (.select "activities" (some id) none none true)) with
    | some r => pure (some (← readRow Activity.check r))
    | none => pure none
  listActivities limit := do
    let rows ← db (.select "activities" none (some "created_at") (some limit) false)
    (rows.getD []).mapM (readRow Activity.check)
  updateActivity a := do
    let columns := (rowOf a.toJson).filter fun e => ["title", "status", "time_limit_seconds"].contains e.1
    let _ ← db (.update "activities" columns a.id)
    pure a
  commitGeneration a t := do
    let created ← now
    let a := if a.createdAt == "" then { a with createdAt := created } else a
    let _ ← db (.insert "activities" (rowOf a.toJson))
    tryCatch (do let _ ← saveThreadRow db now t) fun e => do
      let _ ← db (.delete "activities" a.id)
      throw e

end Storage

end PracticeForge
