import PracticeForge.Store.Database

/-!
# Store/Tables — a database kept in memory, with scripted failures

A stand-in for the hosted database, for replaying the database-backed storage.  Tables hold
rows in the order they were added; a table comes to be when a query first names it.  Every
query is written to a log as its action and table.  A failure rule makes the next few queries
of one action on one table fail; a rule for no query never fires.

Reading rows by a column sorts them by the column's value, newest (greatest) first, rows with
equal values keeping their order; the limit then keeps the first rows as a slice does.
-/

namespace PracticeForge

/-- Makes the next `times` queries of an action on a table fail. -/
structure FailRule where
  table : String
  action : String
  times : Nat
  deriving Repr, Inhabited

/-- A rule from its JSON form: `table`, `op`, and `times`, once when not given. -/
def FailRule.ofJson (j : Json) : FailRule :=
  ⟨((j.get? "table").map Json.display).getD "", ((j.get? "op").map Json.display).getD "",
    (((j.getD "times").getInt?).getD 1).toNat⟩

/-- Tables of rows kept in memory. -/
structure Tables where
  /-- The tables, in the order they came to be, with their rows in the order they were
  added. -/
  tables : List (String × List Row)
  rules : List FailRule
  /-- Every query, as its action and table. -/
  log : List String
  deriving Repr, Inhabited

namespace Tables

/-- The failure the database reports. -/
def dbError (message : String) : Failure := .database message

/-- The id of a row. -/
def rowId (r : Row) : Option Json := Json.lookup r "id"

/-- Whether a row has an id. -/
def hasId (id : String) (r : Row) : Bool := (rowId r).bind Json.getStr? == some id

/-- Replaces the first row with the same id as `x`, or appends `x`. -/
def upsertRow (x : Row) : List Row → List Row
  | [] => [x]
  | y :: ys => if (rowId y).bind Json.getStr? == (rowId x).bind Json.getStr? then x :: ys else y :: upsertRow x ys

/-- Whether one column value comes after another: texts and numbers by their order, all others
equal. -/
def after (a b : Json) : Bool :=
  match a, b with
  | .str x, .str y => decide (y < x)
  | .int x, .int y => decide (y < x)
  | _, _ => false

/-- Rows sorted by a column, greatest first, equal values keeping their order. -/
def newestFirst (column : String) (rows : List Row) : List Row :=
  rows.mergeSort fun a b =>
    !after ((Json.lookup b column).getD .null) ((Json.lookup a column).getD .null)

/-- The rows of a table. -/
def rows (db : Tables) (table : String) : List Row :=
  ((db.tables.find? (·.1 == table)).map (·.2)).getD []

/-- Sets the rows of a table, making it when it is new. -/
def setRows (db : Tables) (table : String) (rs : List Row) : Tables :=
  if db.tables.any (·.1 == table) then
    { db with tables := db.tables.map fun e => if e.1 == table then (table, rs) else e }
  else { db with tables := db.tables ++ [(table, rs)] }

/-- Spends one firing of the first live rule for a query; none when no rule fires. -/
def fire (rules : List FailRule) (q : Query) : Option (List FailRule) :=
  match rules with
  | [] => none
  | r :: rest =>
    if r.table == q.table && r.action == q.action && r.times > 0 then some ({ r with times := r.times - 1 } :: rest)
    else (fire rest q).map (r :: ·)

/-- Answers a query. -/
def run : Database Tables := fun q => do
  let db ← get
  let db := { db with log := db.log ++ [q.action ++ " " ++ q.table] }
  let db := db.setRows q.table (db.rows q.table)
  set db
  if let some rules := fire db.rules q then
    set { db with rules := rules }
    throw (dbError (q.action ++ " on " ++ q.table ++ " failed"))
  let rs := db.rows q.table
  match q with
  | .select _ id column limit single =>
    let found := match id with
      | some i => rs.filter (hasId i)
      | none => rs
    let found := match column with
      | some c => newestFirst c found
      | none => found
    let found := match limit with
      | some n => sliceTo found n
      | none => found
    if single then pure (found.head?.map fun r => [r]) else pure (some found)
  | .insert t row =>
    if rs.any fun r => (rowId r).isSome && (rowId r).bind Json.getStr? == (rowId row).bind Json.getStr? then
      throw (dbError ("duplicate key value violates unique constraint on " ++ t))
    set (db.setRows t (rs ++ [row]))
    pure (some [row])
  | .upsert t row =>
    set (db.setRows t (upsertRow row rs))
    pure (some [row])
  | .update t columns id =>
    let changed := rs.map fun r => if hasId id r then columns.foldl (fun acc (k, v) => Json.setEntry acc k v) r else r
    set (db.setRows t changed)
    pure (some (changed.filter (hasId id)))
  | .delete t id =>
    set (db.setRows t (rs.filter fun r => !hasId id r))
    pure (some [])

end Tables

end PracticeForge
