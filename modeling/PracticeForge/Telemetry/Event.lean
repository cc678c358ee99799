import PracticeForge.Json.Show
import PracticeForge.Failure

/-!
# Telemetry/Event — usage events and their payloads

An event is one flat record: its name, the route it concerns, a version, and the fields given
with it, those without a value left out.  The clock's reading is added when the event is written
and is not part of what is modelled here.

A timed block gets a record of extra fields it may fill; when it ends, the event is written
with those fields, whether the block ended well (`ok` unless the block set it) or failed (`ok`
false and the failure's kind), and with the time it took.  An instrumented call is a timed block
named `api_call` that carries the call's thread and activity ids.

The names `event`, `route` and `version` belong to the event itself: fields of those names are
refused the way a call refuses an argument given twice.
-/

namespace PracticeForge

namespace Telemetry

/-- The fields of an event, in the order they were given. -/
abbrev Fields := List (String × Json)

/-- The qualified prefix under which the event functions name themselves. -/
def modulePrefix : String := "codecraft.services.telemetry."

/-- The refusal of a call of `fn` whose extra fields repeat one of its named arguments: a
keyword one first, in the order the fields are given, then the event's name. -/
def clash (fn : String) (fields : Fields) : Option Failure :=
  match fields.find? fun e => e.1 == "route" || e.1 == "version" with
  | some (k, _) =>
    some (.badType (modulePrefix ++ fn ++ "() got multiple values for keyword argument '" ++ k ++ "'"))
  | none =>
    if fields.any (·.1 == "event") then
      some (.badType (fn ++ "() got multiple values for argument 'event'"))
    else none

/-- Sets a field, in its place when it is there and last otherwise. -/
def Fields.set (fs : Fields) (k : String) (v : Json) : Fields :=
  if fs.any (·.1 == k) then fs.map fun e => if e.1 == k then (k, v) else e else fs ++ [(k, v)]

/-- Sets a field only when it is not there. -/
def Fields.setDefault (fs : Fields) (k : String) (v : Json) : Fields :=
  if fs.any (·.1 == k) then fs else fs ++ [(k, v)]

/-- Sets every field of `more`, in its order. -/
def Fields.update (fs more : Fields) : Fields := more.foldl (fun acc e => acc.set e.1 e.2) fs

/-- The payload of an event, without the clock's reading: the name, route and version, then the
fields that have a value. -/
def emit (event route version : Json) (fields : Fields) : Except Failure Fields :=
  match clash "emit_event" fields with
  | some f => .error f
  | none => .ok ([("event", event), ("route", route), ("version", version)] ++
      fields.filter fun e => !e.2.isNull && e.1 != "ts")

/-- Runs a block with a record of extra fields and writes the event when it ends, `latencyMs`
being the time it took.  Gives the block's result (or a refusal of the fields, which replaces
it) and the events written. -/
def timed {α : Type} (event route version : Json) (fields : Fields) (latencyMs : Nat)
    (block : Fields → Except Failure α × Fields) : Except Failure α × List Fields :=
  match clash "timed" fields with
  | some f => (.error f, [])
  | none =>
    let (r, extra) := block fields
    let extra := match r with
      | .ok _ => extra.setDefault "ok" (.bool true)
      | .error e => (extra.set "ok" (.bool false)).set "error_type" (.str e.kind)
    let extra := extra.set "latency_ms" (.int latencyMs)
    match emit event route version extra with
    | .ok p => (r, [p])
    | .error f => (.error f, [])

/-- An instrumented call of a route: a timed `api_call` event carrying the thread and activity
ids of the call's keyword arguments. -/
def instrument {α : Type} (route version : Json) (kwargs : Fields) (latencyMs : Nat)
    (call : Except Failure α) : Except Failure α × List Fields :=
  let ids := ["thread_id", "activity_id"].map fun k => (k, (Json.lookup kwargs k).getD .null)
  timed (.str "api_call") route version ids latencyMs fun extra => (call, extra)

end Telemetry

end PracticeForge
