import PracticeForge.Progress.Event
import PracticeForge.Schema.Check
import PracticeForge.Failure
import PracticeForge.Text.Case
import PracticeForge.Text.Utf8

/-!
# Api/Exchange — requests and responses of the web interface

A request names a method and a path, and may carry a JSON body and query parameters.  A
client builds it from a method, a target and parameters (`Request.ofTarget`): the method in
capitals, the target's fragment dropped and its query merged with the parameters, and the path
freed of `.` and `..` segments and of percent escapes.  A response has a status and a body:
JSON, plain text, or a stream of progress events that may or may not end.  Bodies that fail validation are answered with status 422 and the list of faults,
each with its kind and its location: where it was (`body` or `query`) and the path inside.
-/

namespace PracticeForge

namespace Api

/-- A request. -/
structure Request where
  method : String
  path : String
  body : Option Json
  query : List (String × String)
  deriving Repr, Inhabited

/-- The value of a hexadecimal digit. -/
def hexDigit? (c : Char) : Option Nat :=
  if '0' ≤ c && c ≤ '9' then some (c.toNat - '0'.toNat)
  else if 'a' ≤ c && c ≤ 'f' then some (c.toNat - 'a'.toNat + 10)
  else if 'A' ≤ c && c ≤ 'F' then some (c.toNat - 'A'.toNat + 10)
  else none

/-- Decodes percent escapes: each run of ASCII characters and escapes `%XX` is read as UTF-8
bytes (a malformed sequence as one replacement character); a `%` without two hexadecimal
digits after it stays as it is.  `run` holds the bytes of the current run. -/
def percentDecodeFrom : List Char → ByteArray → String → String
  | [], run, acc => acc ++ Text.decodeLossy run
  | c :: rest, run, acc =>
    if c.toNat < 128 then
      let escaped : Option Nat := if c == '%' then
          match rest with
          | a :: b :: _ => do pure ((← hexDigit? a) * 16 + (← hexDigit? b))
          | _ => none
        else none
      match escaped with
      | some byte => percentDecodeFrom (rest.drop 2) (run.push byte.toUInt8) acc
      | none => percentDecodeFrom rest (run.push c.toNat.toUInt8) acc
    else percentDecodeFrom rest ByteArray.empty ((acc ++ Text.decodeLossy run).push c)
termination_by cs => cs.length
decreasing_by all_goals (simp only [List.length_drop, List.length_cons]; omega)

/-- A text with its percent escapes decoded. -/
def percentDecode (s : String) : String := percentDecodeFrom s.toList ByteArray.empty ""

/-- A path without its `.` segments, each `..` segment taking away the one before it (but
never the root). -/
def dropDotSegments (path : String) : String :=
  let parts := path.splitOn "/"
  if !(parts.contains "." || parts.contains "..") then path
  else
    "/".intercalate (parts.foldl (fun out part =>
      if part == "." then out
      else if part == ".." then (if out.isEmpty || out == [""] then out else out.dropLast)
      else out ++ [part]) [])

/-- The fields of a query: parted by `&`, each a name and a value parted by the first `=` (a
field without one has an empty value), `+` read as a space and percent escapes decoded; empty
fields are skipped. -/
def queryFields (q : String) : List (String × String) :=
  let decode (t : String) : String := percentDecode (String.ofList (t.toList.map fun c => if c == '+' then ' ' else c))
  (q.splitOn "&").filterMap fun field =>
    if field.isEmpty then none
    else
      match field.splitOn "=" with
      | [name] => some (decode name, "")
      | name :: rest => some (decode name, decode ("=".intercalate rest))
      | [] => none

/-- The query of a target merged with parameters: a parameter's values replace those of its
name in the target, in the target's order, and the other parameters follow. -/
def mergeQuery (fields : List (String × String)) (params : List (String × List String)) :
    List (String × String) :=
  let names := fields.foldl (fun ns (k, _) => if ns.contains k then ns else ns ++ [k]) []
  let valuesOf (k : String) : List String :=
    match params.lookup k with
    | some vs => vs
    | none => (fields.filter (·.1 == k)).map (·.2)
  (names.flatMap fun k => (valuesOf k).map (k, ·)) ++
    (params.filter fun (k, _) => !names.contains k).flatMap fun (k, vs) => vs.map (k, ·)

/-- The request a client sends for a method, a target (a path, perhaps with a query and a
fragment), query parameters and a body.  A target starting with `//` names a host first, which
is dropped with it; leading slashes are folded into one; the path is decoded twice, once by the
client and once by the server. -/
def Request.ofTarget (method target : String) (params : List (String × List String))
    (body : Option Json) : Request :=
  let cs := target.toList.takeWhile (· != '#')
  let cs := match cs with
    | '/' :: '/' :: rest => rest.dropWhile fun c => c != '/' && c != '?'
    | cs => cs
  let pathPart := cs.takeWhile (· != '?')
  let query := match cs.drop pathPart.length with
    | '?' :: q => queryFields (String.ofList q)
    | _ => []
  let path := dropDotSegments ("/" ++ String.ofList (pathPart.dropWhile (· == '/')))
  ⟨Text.upper method, percentDecode (percentDecode path), body, mergeQuery query params⟩

/-- The texts a client sends for a query parameter's value: `true` or `false` for a boolean,
an empty text for null, one text for each item of a list, and a value's printed form
otherwise. -/
def paramTexts (v : Json) : List String :=
  let one (j : Json) : String :=
    match j with
    | .bool b => if b then "true" else "false"
    | .null => ""
    | j => j.display
  match v with
  | .arr xs => xs.map one
  | j => [one j]

/-- The body of a response. -/
inductive Body where
  | json (j : Json)
  | text (s : String)
  /-- Server-sent progress events; `ends` tells whether the stream ends after them. -/
  | events (es : List ProgressEvent) (ends : Bool)

/-- A response. -/
structure Response where
  status : Nat
  body : Body
  headers : List (String × String)

/-- A JSON response with status 200. -/
def ok (j : Json) : Response := ⟨200, .json j, []⟩

/-- An error response carrying a detail. -/
def detail (status : Nat) (d : Json) : Response := ⟨status, .json (.obj [("detail", d)]), []⟩

/-- The location of a fault as a list of parts. -/
def location (place : String) (i : Schema.Issue) : Json :=
  .arr (.str place :: i.path.map fun
    | .key k => .str k
    | .index n => .int n)

/-- The answer to a request whose parameters do not validate. -/
def unprocessable (place : String) (issues : List Schema.Issue) : Response :=
  detail 422 (.arr (issues.map fun i =>
    .obj [("type", .str i.kind.code), ("loc", location place i)]))

/-- The bare answer to a request the server could not serve. -/
def serverError : Response := ⟨500, .text "Internal Server Error", []⟩

/-- The answer to a request that failed: an error status with its detail, a pipeline defect
named by its kind, or a bare server error. -/
def ofFailure (f : Failure) : Response :=
  match f with
  | .http status d => detail status d
  | f =>
    if f.isDefect then
      ⟨500, .json (.obj [("detail", .str "Internal pipeline error"), ("error_type", .str f.kind)]), []⟩
    else serverError

end Api

end PracticeForge
