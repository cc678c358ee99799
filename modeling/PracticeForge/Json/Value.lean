import PracticeForge.Number.Binary64

/-!
# Json/Value — the JSON values this library reads and writes

Numbers keep the distinction the data format draws on the page: a number written without a
fraction or an exponent is an exact integer of any size, any other is a double.  An object is
a list of entries in the order its keys first appeared, with each key once: writing a key that
is already there replaces the value and keeps the place (`Json.setField`).
-/

namespace PracticeForge

/-- A JSON value. -/
inductive Json where
  | null
  | bool (b : Bool)
  | int (n : Int)
  | float (x : Binary64)
  | str (s : String)
  | arr (items : List Json)
  | obj (fields : List (String × Json))
  deriving Inhabited, Repr

namespace Json

/-- The value stored under a key of an entry list, if there is one. -/
def lookup (fields : List (String × Json)) (key : String) : Option Json :=
  match fields.find? (·.1 == key) with
  | some (_, v) => some v
  | none => none

/-- Writes a key into an entry list: an existing key keeps its place and takes the new
value, a new key goes last. -/
def setEntry (fields : List (String × Json)) (key : String) (v : Json) : List (String × Json) :=
  if fields.any (·.1 == key) then fields.map fun e => if e.1 == key then (key, v) else e
  else fields ++ [(key, v)]

/-- The value under `key` when this is an object. -/
def get? (j : Json) (key : String) : Option Json :=
  match j with
  | .obj fields => lookup fields key
  | _ => none

/-- The value under `key`, or `null` when it is absent or this is no object. -/
def getD (j : Json) (key : String) : Json := (j.get? key).getD .null

/-- Whether this object has the key. -/
def hasKey (j : Json) (key : String) : Bool := (j.get? key).isSome

/-- Writes a field into an object; other values are left as they are. -/
def setField (j : Json) (key : String) (v : Json) : Json :=
  match j with
  | .obj fields => .obj (setEntry fields key v)
  | other => other

/-- The object's keys in order; no keys for other values. -/
def keys (j : Json) : List String :=
  match j with
  | .obj fields => fields.map (·.1)
  | _ => []

/-- The string, when this is one. -/
def getStr? : Json → Option String
  | .str s => some s
  | _ => none

/-- The integer, when this is one. -/
def getInt? : Json → Option Int
  | .int n => some n
  | _ => none

/-- The boolean, when this is one. -/
def getBool? : Json → Option Bool
  | .bool b => some b
  | _ => none

/-- The items, when this is an array. -/
def getArr? : Json → Option (List Json)
  | .arr xs => some xs
  | _ => none

/-- The entries, when this is an object. -/
def getObj? : Json → Option (List (String × Json))
  | .obj fs => some fs
  | _ => none

/-- Whether this is `null`. -/
def isNull : Json → Bool
  | .null => true
  | _ => false

/-- An object built from entries, a later key replacing an earlier one in its place. -/
def ofEntries (entries : List (String × Json)) : Json :=
  .obj (entries.foldl (fun acc e => setEntry acc e.1 e.2) [])

/-- A string, or `null` for none. -/
def ofStrOpt : Option String → Json
  | some s => .str s
  | none => .null

/-- An integer, or `null` for none. -/
def ofIntOpt : Option Int → Json
  | some n => .int n
  | none => .null

/-- A list of strings. -/
def ofStrs (xs : List String) : Json := .arr (xs.map .str)

/-- Whether a value counts as given: `null`, `false`, zero, and empty texts, lists and
objects do not. -/
def truthy : Json → Bool
  | .null => false
  | .bool b => b
  | .int n => n != 0
  | .float x => x.bits &&& 0x7FFFFFFFFFFFFFFF != 0
  | .str s => !s.isEmpty
  | .arr xs => !xs.isEmpty
  | .obj fs => !fs.isEmpty

end Json

end PracticeForge
