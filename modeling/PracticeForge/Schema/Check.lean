import PracticeForge.Schema.Issue
import PracticeForge.Schema.Instant
import PracticeForge.Json.Value
import PracticeForge.Number.Numeral
import PracticeForge.Number.Shortest
import PracticeForge.Text.Surrogate
import PracticeForge.Text.Words

/-!
# Schema/Check — reading records out of JSON values

A `Checked` value is a result or the list of faults found.  The checks are lenient the way
record schemas of this library are: an integer field takes an integer, a boolean, a double with
no fraction inside the 64-bit range, or a text that spells an integer (`Numeral.checkInt?`); a
boolean field takes `0` and `1` (also as doubles) and the usual words; a double field takes any
number or a text that spells one; a text field takes only a text.  A record checks every field
and reports the faults of all of them, in field order.
-/

namespace PracticeForge

namespace Schema

/-- A value read from JSON, or the faults found. -/
abbrev Checked (α : Type) := Except (List Issue) α

/-- A fault at the value itself. -/
def fault {α : Type} (k : IssueKind) : Checked α := .error [⟨[], k⟩]

/-- The faults of a result, none when it succeeded. -/
def issuesOf {α : Type} : Checked α → List Issue
  | .ok _ => []
  | .error is => is

/-- A check seen from a field or position of the whole. -/
def at_ {α : Type} (s : Step) (c : Checked α) : Checked α :=
  match c with
  | .ok a => .ok a
  | .error is => .error (under s is)

/-- The entries of an object, or a fault for any other value. -/
def entries (j : Json) : Checked (List (String × Json)) :=
  match j with
  | .obj fs => .ok fs
  | _ => fault .modelType

/-- Reads a field: present, it is checked; absent, it takes its default or is missing. -/
def field {α : Type} (fs : List (String × Json)) (name : String) (check : Json → Checked α)
    (dflt : Option α) : Checked α :=
  match Json.lookup fs name with
  | some v => at_ (.key name) (check v)
  | none =>
    match dflt with
    | some d => .ok d
    | none => .error [⟨[.key name], .missing⟩]

/-- Faults for the keys that a closed record does not know. -/
def extraKeys (fs : List (String × Json)) (known : List String) : List Issue :=
  (fs.filter fun e => !known.contains e.1).map fun e => ⟨[.key e.1], .extraForbidden⟩

/-- A text. -/
def str (j : Json) : Checked String :=
  match j with
  | .str s => .ok s
  | _ => fault .stringType

/-- A point in time, kept as it was written: a text naming an instant, or a number of seconds
(`Instant` says which are allowed). -/
def instant (j : Json) : Checked String :=
  match j with
  | .str s =>
    match Instant.read s with
    | .instant => .ok s
    | .yearZero => fault .datetimeParsing
    | .unreadable => fault .datetimeFromDateParsing
  | .int n => if Instant.secondsOk n then .ok (toString n) else fault .datetimeParsing
  | .float x => if Instant.doubleOk x then .ok (Binary64.toText x) else fault .datetimeParsing
  | _ => fault .datetimeType

/-- A text of at least `n` characters.  Its length is counted on the text as UTF-8 holds it, so
a text holding a surrogate that stands alone is refused first. -/
def strMin (n : Nat) (j : Json) : Checked String := do
  let s ← str j
  if s.toList.any Text.isStandIn then fault .stringUnicode
  else if s.length < n then fault .stringTooShort else pure s

/-- The whole number a double holds, when it has no fraction and lies strictly between
`-2^63` and `2^63`. -/
def wholeOfDouble (x : Binary64) : Checked Int :=
  match x.form with
  | .nan | .inf _ => fault .finiteNumber
  | _ =>
    match x.truncate? with
    | some n =>
      if !x.isInteger then fault .intFromFloat
      else if n ≤ -(Nat.pow 2 63 : Int) ∨ (Nat.pow 2 63 : Int) ≤ n then fault .intParsingSize
      else .ok n
    | none => fault .intFromFloat

/-- An integer. -/
def int (j : Json) : Checked Int :=
  match j with
  | .int n => .ok n
  | .bool b => .ok (if b then 1 else 0)
  | .float x => wholeOfDouble x
  | .str s => match Numeral.checkInt? s with
    | .ok n => .ok n
    | .error .parsing => fault .intParsing
    | .error .size => fault .intParsingSize
  | _ => fault .intType

/-- An integer of at least `lo`. -/
def intAtLeast (lo : Int) (j : Json) : Checked Int := do
  let n ← int j
  if n < lo then fault .greaterThanEqual else pure n

/-- An integer between `lo` and `hi`. -/
def intBetween (lo hi : Int) (j : Json) : Checked Int := do
  let n ← int j
  if n < lo then fault .greaterThanEqual else if hi < n then fault .lessThanEqual else pure n

/-- The boolean of a whole number: `0` and `1` only. -/
def boolOfWhole (n : Int) : Checked Bool :=
  if n = 0 then .ok false else if n = 1 then .ok true else fault .boolParsing

/-- A boolean.  A number must be a 64-bit whole number to be read at all (any other is of the
wrong kind), and then must be `0` or `1`. -/
def bool (j : Json) : Checked Bool :=
  match j with
  | .bool b => .ok b
  | .int n =>
    if -(Nat.pow 2 63 : Int) ≤ n ∧ n < (Nat.pow 2 63 : Int) then boolOfWhole n else fault .boolType
  | .float x =>
    match wholeOfDouble x with
    | .ok n => boolOfWhole n
    | .error _ => fault .boolType
  | .str s =>
    let t := s.toLower
    if ["0", "off", "f", "false", "n", "no"].contains t then .ok false
    else if ["1", "on", "t", "true", "y", "yes"].contains t then .ok true
    else fault .boolParsing
  | _ => fault .boolType

/-- A double: a number (an integer too large for a double is of the wrong kind), a boolean,
or a text that spells one (`Numeral.checkFloat?`). -/
def double (j : Json) : Checked Binary64 :=
  match j with
  | .float x => .ok x
  | .int n =>
    match Binary64.ofInt? n with
    | some x => .ok x
    | none => fault .floatType
  | .bool b => .ok (Binary64.ofRatio false (if b then 1 else 0) 1)
  | .str s =>
    match Numeral.checkFloat? s with
    | some x => .ok x
    | none => fault .floatParsing
  | _ => fault .floatType

/-- One of the given texts. -/
def literal (choices : List String) (j : Json) : Checked String :=
  match j with
  | .str s => if choices.contains s then .ok s else fault .literalError
  | _ => fault .literalError

/-- A value that may be `null`. -/
def nullable {α : Type} (check : Json → Checked α) (j : Json) : Checked (Option α) :=
  match j with
  | .null => .ok none
  | _ => (check j).map some

/-- Checks every item, reporting the faults of all of them by position; also yields the items
that passed. -/
def items {α : Type} (check : Json → Checked α) (xs : List Json) : List α × List Issue :=
  let rec go (i : Nat) : List Json → List α × List Issue
    | [] => ([], [])
    | x :: rest =>
      let (oks, errs) := go (i + 1) rest
      match check x with
      | .ok a => (a :: oks, errs)
      | .error is => (oks, under (.index i) is ++ errs)
  go 0 xs

/-- A list. -/
def list {α : Type} (check : Json → Checked α) (j : Json) : Checked (List α) :=
  match j with
  | .arr xs =>
    let (oks, errs) := items check xs
    if errs.isEmpty then .ok oks else .error errs
  | _ => fault .listType

/-- A fixed sequence of at least `n` items; too few passing items is a fault of its own. -/
def tupleMin {α : Type} (n : Nat) (check : Json → Checked α) (j : Json) : Checked (List α) :=
  match j with
  | .arr xs =>
    let (oks, errs) := items check xs
    let errs := if oks.length < n then errs ++ [⟨[], .tooShort⟩] else errs
    if errs.isEmpty then .ok oks else .error errs
  | _ => fault .tupleType

/-- A list of at least `n` items. -/
def listMin {α : Type} (n : Nat) (check : Json → Checked α) (j : Json) : Checked (List α) :=
  match j with
  | .arr xs =>
    let (oks, errs) := items check xs
    let errs := if errs.isEmpty && oks.length < n then [⟨[], .tooShort⟩] else errs
    if errs.isEmpty then .ok oks else .error errs
  | _ => fault .listType

end Schema

end PracticeForge
