import PracticeForge.Spec.Draft
import PracticeForge.Spec.Profile
import PracticeForge.Json.Show
import PracticeForge.Text.Digit
import PracticeForge.Text.Quote
import PracticeForge.Number.Numeral

/-!
# Spec/Patch — checking the spec values a model proposes

A model proposes spec values as a JSON object it was asked for, and anything may come back.
Each of the seven fields is checked on its own: absent or `null` it is unset, otherwise it is
valid with a clean value or invalid with a reason a learner can read.  Keys that are not spec
fields are dropped.  Then a valid plan must add up to the count: the count of the same patch
when it has one, otherwise the count already agreed.

The clean values: a language from its aliases; a count from one to seven (an integer, a double
with no fraction, or digits in a text); a plan with the counts of each difficulty merged and
zero counts left out, given as a list of entries or as an object from difficulty to count, and
summing to at most seven; up to twelve distinct topics (compared in lower case), each with its
blanks squeezed and cut to 48 characters; a style from its words; and constraints and focus
trimmed, within 2000 and 4000 characters.
-/

namespace PracticeForge

/-- A clean spec value. -/
inductive SpecValue where
  | language (l : Language)
  | count (n : Nat)
  | plan (p : List DifficultyCount)
  | tags (t : List String)
  | style (s : Style)
  | text (s : String)
  deriving Repr

/-- The JSON form of a clean value. -/
def SpecValue.toJson : SpecValue → Json
  | .language l => .str l.id
  | .count n => .int n
  | .plan p => .arr (p.map DifficultyCount.toJson)
  | .tags t => Json.ofStrs t
  | .style s => .str s.id
  | .text s => .str s

/-- What a patch says about one field. -/
inductive FieldPatch where
  | unset
  | invalid (reason : String)
  | valid (value : SpecValue)
  deriving Repr

/-- A checked patch: what it says about each field, in spec order, and the keys it dropped. -/
structure SpecPatch where
  fields : List (SpecField × FieldPatch)
  dropped : List String
  deriving Repr

namespace SpecPatch

/-- What the patch says about a field. -/
def get (p : SpecPatch) (f : SpecField) : FieldPatch :=
  match p.fields.find? (·.1 == f) with
  | some (_, v) => v
  | none => .unset

/-- The valid values, in spec order. -/
def validValues (p : SpecPatch) : List (SpecField × SpecValue) :=
  p.fields.filterMap fun (f, v) => match v with
    | .valid x => some (f, x)
    | _ => none

/-- The reasons of the invalid fields, in spec order. -/
def rejected (p : SpecPatch) : List (SpecField × String) :=
  p.fields.filterMap fun (f, v) => match v with
    | .invalid r => some (f, r)
    | _ => none

/-- Whether no field is valid. -/
def isEmpty (p : SpecPatch) : Bool := p.validValues.isEmpty

/-- The JSON form: each field's verdict, the dropped keys, the valid values, the rejections,
and whether the patch is empty. -/
def toJson (p : SpecPatch) : Json :=
  .obj [("fields", .obj (p.fields.map fun (f, v) => (f.name, match v with
      | .unset => .obj [("status", .str "unset")]
      | .invalid r => .obj [("status", .str "invalid"), ("reason", .str r)]
      | .valid x => .obj [("status", .str "valid"), ("value", x.toJson)]))),
    ("dropped", Json.ofStrs p.dropped),
    ("valid_values", .obj (p.validValues.map fun (f, x) => (f.name, x.toJson))),
    ("rejected", .obj (p.rejected.map fun (f, r) => (f.name, .str r))),
    ("is_empty", .bool p.isEmpty)]

end SpecPatch

namespace Patch

/-- Reads an integer out of a proposed value: an integer, a double with no fraction, or a text
of digits with blanks around it.  A text of digit forms that are not decimal digits (such as
superscripts) is refused with the message a number reading gives. -/
def asInt (v : Json) : Except String Int :=
  match v with
  | .int n => pure n
  | .float x =>
    if x.isInteger then
      match x.truncate? with
      | some n => pure n
      | none => throw "not an integer"
    else throw "not an integer"
  | .str s =>
    let t := Text.trim s
    if !t.isEmpty && t.toList.all Text.isDigitForm then Numeral.intOfText t
    else throw "not an integer"
  | _ => throw "not an integer"

/-- The text of an integer. -/
def intText (n : Int) : String := if n < 0 then "-" ++ Nat.repr n.natAbs else Nat.repr n.natAbs

/-- Checks a language. -/
def language (v : Json) : Except String SpecValue :=
  match v.getStr?.bind Language.normalize with
  | some l => pure (.language l)
  | none => throw "language must be one of java, python, cpp, sql"

/-- Checks a count. -/
def count (v : Json) : Except String SpecValue := do
  let n ← asInt v
  if (minProblems : Int) ≤ n ∧ n ≤ maxProblems then pure (.count n.toNat)
  else throw ("problem_count must be between " ++ Nat.repr minProblems ++ " and " ++ Nat.repr maxProblems)

/-- The entries of a proposed plan: a list as it is, an object as difficulty-count pairs. -/
def planItems (v : Json) : Except String (List Json) :=
  match v with
  | .obj fs => pure (fs.map fun (k, c) => .obj [("difficulty", .str k), ("count", c)])
  | .arr xs => pure xs
  | _ => throw "difficulty_plan must be a list"

/-- Checks a plan. -/
def plan (v : Json) : Except String SpecValue := do
  let items ← planItems v
  let merged ← items.foldlM (fun (acc : List (Difficulty × Nat)) item => do
    let .obj fs := item | throw "difficulty_plan entries must be objects"
    let raw := (Json.lookup fs "difficulty").getD (.str "")
    let name := Text.lower (Text.trim raw.display)
    let some d := Difficulty.ofId? name | throw ("unknown difficulty " ++ Text.quoted name)
    let n ← asInt ((Json.lookup fs "count").getD .null)
    if n < 0 then throw "difficulty counts must be non-negative"
    if n = 0 then return acc
    return match acc.find? (·.1 == d) with
      | some _ => acc.map fun e => if e.1 == d then (d, e.2 + n.toNat) else e
      | none => acc ++ [(d, n.toNat)]) []
  if merged.isEmpty then throw "difficulty_plan must not be empty"
  let total := (merged.map (·.2)).foldr (· + ·) 0
  if maxProblems < total then
    throw ("difficulty_plan sums to " ++ Nat.repr total ++ ", above the maximum of " ++ Nat.repr maxProblems)
  pure (.plan (Difficulty.all.filterMap fun d =>
    match merged.find? (·.1 == d) with
    | some (_, n) => if h : 0 < n then some ⟨d, n, h⟩ else none
    | none => none))

/-- Keeps the first of the tags equal in lower case. -/
def distinctTags (tags : List String) : List String :=
  (tags.foldl (fun (acc : List String × List String) t =>
    let key := Text.lower t
    if acc.2.contains key then acc else (acc.1 ++ [t], acc.2 ++ [key])) ([], [])).1

/-- Checks topics. -/
def tags (v : Json) : Except String SpecValue := do
  let items ← match v with
    | .str s => pure ((Text.splitOn s ',').map Json.str)
    | .arr xs => pure xs
    | _ => throw "topic_tags must be a list of strings"
  let cleaned := items.filterMap fun
    | .str raw => some (Text.take (Text.squeeze raw) maxTopicLength)
    | _ => none
  let kept := distinctTags (cleaned.filter (!·.isEmpty))
  if kept.isEmpty then throw "topic_tags must contain at least one topic"
  pure (.tags (kept.take maxTopicTags))

/-- Checks a style. -/
def style (v : Json) : Except String SpecValue :=
  match v.getStr?.bind (fun s => Style.ofWord? (Text.lower (Text.trim s))) with
  | some s => pure (.style s)
  | none => throw "problem_style must be return, stdout or mixed"

/-- Checks a text field with a length limit. -/
def text (name : String) (limit : Nat) (v : Json) : Except String SpecValue :=
  match v with
  | .str s =>
    let t := Text.trim s
    if t.isEmpty then throw (name ++ " must be non-empty text")
    else if limit < t.length then throw (name ++ " is longer than " ++ Nat.repr limit ++ " characters")
    else pure (.text t)
  | _ => throw (name ++ " must be non-empty text")

/-- The rule of each field. -/
def rule : SpecField → Json → Except String SpecValue
  | .language => language
  | .problemCount => count
  | .difficultyPlan => plan
  | .topicTags => tags
  | .problemStyle => style
  | .constraints => text "constraints" maxConstraintsLength
  | .generationFocus => text "generation_focus" maxFocusLength

end Patch

/-- Checks the values a model proposes, against the count already agreed. -/
def checkPatch (candidate : Json) (current : Option SpecDraft) : SpecPatch :=
  match candidate with
  | .obj fs =>
    let fields := SpecField.all.map fun f =>
      match Json.lookup fs f.name with
      | none | some .null => (f, FieldPatch.unset)
      | some v => match Patch.rule f v with
        | .ok x => (f, .valid x)
        | .error r => (f, .invalid r)
    let patch : SpecPatch := ⟨fields, []⟩
    let target : Option Int := match patch.get .problemCount with
      | .valid (.count n) => some n
      | .unset => current.bind (·.problemCount)
      | _ => none
    let fields := match patch.get .difficultyPlan, target with
      | .valid (.plan p), some t =>
        if (planTotal p : Int) ≠ t then
          fields.map fun e => if e.1 == .difficultyPlan then
            (e.1, .invalid ("difficulty_plan sums to " ++ Nat.repr (planTotal p) ++
              " but problem_count is " ++ Patch.intText t))
            else e
        else fields
      | _, _ => fields
    let dropped := ((fs.map (·.1)).filter fun k => (SpecField.ofName? k).isNone).mergeSort
      fun a b => decide (a ≤ b)
    ⟨fields, dropped⟩
  | _ => ⟨SpecField.all.map fun f => (f, .unset), []⟩

end PracticeForge
