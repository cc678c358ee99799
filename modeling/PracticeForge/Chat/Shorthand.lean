import PracticeForge.Spec.Rescale
import PracticeForge.Spec.Profile
import PracticeForge.Text.Pattern.Machine
import PracticeForge.Text.Quote
import PracticeForge.Json.Value
import PracticeForge.Number.Numeral

/-!
# Chat/Shorthand — what a learner's message states outright

Before any model is asked, a message is read for the spec values it states in so many words:
a language name standing alone (`in py`, `C++ please`), a style word (`return`, `printing`),
`topics: a, b and c`, `focus: …` to the end of the message, `N problems` (up to three words may
stand between the number and the noun), and pairs like `3 easy`.  Numbers are digits of any
script or the words one to ten.  All matching ignores case.

The stated count is the first `N problems` whose number does not open a pair; without one,
the pairs add up to the count.  A count above seven is cut to seven when a plan comes with it,
and is otherwise put off (`countDeferred`) so the learner can be asked again.  Pairs give the
plan, rescaled to the count; without pairs, a single difficulty word names the difficulty of
the whole count.

Some words match under ignored case and still name nothing known, such as `prınt` with a dotless
`ı`: such a word stops the reading with the failure a table lookup or a number reading gives.
-/

namespace PracticeForge

namespace Shorthand

open Pattern

/-- The number words, one to ten. -/
def numberWords : List (String × Nat) :=
  [("one", 1), ("two", 2), ("three", 3), ("four", 4), ("five", 5), ("six", 6), ("seven", 7),
    ("eight", 8), ("nine", 9), ("ten", 10)]

/-- A number: digits or a number word, as group `k`. -/
def number : Pattern := .group (.alt (plus digitChar) (texts (numberWords.map (·.1))))

/-- A pattern matched with case ignored. -/
def caseless (p : Pattern) : Regex := ⟨p, true, false, false⟩

/-- A pattern matched as written. -/
def exact (p : Pattern) : Regex := ⟨p, false, false, false⟩

/-- A language name with no word character or `+` on either side. -/
def languageRe : Regex :=
  caseless (seq [.notBehind ⟨[.word, .char '+'], false⟩,
    .group (oneOf [.cat (text "python") (opt (.lit '3')), text "py", text "java", text "cpp",
      text "c++", .cat (text "sqlite") (opt (.lit '3')), text "sql"]),
    .notAhead (anyOf [.word, .char '+'])])

/-- The nouns a count goes with, singular or plural. -/
def countNouns : Pattern :=
  oneOf (["problem", "question", "exercise", "challenge", "task"].map fun w => .cat (text w) (opt (.lit 's')))

/-- `N problems`, with up to three words between, fewest first. -/
def countRe : Regex :=
  caseless (seq [boundary, number, plus spaceChar,
    upTo (.cat (plus (anyOf [.range 'a' 'z', .char '+', .char '#', .char '-'])) (plus spaceChar)) false 3,
    countNouns, boundary])

/-- A difficulty word standing alone, as group `k`. -/
def difficultyWord : Pattern := .group (texts ["easy", "medium", "hard"])

/-- A pair like `3 easy`: the number is group 1, the difficulty group 2. -/
def pairRe : Regex := caseless (seq [boundary, number, plus spaceChar, difficultyWord, boundary])

/-- A difficulty word standing alone. -/
def difficultyRe : Regex := caseless (seq [boundary, difficultyWord, boundary])

/-- A style word standing alone. -/
def styleRe : Regex :=
  caseless (wordOf ["return", "returns", "stdout", "print", "printing", "mixed"])

/-- `topics:` and the shortest text up to a full stop before a blank or the end, a line feed,
or the end. -/
def topicsRe : Regex :=
  caseless (seq [boundary, text "topic", opt (.lit 's'), many spaceChar, .lit ':', many spaceChar,
    .group (plusLazy .dot),
    oneOf [.cat (.lit '.') (.alt spaceChar (.anchor .textEnd)), .lit '\n', .anchor .textEnd]])

/-- `focus:` and everything after it. -/
def focusRe : Regex :=
  ⟨seq [boundary, text "focus", many spaceChar, .lit ':', many spaceChar, .group (plus .dot),
    .anchor .textEnd], true, false, true⟩

/-- Where a topic list is cut: a comma, a semicolon, or the word `and`. -/
def topicSeparator : Regex :=
  exact (oneOf [.lit ',', .lit ';', seq [boundary, text "and", boundary]])

/-- The value of a number token: a number word in any case, or digits. -/
def tokenValue (token : String) : Except Failure Nat :=
  let t := Text.lower token
  match numberWords.find? (·.1 == t) with
  | some (_, n) => pure n
  | none =>
    match Numeral.intOfText t with
    | .ok n => pure n.toNat
    | .error m => throw (.badValue m)

/-- The topics of a topic list: cut at separators, each trimmed of spaces and full stops,
empty ones dropped. -/
def splitTopics (raw : String) : List String :=
  ((topicSeparator.split raw).map (Text.trimChars fun c => c == ' ' || c == '.')).filter (!·.isEmpty)

/-- The count a message states: the first `N problems` whose number does not open a pair. -/
def statedCount (text : Array Char) : Except Failure (Option Nat) :=
  let rec go : List Regex.Match → Except Failure (Option Nat)
    | [] => pure none
    | m :: ms =>
      if (pairRe.matchAt text m.start).isSome then go ms
      else (tokenValue (m.group text 1)).map some
  go (countRe.findAll text)

/-- Adds up the pairs per difficulty word, in order of first appearance. -/
def pairTotals (text : Array Char) : Except Failure (List (String × Nat)) :=
  (pairRe.findAll text).foldlM (fun acc m => do
    let n ← tokenValue (m.group text 1)
    let d := Text.lower (m.group text 2)
    pure (match acc.find? (·.1 == d) with
      | some _ => acc.map fun e => if e.1 == d then (d, e.2 + n) else e
      | none => acc ++ [(d, n)])) []

/-- Removes repeated items, keeping the first of each. -/
def dedup {α : Type} [BEq α] (xs : List α) : List α :=
  xs.foldl (fun acc x => if acc.contains x then acc else acc ++ [x]) []

end Shorthand

/-- What a message states outright. -/
structure Shorthand where
  language : Option Language
  problemStyle : Option Style
  topicTags : Option (List String)
  generationFocus : Option String
  problemCount : Option Nat
  difficultyPlan : Option (List DifficultyCount)
  /-- A count above the maximum came without a plan; the learner is asked again. -/
  countDeferred : Bool
  /-- The count as stated, before any cut. -/
  requestedCount : Option Nat
  deriving Repr

namespace Shorthand

/-- The fields a message states. -/
def explicitFields (r : Shorthand) : List SpecField :=
  [(SpecField.language, r.language.isSome), (.problemStyle, r.problemStyle.isSome),
    (.topicTags, r.topicTags.isSome), (.generationFocus, r.generationFocus.isSome),
    (.problemCount, r.problemCount.isSome), (.difficultyPlan, r.difficultyPlan.isSome)].filterMap
    fun (f, b) => if b then some f else none

/-- The stated values as JSON, keyed by field name. -/
def values (r : Shorthand) : List (String × Json) :=
  (r.language.map fun l => ("language", Json.str l.id)).toList ++
  (r.problemStyle.map fun s => ("problem_style", Json.str s.id)).toList ++
  (r.topicTags.map fun t => ("topic_tags", Json.ofStrs t)).toList ++
  (r.generationFocus.map fun f => ("generation_focus", Json.str f)).toList ++
  (r.problemCount.map fun n => ("problem_count", Json.int n)).toList ++
  (r.difficultyPlan.map fun p => ("difficulty_plan", Json.arr (p.map DifficultyCount.toJson))).toList

/-- The plan a message states, and its count: pairs give the plan, with the stated count or else
their sum; without pairs, a single difficulty word names the difficulty of the whole stated
count. -/
def planAndCount (text : Array Char) (stated : Option Nat) (pairs : List (String × Nat)) :
    Except Failure (Option (List DifficultyCount) × Option Nat) :=
  if pairs.isEmpty then
    let words := dedup ((difficultyRe.findAll text).map fun m => Text.lower (m.group text 1))
    match words, stated with
    | [w], some n =>
      if h : 0 < n then
        match Difficulty.ofId? w with
        | some d => pure (some [⟨d, n, h⟩], stated)
        | none => throw (.invalid [⟨[.key "difficulty"], .literalError⟩])
      else pure (none, stated)
    | _, _ => pure (none, stated)
  else
    let plan : List DifficultyCount := Difficulty.all.filterMap fun d =>
      match pairs.find? (·.1 == d.id) with
      | some (_, n) => if h : 0 < n then some ⟨d, n, h⟩ else none
      | none => none
    pure (some plan, some (stated.getD ((pairs.map (·.2)).foldr (· + ·) 0)))

/-- Adds a count, and the plan that comes with it, to the other values a message states.  A
count below the minimum is dropped; one above the maximum is put off when no plan comes with
it, and otherwise cut to the maximum, with the plan rescaled to the count. -/
def withCount (base : Shorthand) (plan : Option (List DifficultyCount)) :
    Option Nat → Except Failure Shorthand
  | none => pure base
  | some n =>
    if n < minProblems then pure base
    else
      let base := { base with requestedCount := some n }
      if maxProblems < n ∧ plan.isNone then pure { base with countDeferred := true }
      else do
        let n := min n maxProblems
        let plan ← match plan with
          | some p => (rescalePlan p n).map some
          | none => pure none
        pure { base with problemCount := some n, difficultyPlan := plan }

/-- Reads the values a message states. -/
def read (message : String) : Except Failure Shorthand := do
  let text := message.toList.toArray
  let languages := dedup ((languageRe.findAll text).filterMap fun m => Language.normalize (m.group text 1))
  let language := match languages with
    | [l] => some l
    | _ => none
  let styles ← (styleRe.findAll text).mapM fun m =>
    let w := Text.lower (m.group text 1)
    match Style.ofWord? w with
    | some s => (pure s : Except Failure Style)
    | none => throw (.noKey (.str w))
  let problemStyle := match dedup styles with
    | [s] => some s
    | _ => none
  let topicTags := match topicsRe.search text 0 with
    | some m =>
      let tags := splitTopics (m.group text 1)
      if tags.isEmpty then none else some tags
    | none => none
  let generationFocus := match focusRe.search text 0 with
    | some m =>
      let f := Text.trim (m.group text 1)
      if f.isEmpty then none else some f
    | none => none
  let base : Shorthand := ⟨language, problemStyle, topicTags, generationFocus, none, none, false, none⟩
  let stated ← statedCount text
  let pairs := (← pairTotals text).filter (0 < ·.2)
  let (plan, count) ← planAndCount text stated pairs
  withCount base plan count

/-- The replies that confirm a pending change. -/
def affirmatives : List String :=
  ["yes", "y", "yeah", "yep", "sure", "ok", "okay", "confirm", "correct", "do it", "go ahead",
    "sounds good"]

/-- Whether a message confirms: lower-cased, every character other than a word character or a
blank read as a space, and blanks squeezed, it is one of `affirmatives`. -/
def isAffirmative (message : String) : Bool :=
  let plain := String.ofList ((Text.lower message).toList.map fun c =>
    if Text.isWordChar c || Text.isSpace c then c else ' ')
  affirmatives.contains (Text.squeeze plain)

/-- The JSON form: the values read, whether the count was deferred, the count as stated, and
the fields stated outright, by name in order. -/
def toJson (r : Shorthand) : Json :=
  let names := (r.explicitFields.map SpecField.name).mergeSort (fun a b => decide (a ≤ b))
  .obj [("values", .obj r.values), ("count_deferred", .bool r.countDeferred),
    ("requested_count", Json.ofIntOpt (r.requestedCount.map Int.ofNat)),
    ("explicit_fields", Json.ofStrs names)]

end Shorthand

end PracticeForge
