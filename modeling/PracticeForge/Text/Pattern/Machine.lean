import PracticeForge.Text.Pattern

/-!
# Text/Pattern/Machine — running a pattern over a text

A pattern is compiled to a small program of instructions and run by a thread machine: all
threads advance together one character at a time, kept in order of preference, and at each
position a program counter is entered at most once.  The first match of the most preferred
thread is the match a backtracking search would find (leftmost, then by the preference of each
choice), and the run takes time linear in the text for a fixed pattern.

`Regex.search` finds the first match at or after a position, `Regex.matchAt` one that starts
exactly there, `Regex.findAll` the successive matches that do not overlap, and `Regex.replace`
and `Regex.split` are built on it.  A match records where each group matched, group 0 being
the whole match.
-/

namespace PracticeForge

namespace Pattern

/-- One instruction of a compiled pattern. -/
inductive Inst where
  | lit (c : Char)
  | set (s : CharSet)
  | dot
  | split (first second : Nat)
  | jump (target : Nat)
  | save (slot : Nat)
  | anchor (a : Anchor)
  | notAhead (p : Pattern)
  | notBehind (s : CharSet)
  | done
  deriving Inhabited

/-- Appends the instructions of a pattern to a program; `groups` counts the groups opened so
far, which numbers the next one. -/
def emit : Pattern → Array Inst → Nat → Array Inst × Nat
  | .empty, prog, g => (prog, g)
  | .lit c, prog, g => (prog.push (.lit c), g)
  | .set s, prog, g => (prog.push (.set s), g)
  | .dot, prog, g => (prog.push .dot, g)
  | .cat a b, prog, g =>
    let (prog, g) := emit a prog g
    emit b prog g
  | .alt a b, prog, g =>
    let at0 := prog.size
    let (prog, g) := emit a (prog.push .done) g
    let atJump := prog.size
    let (prog, g) := emit b (prog.push .done) g
    let prog := prog.set! at0 (.split (at0 + 1) (atJump + 1))
    (prog.set! atJump (.jump prog.size), g)
  | .star p greedy, prog, g =>
    let at0 := prog.size
    let (prog, g) := emit p (prog.push .done) g
    let prog := prog.push (.jump at0)
    let out := prog.size
    (prog.set! at0 (if greedy then .split (at0 + 1) out else .split out (at0 + 1)), g)
  | .group p, prog, g =>
    let k := g + 1
    let (prog, g) := emit p (prog.push (.save (2 * k))) k
    (prog.push (.save (2 * k + 1)), g)
  | .anchor a, prog, g => (prog.push (.anchor a), g)
  | .notAhead p, prog, g => (prog.push (.notAhead p), g)
  | .notBehind s, prog, g => (prog.push (.notBehind s), g)

/-- The number of groups of a pattern. -/
def groupCount : Pattern → Nat
  | .cat a b => groupCount a + groupCount b
  | .alt a b => groupCount a + groupCount b
  | .star p _ => groupCount p
  | .group p => groupCount p + 1
  | _ => 0

end Pattern

/-- A pattern with the options it is matched under. -/
structure Regex where
  pattern : Pattern
  ignoreCase : Bool
  /-- `^` and `$`-style anchors of lines are meant; kept for the record of how it was built. -/
  multiline : Bool
  /-- The dot matches a line feed too. -/
  dotAll : Bool

namespace Regex

open Pattern

/-- Where the groups of a match lie: for group `k`, slots `2k` and `2k+1` hold its start and
end. -/
abbrev Slots := Array (Option Nat)

/-- A match of a pattern in a text. -/
structure Match where
  slots : Slots
  deriving Inhabited

/-- The span of group `k`, if it took part in the match. -/
def Match.span? (m : Match) (k : Nat) : Option (Nat × Nat) :=
  match m.slots[2 * k]?, m.slots[2 * k + 1]? with
  | some (some a), some (some b) => some (a, b)
  | _, _ => none

/-- Where the whole match starts. -/
def Match.start (m : Match) : Nat := ((m.span? 0).map (·.1)).getD 0

/-- Where the whole match ends. -/
def Match.stop (m : Match) : Nat := ((m.span? 0).map (·.2)).getD 0

/-- The text of group `k`, if it took part in the match. -/
def Match.group? (m : Match) (text : Array Char) (k : Nat) : Option String :=
  (m.span? k).map fun (a, b) => String.ofList ((text.extract a b).toList)

/-- The text of group `k`, empty when it took no part. -/
def Match.group (m : Match) (text : Array Char) (k : Nat) : String := (m.group? text k).getD ""

/-- A thread of the machine: where it is in the program, and what it has recorded. -/
structure Thread where
  pc : Nat
  slots : Slots

/-- Whether an anchor holds at position `i` of a text. -/
def anchorHolds (text : Array Char) (i : Nat) : Anchor → Bool
  | .textStart => i == 0
  | .lineStart => i == 0 || text[i - 1]? == some '\n'
  | .textEnd => i == text.size || (i + 1 == text.size && text[i]? == some '\n')
  | .lineEnd => i == text.size || text[i]? == some '\n'
  | .boundary =>
    if text.size == 0 then false
    else
      let before := i > 0 && (text[i - 1]?.map Text.isWordChar).getD false
      let after := (text[i]?.map Text.isWordChar).getD false
      before != after

/-- The machine on one compiled program.  `look p i` tells whether a look-ahead pattern `p`
matches at position `i`. -/
structure Machine where
  prog : Array Inst
  text : Array Char
  ignoreCase : Bool
  dotAll : Bool
  slotCount : Nat
  look : Pattern → Nat → Bool

/-- Adds a thread at `pc` at position `i`, following every instruction that reads nothing;
the threads it reaches are appended in order of preference.  `seen` marks the program counters
already entered at this position. -/
def Machine.addThread (m : Machine) (i : Nat) :
    Nat → Array Bool → Array Thread → Nat → Slots → Array Bool × Array Thread
  | 0, seen, acc, _, _ => (seen, acc)
  | fuel + 1, seen, acc, pc, slots =>
    if seen[pc]?.getD true then (seen, acc)
    else
      let seen := seen.set! pc true
      match m.prog[pc]? with
      | some (.jump t) => m.addThread i fuel seen acc t slots
      | some (.split a b) =>
        let (seen, acc) := m.addThread i fuel seen acc a slots
        m.addThread i fuel seen acc b slots
      | some (.save k) => m.addThread i fuel seen acc (pc + 1) (slots.set! k (some i))
      | some (.anchor a) =>
        if anchorHolds m.text i a then m.addThread i fuel seen acc (pc + 1) slots
        else (seen, acc)
      | some (.notAhead p) =>
        if m.look p i then (seen, acc)
        else m.addThread i fuel seen acc (pc + 1) slots
      | some (.notBehind s) =>
        let blocked := i > 0 && (m.text[i - 1]?.map (s.holds m.ignoreCase)).getD false
        if blocked then (seen, acc) else m.addThread i fuel seen acc (pc + 1) slots
      | some _ => (seen, acc.push ⟨pc, slots⟩)
      | none => (seen, acc)

/-- Runs the machine from position `start`; an anchored run starts threads only there. -/
def Machine.run (m : Machine) (start : Nat) (anchored : Bool) : Option Slots :=
  let fresh : Array Bool := Array.replicate m.prog.size false
  let initial : Slots := (Array.replicate m.slotCount none).set! 0 (some start)
  -- the threads of position `i`, in order, with their marks, and the best match so far
  let rec loop : Nat → Nat → Array Bool → Array Thread → Option Slots → Option Slots
    | 0, _, _, _, best => best
    | fuel + 1, i, seen, threads, best =>
      let (_, threads) :=
        if best.isNone && (!anchored || i == start) then
          m.addThread i (m.prog.size + 1) seen threads 0 (initial.set! 0 (some i))
        else (seen, threads)
      if threads.isEmpty && (best.isSome || anchored || m.text.size < i) then best
      else
        let c? := m.text[i]?
        -- advance every thread over the character at `i`, stopping at the first match
        let step : (Array Bool × Array Thread × Option Slots × Bool) → Thread →
            (Array Bool × Array Thread × Option Slots × Bool) :=
          fun (nseen, next, found, stopped) t =>
            if stopped then (nseen, next, found, stopped)
            else
              let advance (ok : Bool) :=
                if ok then
                  let (nseen, next) :=
                    m.addThread (i + 1) (m.prog.size + 1) nseen next (t.pc + 1) t.slots
                  (nseen, next, found, false)
                else (nseen, next, found, false)
              match m.prog[t.pc]?, c? with
              | some .done, _ => (nseen, next, some (t.slots.set! 1 (some i)), true)
              | some (.lit d), some c =>
                advance (if m.ignoreCase then fold c == fold d else c == d)
              | some (.set s), some c => advance (s.holds m.ignoreCase c)
              | some .dot, some c => advance (m.dotAll || c != '\n')
              | _, _ => (nseen, next, found, false)
        let (nseen, next, found, _) := threads.foldl step (fresh, #[], none, false)
        let best := if found.isSome then found else best
        if m.text.size < i + 1 && next.isEmpty then best
        else loop fuel (i + 1) nseen next best
  loop (m.text.size + 2 - start) start fresh #[] none

/-- Whether a pattern matches starting exactly at position `i`, look-aheads nested at most
`depth` deep. -/
def lookAhead (text : Array Char) (ic dotAll : Bool) : Nat → Pattern → Nat → Bool
  | 0, _, _ => false
  | depth + 1, p, i =>
    let (prog, groups) := Pattern.emit p #[] 0
    let m : Machine := ⟨prog.push .done, text, ic, dotAll, 2 * groups + 2, lookAhead text ic dotAll depth⟩
    (m.run i true).isSome

/-- How deeply look-aheads may nest. -/
def lookDepth : Nat := 4

/-- The machine for a regex over a text. -/
def machine (r : Regex) (text : Array Char) : Machine :=
  let (prog, groups) := Pattern.emit r.pattern #[] 0
  ⟨prog.push .done, text, r.ignoreCase, r.dotAll, 2 * groups + 2,
    lookAhead text r.ignoreCase r.dotAll lookDepth⟩

/-- The first match at or after `start`. -/
def search (r : Regex) (text : Array Char) (start : Nat) : Option Match :=
  ((r.machine text).run start false).map Match.mk

/-- A match that starts exactly at `pos`. -/
def matchAt (r : Regex) (text : Array Char) (pos : Nat) : Option Match :=
  ((r.machine text).run pos true).map Match.mk

/-- The successive matches that do not overlap, from the start of the text; after an empty
match the search goes on one character later. -/
def findAll (r : Regex) (text : Array Char) : List Match :=
  let m := r.machine text
  let rec go : Nat → Nat → List Match → List Match
    | 0, _, acc => acc.reverse
    | fuel + 1, pos, acc =>
      if text.size < pos then acc.reverse
      else
        match m.run pos false with
        | none => acc.reverse
        | some slots =>
          let found : Match := ⟨slots⟩
          let next := if found.stop ≤ found.start then found.stop + 1 else found.stop
          go fuel next (found :: acc)
  go (text.size + 2) 0 []

/-- The text with every match replaced by `by`. -/
def replace (r : Regex) (s : String) (by_ : String) : String :=
  let text := s.toList.toArray
  let ms := r.findAll text
  let (out, last) := ms.foldl (fun (out, last) mt =>
    (out ++ String.ofList (text.extract last mt.start).toList ++ by_, mt.stop)) ("", 0)
  out ++ String.ofList (text.extract last text.size).toList

/-- The pieces of the text between the matches. -/
def split (r : Regex) (s : String) : List String :=
  let text := s.toList.toArray
  let ms := r.findAll text
  let (pieces, last) := ms.foldl (fun (acc, last) mt =>
    (String.ofList (text.extract last mt.start).toList :: acc, mt.stop)) ([], 0)
  (String.ofList (text.extract last text.size).toList :: pieces).reverse

/-- Whether the pattern matches anywhere in the text. -/
def test (r : Regex) (s : String) : Bool := (r.search s.toList.toArray 0).isSome

/-- The text of group `k` of every match. -/
def findGroups (r : Regex) (s : String) (k : Nat) : List String :=
  let text := s.toList.toArray
  (r.findAll text).map fun m => m.group text k

end Regex

end PracticeForge
