import PracticeForge.Machine.Utility.Basic

/-!
# Machine/Utility/Count — `wc`

`wc` counts the lines (new lines), words, characters, bytes and the widest line of each operand
(or of standard input), and prints the counts it was asked for (lines, words and bytes when asked
for none) in that order, right-aligned to one width, with the operand's name; with more than one
operand, a `total` line follows.

A word is a run of characters that are neither white space nor a no-break space; a byte that
starts no valid UTF-8 sequence is part of a word but no character.  The width is 1 when a single
count of a single operand is asked for; otherwise it is wide enough for the total size of the
regular files among the operands, and at least 7 when one of them is not a regular file.
-/

namespace PracticeForge

namespace Machine

namespace Utility

open Prog

/-- The counts of an input. -/
structure Tally where
  lines : Nat
  words : Nat
  chars : Nat
  bytes : Nat
  widest : Nat
  deriving Inhabited

/-- Adds two tallies; the widest line is the wider one. -/
def Tally.add (a b : Tally) : Tally :=
  ⟨a.lines + b.lines, a.words + b.words, a.chars + b.chars, a.bytes + b.bytes, max a.widest b.widest⟩

/-- Whether a character separates words: white space, or a no-break space. -/
def separatesWords (c : Nat) : Bool :=
  (9 ≤ c && c ≤ 13) || c == 32 || c == 0x1680 || (0x2000 ≤ c && c ≤ 0x200A) || c == 0x2028 ||
    c == 0x2029 || c == 0x205F || c == 0x3000 || c == 0xA0 || c == 0x202F || c == 0x2060

/-- The columns a printable character takes: two for the wide East Asian characters and most
pictographs, none for combining marks, one for the rest. -/
def charColumns (c : Nat) : Nat :=
  let within (lo hi : Nat) := lo ≤ c && c ≤ hi
  if c < 32 || within 0x7F 0x9F then 0
  else if within 0x300 0x36F || within 0x200B 0x200F || within 0xFE00 0xFE0F then 0
  else if within 0x1100 0x115F || within 0x2E80 0x303E || within 0x3041 0xA4CF || within 0xAC00 0xD7A3 ||
    within 0xF900 0xFAFF || within 0xFE30 0xFE4F || within 0xFF00 0xFF60 || within 0xFFE0 0xFFE6 ||
    within 0x1F300 0x1F64F || within 0x1F900 0x1F9FF || within 0x20000 0x3FFFD then 2
  else 1

/-- The state of a count: the tally so far, whether inside a word, and the current line's width. -/
structure TallyState where
  tally : Tally
  inWord : Bool
  column : Nat

/-- Counts one character (none for an invalid byte). -/
def TallyState.step (s : TallyState) (c : Option Nat) : TallyState :=
  let t := s.tally
  let endLine (st : TallyState) : TallyState :=
    { st with tally := { st.tally with widest := max st.tally.widest st.column }, column := 0 }
  let endWord (st : TallyState) : TallyState :=
    { st with tally := { st.tally with words := st.tally.words + (if st.inWord then 1 else 0) }, inWord := false }
  match c with
  | none => { s with inWord := true }
  | some c =>
    let s := { s with tally := { t with chars := t.chars + 1 } }
    if c == 10 then endWord (endLine { s with tally := { s.tally with lines := s.tally.lines + 1 } })
    else if c == 13 || c == 12 then endWord (endLine s)
    else if c == 9 then endWord { s with column := s.column + 8 - s.column % 8 }
    else if c == 32 then endWord { s with column := s.column + 1 }
    else if separatesWords c then endWord s
    else { s with inWord := true, column := s.column + charColumns c }

/-- The counts of some bytes. -/
def tallyOf (bs : ByteArray) : Tally :=
  let s := (Bytes.chars (listOf bs)).foldl TallyState.step ⟨⟨0, 0, 0, 0, 0⟩, false, 0⟩
  let t := s.tally
  ⟨t.lines, t.words + (if s.inWord then 1 else 0), t.chars, bs.size, max t.widest s.column⟩

/-- Which counts are printed. -/
structure TallyChoice where
  lines : Bool
  words : Bool
  chars : Bool
  bytes : Bool
  widest : Bool

/-- The counts chosen, in their order. -/
def TallyChoice.pick (c : TallyChoice) (t : Tally) : List Nat :=
  (if c.lines then [t.lines] else []) ++ (if c.words then [t.words] else []) ++
    (if c.chars then [t.chars] else []) ++ (if c.bytes then [t.bytes] else []) ++
    (if c.widest then [t.widest] else [])

/-- A line of counts, each right-aligned to a width, and a name. -/
def tallyLine (width : Nat) (counts : List Nat) (name : Option Bytes) : Bytes :=
  let cells := counts.map fun n =>
    let ds := Bytes.ofNat n
    List.replicate (width - ds.length) 32 ++ ds
  (cells.intersperse [32]).flatten ++ (match name with
    | some n => 32 :: (if n.contains 10 then shellQuoted n else n)
    | none => []) ++ [10]

/-- `wc`. -/
def wc (name : String) (args : List Bytes) : Prog Unit := do
  let table : OptTable := ⟨[('c', .none), ('m', .none), ('l', .none), ('w', .none), ('L', .none)],
    [("bytes", "c", .none), ("chars", "m", .none), ("lines", "l", .none), ("words", "w", .none),
      ("max-line-length", "L", .none), ("total", "total", .required), ("files0-from", "files0-from", .required)]⟩
  let p ← options name table args
  let none_ := !(p.has "c" || p.has "m" || p.has "l" || p.has "w" || p.has "L")
  let choice : TallyChoice := ⟨p.has "l" || none_, p.has "w" || none_, p.has "m", p.has "c" || none_, p.has "L"⟩
  let totalMode ← match p.last? "total" with
    | none => pure "auto"
    | some v =>
      let modes := ["auto", "always", "only", "never"]
      match modes.filter fun m => v.isPrefixOf (t m) with
      | [m] => pure m
      | found =>
        match modes.find? fun m => t m == v with
        | some m => pure m
        | none =>
          do complain name ((if found.isEmpty then t "invalid" else t "ambiguous") ++ t " argument " ++
                quoteLocale v ++ t " for " ++ t "‘--total’")
             errText "Valid arguments are:\n  - ‘auto’\n  - ‘always’\n  - ‘only’\n  - ‘never’\n"
             tryHelp name
             exit 1
  let named := !p.2.isEmpty
  let names := operandsOrStdin p.2
  let single := (choice.pick ⟨0, 0, 0, 0, 0⟩).length == 1 && names.length == 1
  let mut stats : List (Option (Option Nat)) := []
  for n in names do
    stats := stats ++ [← statOperand n]
  let width :=
    if single || totalMode == "only" then 1
    else
      let minimum := if stats.any (· == some none) then 7 else 1
      let total := stats.foldl (fun a s => a + match s with
        | some (some k) => k
        | _ => 0) 0
      max minimum (Bytes.ofNat total).length
  let mut status := 0
  let mut total : Tally := ⟨0, 0, 0, 0, 0⟩
  for file in names do
    match (← openRead file) with
    | .error e =>
      complain name (quoteIfNeeded file ++ t ": " ++ t e.text)
      status := 1
      if e == .isDir && totalMode != "only" then
        out (Bytes.toArray (tallyLine width (choice.pick ⟨0, 0, 0, 0, 0⟩) (some file)))
    | .ok fd =>
      let bs ← readAllOf fd
      let tl := tallyOf bs
      total := total.add tl
      if totalMode != "only" then
        out (Bytes.toArray (tallyLine width (choice.pick tl) (if named then some file else none)))
  let showTotal := totalMode == "always" || totalMode == "only" || (totalMode == "auto" && names.length > 1)
  if showTotal then
    out (Bytes.toArray (tallyLine width (choice.pick total) (if totalMode == "only" then none else some (t "total"))))
  exit status

end Utility

end Machine

end PracticeForge
