import PracticeForge.Machine.Utility.Basic

/-!
# Machine/Utility/Stream — utilities that copy their input: `cat`, `head`, `tail`, `tr`

`cat` copies each operand (or standard input) to its output as it arrives, so a stream without
end is copied without end; with options it numbers lines, marks line ends and tabs, shows
control characters, and squeezes blank lines.  `head` copies the first lines or bytes of each
operand (or all but the last ones), `tail` the last ones (or from a line or byte on), both with a
`==> name <==` heading when given several operands.  `tr` maps, deletes and squeezes bytes
through sets written with ranges, classes, repeats and escapes.
-/

namespace PracticeForge

namespace Machine

namespace Utility

open Prog

/-- The number of a line for `cat -n`: six columns, then a tab. -/
def lineNumber (n : Nat) : Bytes :=
  let ds := Bytes.ofNat n
  List.replicate (6 - ds.length) 32 ++ ds ++ [9]

/-- A byte as `cat -v` shows it: controls as `^X`, bytes past ASCII as `M-` and the low byte. -/
def showByte (tabs : Bool) (c : UInt8) : Bytes :=
  let low (c : UInt8) : Bytes :=
    if c == 127 then [94, 63]
    else if c < 32 then (if c == 9 && !tabs then [9] else if c == 10 then [10] else [94, c + 64])
    else [c]
  if c ≥ 128 then t "M-" ++ low (c - 128) else low c

/-- What `cat`'s options ask for. -/
structure CatOpts where
  number : Bool := false
  numberNonBlank : Bool := false
  ends : Bool := false
  tabs : Bool := false
  nonprinting : Bool := false
  squeeze : Bool := false

/-- Formats lines for `cat` with options, from a line number and whether the last line was
blank: the bytes, the next number and blankness. -/
def catLines (o : CatOpts) (lines : List Bytes) (n : Nat) (prevBlank : Bool) : Bytes × Nat × Bool :=
  lines.foldl (fun (acc, n, prevBlank) line =>
    let blank := line == [10]
    if o.squeeze && blank && prevBlank then (acc, n, true)
    else
      let body := if line.getLast? == some 10 then line.dropLast else line
      let hasNl := line.getLast? == some 10
      let (num, n) := if o.numberNonBlank then (if blank then ([], n) else (lineNumber n, n + 1))
        else if o.number then (lineNumber n, n + 1) else ([], n)
      let shown := if o.nonprinting then body.foldr (fun c a => showByte o.tabs c ++ a) []
        else if o.tabs then body.foldr (fun c a => (if c == 9 then [94, 73] else [c]) ++ a) [] else body
      (acc ++ num ++ shown ++ (if hasNl then (if o.ends then [36, 10] else [10]) else []), n, blank))
    ([], n, prevBlank)

/-- `cat`. -/
def cat (name : String) (args : List Bytes) : Prog Unit := do
  let table : OptTable := ⟨[('A', .none), ('b', .none), ('e', .none), ('E', .none), ('n', .none),
      ('s', .none), ('t', .none), ('T', .none), ('u', .none), ('v', .none)],
    [("show-all", "A", .none), ("number-nonblank", "b", .none), ("show-ends", "E", .none),
      ("number", "n", .none), ("squeeze-blank", "s", .none), ("show-tabs", "T", .none),
      ("show-nonprinting", "v", .none)]⟩
  let p ← options name table args
  let has (k : String) := p.has k
  let o : CatOpts := ⟨has "n", has "b", has "A" || has "e" || has "E", has "A" || has "t" || has "T",
    has "A" || has "e" || has "t" || has "v", has "s"⟩
  let plain := !(o.number || o.numberNonBlank || o.ends || o.tabs || o.nonprinting || o.squeeze)
  let mut status := 0
  let mut n := 1
  let mut prevBlank := false
  for file in operandsOrStdin p.2 do
    match (← openRead file) with
    | .error e =>
      complain name (quoteIfNeeded file ++ t ": " ++ t e.text)
      status := 1
    | .ok fd =>
      if plain then
        match (← readPieces fd none) with
        | some (ps, m) =>
          let _ ← passOn 1 ps
          reach m
        | none =>
          complain name (quoteIfNeeded file ++ t ": " ++ t Errno.badFd.text)
          status := 1
      else
        let bs ← readAllOf fd
        let (shown, n', pb) := catLines o (linesOf bs) n prevBlank
        n := n'
        prevBlank := pb
        out (Bytes.toArray shown)
  exit status

/-- How `head` or `tail` counts: lines or bytes, and a count, or all but the last ones (`head`),
or from one on (`tail`). -/
structure Span where
  lines : Bool
  count : Nat
  /-- `head`: all but the last `count`; `tail`: from the `count`-th on. -/
  flipped : Bool

/-- Reads a count for `head` or `tail` as `-n`/`-c` give it: a leading `-` (for `head`) or `+`
(for `tail`) flips it. -/
def readSpan (name : String) (fromEnd : Bool) (lines : Bool) (s : Bytes) (flipChar : UInt8) : Prog Span := do
  let (flipped, body) := match s with
    | c :: rest => if c == flipChar then (true, rest) else (false, s)
    | [] => (false, s)
  let body := if fromEnd && !flipped then (match body with
      | 45 :: rest => rest
      | _ => body) else body
  let what := if lines then "invalid number of lines" else "invalid number of bytes"
  match sizeValue body with
  | some n =>
    if n > maxCount then
      complain name (t what ++ t ": " ++ quoteLocale s ++ t ": Value too large for defined data type")
      exit 1
    else return ⟨lines, n, flipped⟩
  | none =>
    complain name (t what ++ t ": " ++ quoteLocale s)
    exit 1

/-- The first `n` lines of a stream: reads line after line. -/
def copyLines (fd : Nat) : Nat → Prog Unit
  | 0 => return
  | n + 1 => do
    match (← readThrough fd 10) with
    | some (bs, found) =>
      out bs
      if found then copyLines fd n
    | none => return

/-- An old-style first option of `head` or `tail` (`-5`, `-5c`, `+5` for `tail`): the options
it stands for. -/
def obsoleteCount (fromEnd : Bool) (args : List Bytes) : List Bytes :=
  match args with
  | a :: rest =>
    match a with
    | c :: d :: more =>
      if (c == 45 || (fromEnd && c == 43)) && Bytes.isDigit d then
        let ds := (d :: more).takeWhile Bytes.isDigit
        let after := (d :: more).drop ds.length
        let unit : Bytes := if after.contains 99 then t "-c" else t "-n"
        let num := if c == 43 then 43 :: ds else ds
        let extra := after.filter (fun x => x == 113 || x == 118) |>.map fun x => [45, x]
        if after.all fun x => x == 99 || x == 108 || x == 113 || x == 118 || x == 98 || x == 107 || x == 109 then
          [unit, num] ++ extra ++ rest
        else args
      else args
    | _ => args
  | [] => []

/-- `head`. -/
def head (name : String) (args : List Bytes) : Prog Unit := do
  let table : OptTable := ⟨[('c', .required), ('n', .required), ('q', .none), ('v', .none), ('z', .none)],
    [("bytes", "c", .required), ("lines", "n", .required), ("quiet", "q", .none), ("silent", "q", .none),
      ("verbose", "v", .none), ("zero-terminated", "z", .none)]⟩
  let p ← options name table (obsoleteCount false args)
  -- the last of `-c` and `-n` counts
  let last := (p.1.filter fun (k, _) => k == "c" || k == "n").getLast?
  let span ← match last with
    | some (k, some v) => readSpan name false (k == "n") v 45
    | _ => pure ⟨true, 10, false⟩
  let names := operandsOrStdin p.2
  let headings := (names.length > 1 || p.has "v") && !p.has "q"
  let mut status := 0
  let mut first := true
  for file in names do
    match (← openRead file) with
    | .error e =>
      complain name (t "cannot open " ++ quoteAlways file ++ t " for reading: " ++ t e.text)
      status := 1
    | .ok fd =>
      if headings then
        out (Bytes.toArray ((if first then [] else [10]) ++ t "==> " ++ (if file == t "-" then t "standard input" else file) ++ t " <==\n"))
      first := false
      if span.flipped then
        let bs ← readAllOf fd
        if span.lines then
          let ls := linesOf bs
          out (Bytes.toArray (ls.take (ls.length - span.count)).flatten)
        else out (bs.extract 0 (bs.size - span.count))
      else if span.lines then copyLines fd span.count
      else
        match (← readPieces fd (some span.count)) with
        | some (ps, m) =>
          let _ ← passOn 1 ps
          reach m
        | none => pure ()
  exit status

/-- `tail`. -/
def tail (name : String) (args : List Bytes) : Prog Unit := do
  let table : OptTable := ⟨[('c', .required), ('n', .required), ('q', .none), ('v', .none), ('z', .none),
      ('f', .none), ('F', .none), ('s', .required)],
    [("bytes", "c", .required), ("lines", "n", .required), ("quiet", "q", .none), ("silent", "q", .none),
      ("verbose", "v", .none), ("zero-terminated", "z", .none), ("follow", "f", .optional)]⟩
  let p ← options name table (obsoleteCount true args)
  let last := (p.1.filter fun (k, _) => k == "c" || k == "n").getLast?
  let span ← match last with
    | some (k, some v) => readSpan name true (k == "n") v 43
    | _ => pure ⟨true, 10, false⟩
  let names := operandsOrStdin p.2
  let headings := (names.length > 1 || p.has "v") && !p.has "q"
  let mut status := 0
  let mut first := true
  for file in names do
    match (← openRead file) with
    | .error e =>
      complain name (t "cannot open " ++ quoteAlways file ++ t " for reading: " ++ t e.text)
      status := 1
    | .ok fd =>
      if headings then
        out (Bytes.toArray ((if first then [] else [10]) ++ t "==> " ++ (if file == t "-" then t "standard input" else file) ++ t " <==\n"))
      first := false
      let bs ← readAllOf fd
      if span.lines then
        let ls := linesOf bs
        let kept := if span.flipped then ls.drop (span.count - 1) else ls.drop (ls.length - span.count)
        out (Bytes.toArray kept.flatten)
      else if span.flipped then out (bs.extract (span.count - 1) bs.size)
      else out (bs.extract (bs.size - span.count) bs.size)
  exit status

/-- The classes `tr` knows, with their members in byte order. -/
def trClass (name : Bytes) : Option (List UInt8) :=
  let all : List UInt8 := (List.range 256).map (·.toUInt8)
  let pick (f : UInt8 → Bool) : Option (List UInt8) := some (all.filter f)
  match String.fromUTF8? (Bytes.toArray name) with
  | some "alnum" => pick fun b => Bytes.isAlpha b || Bytes.isDigit b
  | some "alpha" => pick Bytes.isAlpha
  | some "blank" => pick Bytes.isBlank
  | some "cntrl" => pick fun b => b < 32 || b == 127
  | some "digit" => pick Bytes.isDigit
  | some "graph" => pick fun b => 33 ≤ b && b < 127
  | some "lower" => pick fun b => 97 ≤ b && b ≤ 122
  | some "print" => pick fun b => 32 ≤ b && b < 127
  | some "punct" => pick fun b => 33 ≤ b && b < 127 && !(Bytes.isAlpha b || Bytes.isDigit b)
  | some "space" => pick Bytes.isSpace
  | some "upper" => pick fun b => 65 ≤ b && b ≤ 90
  | some "xdigit" => pick fun b => Bytes.isDigit b || (65 ≤ b && b ≤ 70) || (97 ≤ b && b ≤ 102)
  | _ => none

/-- One element of a `tr` set. -/
inductive TrItem where
  | byte (b : UInt8)
  | range (lo hi : UInt8)
  | cls (name : Bytes) (members : List UInt8)
  /-- `[c*n]`: the byte `n` times, or (with none) as often as needed. -/
  | repeat_ (b : UInt8) (n : Option Nat)

/-- Reads an escape in a `tr` set after its backslash: the byte and the rest. -/
def trEscape (cs : Bytes) : UInt8 × Bytes :=
  match cs with
  | c :: rest =>
    if 48 ≤ c && c ≤ 55 then
      let ds := (cs.takeWhile fun d => 48 ≤ d && d ≤ 55).take 3
      let v := ds.foldl (fun (n : Nat) (d : UInt8) => n * 8 + (d.toNat - 48)) 0
      -- three digits that overflow a byte are read as two
      if v > 255 then
        ((ds.take 2).foldl (fun (n : Nat) (d : UInt8) => n * 8 + (d.toNat - 48)) 0 |>.toUInt8, cs.drop 2)
      else (v.toUInt8, cs.drop ds.length)
    else
      let v : UInt8 := match c with
        | 97 => 7
        | 98 => 8
        | 102 => 12
        | 110 => 10
        | 114 => 13
        | 116 => 9
        | 118 => 11
        | _ => c
      (v, rest)
  | [] => (92, [])

/-- Reads one byte of a set, escapes read. -/
def trByte (cs : Bytes) : Option (UInt8 × Bytes) :=
  match cs with
  | 92 :: rest => some (trEscape rest)
  | c :: rest => some (c, rest)
  | [] => none

/-- Reads a `tr` set into its elements, or a complaint. -/
def trItems (fuel : Nat) (cs : Bytes) (acc : List TrItem) : Except Bytes (List TrItem) :=
  match fuel with
  | 0 => .ok acc
  | fuel + 1 =>
    match cs with
    | [] => .ok acc
    | 91 :: 58 :: rest =>
      -- a class `[:name:]`
      let name := rest.takeWhile fun c => c != 58
      let after := rest.drop name.length
      match after with
      | 58 :: 93 :: r =>
        match trClass name with
        | some ms => trItems fuel r (acc ++ [.cls name ms])
        | none => .error (t "invalid character class " ++ quoteLocale name)
      | _ => trItems fuel (58 :: rest) (acc ++ [.byte 91])
    | 91 :: 61 :: c :: 61 :: 93 :: rest => trItems fuel rest (acc ++ [.byte c])
    | 91 :: rest =>
      -- a repeat `[c*n]`
      match trByte rest with
      | some (c, 42 :: r) =>
        let ds := r.takeWhile Bytes.isDigit
        match r.drop ds.length with
        | 93 :: r' =>
          let n := if ds.isEmpty then none else
            let v := Bytes.digitsValue ds
            if v == 0 then none else some v
          trItems fuel r' (acc ++ [.repeat_ c n])
        | _ => trItems fuel rest (acc ++ [.byte 91])
      | _ => trItems fuel rest (acc ++ [.byte 91])
    | _ =>
      match trByte cs with
      | some (c, 45 :: r) =>
        match trByte r with
        | some (hi, r') =>
          if hi < c then
            .error (t "range-endpoints of '" ++ cs.take (cs.length - r'.length) ++
              t "' are in reverse collating sequence order")
          else trItems fuel r' (acc ++ [.range c hi])
        | none => trItems fuel r (acc ++ [.byte c, .byte 45])
      | some (c, r) => trItems fuel r (acc ++ [.byte c])
      | none => .ok acc

/-- The bytes of a set, a repeat without count filling up to a length. -/
def trExpand (items : List TrItem) (fillTo : Nat) : List UInt8 :=
  let fixedLen := items.foldl (fun n i => n + match i with
    | .byte _ => 1
    | .range lo hi => hi.toNat - lo.toNat + 1
    | .cls _ ms => ms.length
    | .repeat_ _ (some k) => k
    | .repeat_ _ none => 0) 0
  items.foldl (fun acc i => acc ++ match i with
    | .byte b => [b]
    | .range lo hi => (List.range (hi.toNat - lo.toNat + 1)).map fun k => (lo.toNat + k).toUInt8
    | .cls _ ms => ms
    | .repeat_ b (some k) => List.replicate k b
    | .repeat_ b none => List.replicate (fillTo - fixedLen) b) []

/-- `tr`. -/
def tr (name : String) (args : List Bytes) : Prog Unit := do
  let table : OptTable := ⟨[('c', .none), ('C', .none), ('d', .none), ('s', .none), ('t', .none)],
    [("complement", "c", .none), ("delete", "d", .none), ("squeeze-repeats", "s", .none),
      ("truncate-set1", "t", .none)]⟩
  let p ← options name table args
  let comp := p.has "c" || p.has "C"
  let del := p.has "d"
  let squeeze := p.has "s"
  let ops := p.2
  let translating := !del && ops.length ≥ 1 && !(squeeze && ops.length == 1)
  match ops with
  | [] => usageError name (t "missing operand")
  | [a] =>
    if del && squeeze then
      do complain name (t "missing operand after " ++ quoteLocale a)
         errText "Two strings must be given when both deleting and squeezing repeats.\n"
         tryHelp name
         exit 1
    else if !del && !squeeze then
      do complain name (t "missing operand after " ++ quoteLocale a)
         errText "Two strings must be given when translating.\n"
         tryHelp name
         exit 1
  | _ :: b :: more =>
    if del && !squeeze then
      do complain name (t "extra operand " ++ quoteLocale b)
         errText "Only one string may be given when deleting without squeezing repeats.\n"
         tryHelp name
         exit 1
    else match more with
      | c :: _ => usageError name (t "extra operand " ++ quoteLocale c)
      | [] => pure ()
  let set1Items ← match trItems (ops.headD []).length (ops.headD []) [] with
    | .ok is => pure is
    | .error e => do complain name e; exit 1
  let set2Items ← match ops with
    | _ :: b :: _ => match trItems (b.length + 1) b [] with
      | .ok is => pure is
      | .error e => do complain name e; exit 1
    | _ => pure []
  let s1raw := trExpand set1Items 0
  let s1 := if comp then ((List.range 256).map (·.toUInt8)).filter (!s1raw.contains ·) else s1raw
  let s2 := trExpand set2Items s1.length
  let bs ← readPieces 0 none
  -- the mapping of each byte
  let mapping : Array UInt8 :=
    if translating then
      if s2.isEmpty then (List.range 256).toArray.map (·.toUInt8)
      else
        let s1 := if p.has "t" then s1.take s2.length else s1
        let s2 := s2 ++ List.replicate (s1.length - s2.length) (s2.getLast?.getD 0)
        (s1.zip s2).foldl (fun a (x, y) => a.set! x.toNat y) ((List.range 256).toArray.map (·.toUInt8))
    else (List.range 256).toArray.map (·.toUInt8)
  if translating && s2.isEmpty && !s1.isEmpty then
    complain name (t "when not truncating set1, string2 must be non-empty")
    exit 1
  let deleteSet : Array Bool := (List.range 256).toArray.map fun i => del && s1.contains i.toUInt8
  let squeezeSet : Array Bool := (List.range 256).toArray.map fun i =>
    squeeze && (if del || translating then s2 else s1).contains i.toUInt8
  let transform (data : ByteArray) (prev : Option UInt8) : ByteArray × Option UInt8 :=
    data.data.foldl (fun (acc, prev) c =>
      if deleteSet[c.toNat]! then (acc, prev)
      else
        let m := mapping[c.toNat]!
        if squeezeSet[m.toNat]! && prev == some m then (acc, prev) else (acc.push m, some m))
      (ByteArray.empty, prev)
  match bs with
  | none => exit 0
  | some (ps, m) =>
    let mut prev : Option UInt8 := none
    for piece in ps do
      reach (.at piece.stamp.time)
      match piece.times with
      | none =>
        -- a unit without end: its image, without end (squeezing may make it shrink to one)
        let (u, _) := transform piece.unit prev
        if squeeze then
          let (u2, _) := transform (piece.unit ++ piece.unit) prev
          let _ ← writeRepeated 1 (if u2.size == u.size then u else u) none
        else
          let _ ← writeRepeated 1 u none
      | some k =>
        let (u, pv) := transform (Judge.repeatPrefix piece.unit (some k) (piece.unit.size * k)) prev
        prev := pv
        let _ ← write 1 u
    reach m

end Utility

end Machine

end PracticeForge
