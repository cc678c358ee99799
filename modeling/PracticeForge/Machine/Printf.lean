import PracticeForge.Machine.Format

/-!
# Machine/Printf — `printf` and `echo`, as the shell and the utilities write them

Two dialects of `printf` are kept: the shell's own, and the standalone utility's.  Both walk the
format, copying bytes, reading backslash escapes, and filling each `%` conversion from the next
argument (an empty one when none is left); the format is used again while arguments are left and
the last pass took some.  They differ in details:

* escapes: the shell reads `\a \b \e \f \n \r \t \v \\` and one to three octal digits; the
  utility also reads `\"`, `\c` (stop at once), `\xHH` and `\uHHHH`/`\UHHHHHHHH` (written as
  UTF-8), and refuses a `\x` or `\u` without digits;
* `%b` reads escapes in its argument the way `echo` does (`\0` then up to three octal digits,
  `\c` stopping all output); the shell allows a width and precision on it, the utility does not;
* the utility alone has `%q`, quoting its argument for the shell, and allows the length letters
  `h l L j t z`, and reads floating arguments as extended doubles;
* the wording of their complaints.

A numeric argument starting with a quote is the code of the character after it.  An argument
that is not all a number is read as far as it goes, with a warning and a status of 1.

`echo` comes in the same two dialects: the shell's reads escapes always and knows only `-n`; the
utility reads them only after `-e` and takes any run of `-n`, `-e`, `-E` options.
-/

namespace PracticeForge

namespace Machine

namespace Printf

open Format

/-- What a `printf` or `echo` produced: its output, its complaints in order, its status, and a
complaint that stopped it, if one did. -/
structure Outcome where
  out : ByteArray
  warnings : List Bytes
  status : Nat
  fatal : Option Bytes
  deriving Inhabited

/-- Whether a byte is an octal digit. -/
def isOctal (c : UInt8) : Bool := 48 ≤ c && c ≤ 55

/-- Up to `n` octal digits: their value and the rest. -/
def octalRun (n : Nat) (cs : Bytes) : Nat × Bytes :=
  let ds := (cs.takeWhile isOctal).take n
  (ds.foldl (fun v d => v * 8 + (d.toNat - 48)) 0, cs.drop ds.length)

/-- The byte of a simple escape letter, as both dialects read it. -/
def simpleEscape (c : UInt8) : Option UInt8 :=
  match c with
  | 92 => some 92
  | 97 => some 7
  | 98 => some 8
  | 101 => some 27
  | 102 => some 12
  | 110 => some 10
  | 114 => some 13
  | 116 => some 9
  | 118 => some 11
  | _ => none

/-- The shell's escape after a backslash in a format: the bytes and the rest. -/
def shellEscape (cs : Bytes) : Bytes × Bytes :=
  match cs with
  | c :: rest =>
    match simpleEscape c with
    | some v => ([v], rest)
    | none =>
      if isOctal c then
        let (v, r) := octalRun 3 cs
        ([(v % 256).toUInt8], r)
      else ([92], cs)
  | [] => ([92], [])

/-- Escapes as `echo` and `%b` read them in the shell: the bytes, and whether a `\c` stopped
the output. -/
def echoEscapes (fuel : Nat) (cs : Bytes) (acc : Bytes) : Bytes × Bool :=
  match fuel with
  | 0 => (acc.reverse, false)
  | fuel + 1 =>
    match cs with
    | [] => (acc.reverse, false)
    | 92 :: 99 :: _ => (acc.reverse, true)
    | 92 :: rest =>
      -- an octal constant starts with `\0`, then up to three digits
      let rest := match rest with
        | 48 :: d :: r => if isOctal d then d :: r else 48 :: d :: r
        | r => r
      let (bs, r) := shellEscape rest
      echoEscapes fuel r (bs.reverse ++ acc)
    | c :: rest => echoEscapes fuel rest (c :: acc)

/-- The UTF-8 bytes of a code point. -/
def utf8 (u : Nat) : Bytes := Bytes.ofString (String.singleton (Char.ofNat u))

/-- The value of hexadecimal digits. -/
def hexRun (ds : Bytes) : Nat := ds.foldl (fun v d => v * 16 + (hexValue d).getD 0) 0

/-- The utility's escape after a backslash: the bytes, the rest, whether `\c` stops the output,
or the complaint that stops it.  `octal0`, as in `%b`, lets `\0` lead up to three more octal
digits. -/
def utilityEscape (octal0 : Bool) (cs : Bytes) : Except Bytes (Bytes × Bytes × Bool) :=
  match cs with
  | 120 :: rest =>
    let ds := (rest.takeWhile fun c => (hexValue c).isSome).take 2
    if ds.isEmpty then .error (b "missing hexadecimal number in escape")
    else .ok ([(hexRun ds).toUInt8], rest.drop ds.length, false)
  | c :: rest =>
    if isOctal c then
      let start := if octal0 && c == 48 then rest else cs
      let (v, r) := octalRun 3 start
      .ok ([(v % 256).toUInt8], r, false)
    else if c == 34 then .ok ([34], rest, false)
    else if c == 99 then .ok ([], rest, true)
    else if c == 117 || c == 85 then
      let n := if c == 117 then 4 else 8
      let ds := (rest.takeWhile fun d => (hexValue d).isSome).take n
      if ds.length < n then .error (b "missing hexadecimal number in escape")
      else
        let u := hexRun ds
        if (u ≤ 159 && u != 36 && u != 64 && u != 96) || (55296 ≤ u && u ≤ 57343) then
          let hex := digits 16 false u
          .error (b "invalid universal character name \\" ++ [c] ++ fill 48 (n - hex.length) ++ hex)
        else .ok (utf8 u, rest.drop n, false)
    else
      match simpleEscape c with
      | some v => .ok ([v], rest, false)
      | none => .ok ([92, c], rest, false)
  | [] => .ok ([92], [], false)

/-- The utility's `%b` argument with its escapes read: the bytes, whether `\c` stopped the
output, or a complaint. -/
def utilityEscapes (fuel : Nat) (cs : Bytes) (acc : Bytes) : Except Bytes (Bytes × Bool) :=
  match fuel with
  | 0 => .ok (acc.reverse, false)
  | fuel + 1 =>
    match cs with
    | [] => .ok (acc.reverse, false)
    | 92 :: rest =>
      match utilityEscape true rest with
      | .ok (bs, r, stop) => if stop then .ok ((bs.reverse ++ acc).reverse, true) else utilityEscapes fuel r (bs.reverse ++ acc)
      | .error e => .error e
    | c :: rest => utilityEscapes fuel rest (c :: acc)

/-- The dialect of a `printf`. -/
inductive Dialect where
  | shell
  | utility
  deriving BEq

/-- How a dialect quotes an argument in a complaint. -/
def Dialect.quote (d : Dialect) (s : Bytes) : Bytes :=
  match d with
  | .shell => s
  | .utility => b "‘" ++ quoteBody s ++ b "’"
where
  /-- The utility shows a backslash doubled and control characters as C escapes. -/
  quoteBody (s : Bytes) : Bytes :=
    s.foldr (fun c acc =>
      let e : Bytes := match c with
        | 92 => [92, 92]
        | 10 => [92, 110]
        | 9 => [92, 116]
        | 13 => [92, 114]
        | 7 => [92, 97]
        | 8 => [92, 98]
        | 12 => [92, 102]
        | 11 => [92, 118]
        | _ =>
          if c < 32 || c == 127 then
            let o := Format.digits 8 false c.toNat
            92 :: (Format.fill 48 (3 - o.length) ++ o)
          else [c]
      e ++ acc) []

/-- The state of a `printf` run: output, complaints, status, the arguments left, and whether any
was taken in this pass. -/
structure Run where
  out : ByteArray
  warnings : List Bytes
  status : Nat
  args : List Bytes
  took : Bool

/-- Takes the next argument, if any. -/
def Run.next (r : Run) : Option Bytes × Run :=
  match r.args with
  | a :: rest => (some a, { r with args := rest, took := true })
  | [] => (none, r)

/-- Adds a complaint and sets the status to 1. -/
def Run.warn (r : Run) (w : Bytes) : Run := { r with warnings := r.warnings ++ [w], status := 1 }

/-- Checks that a number argument was read whole. -/
def checkRead (d : Dialect) (r : Run) (arg : Bytes) (used : Nat) (outOfRange : Bool) : Run :=
  if used < arg.length then
    if used == 0 then r.warn (d.quote arg ++ b (if d == .shell then ": expected numeric value" else ": expected a numeric value"))
    else r.warn (d.quote arg ++ b (if d == .shell then ": not completely converted" else ": value not completely converted"))
  else if outOfRange then r.warn (d.quote arg ++ b ": Numerical result out of range")
  else r

/-- The code of a character constant: the argument after its quote. -/
def charConstant (d : Dialect) (r : Run) (arg : Bytes) : Option (Nat × Run) :=
  match arg with
  | q :: rest =>
    if q == 39 || q == 34 then
      match d, rest with
      | .shell, c :: _ => some (c.toNat, r)
      | .shell, [] => some (0, r)
      | .utility, [] => none
      | .utility, _ =>
        -- a whole UTF-8 character counts as one
        let (code, len) := match String.fromUTF8? (Bytes.toArray rest) with
          | some s => match s.toList with
            | c :: _ => (c.toNat, (Bytes.ofString (String.singleton c)).length)
            | [] => (0, 1)
          | none =>
            -- the longest valid prefix's first character, else the byte
            match (List.range 4).reverse.findSome? fun k =>
                (String.fromUTF8? (Bytes.toArray (rest.take (k + 1)))).bind fun s => s.toList.head? with
            | some c => (c.toNat, (Bytes.ofString (String.singleton c)).length)
            | none => ((rest.head?.getD 0).toNat, 1)
        let after := rest.drop len
        let r := if after.isEmpty then r
          else r.warn (b "warning: " ++ after ++ b ": character(s) following character constant have been ignored")
        some (code, r)
    else none
  | [] => none

/-- A signed integer argument. -/
def intArg (d : Dialect) (r : Run) (arg : Option Bytes) : Int × Run :=
  match arg with
  | none => (0, r)
  | some a =>
    match charConstant d r a with
    | some (c, r) => (c, r)
    | none =>
      let rd := readInt a
      (rd.value, checkRead d r a rd.used rd.outOfRange)

/-- An unsigned integer argument. -/
def unsignedArg (d : Dialect) (r : Run) (arg : Option Bytes) : Nat × Run :=
  match arg with
  | none => (0, r)
  | some a =>
    match charConstant d r a with
    | some (c, r) => (c, r)
    | none =>
      let rd := readUnsigned a
      (rd.value, checkRead d r a rd.used rd.outOfRange)

/-- A floating argument. -/
def floatArg (d : Dialect) (r : Run) (arg : Option Bytes) : FloatVal × Run :=
  let fw := if d == .shell then doubleWidth else extendedWidth
  match arg with
  | none => (.finite false 0 1, r)
  | some a =>
    match charConstant d r a with
    | some (c, r) => (.finite false c 1, r)
    | none =>
      let rd := readFloat fw a
      (rd.value, checkRead d r a rd.used rd.outOfRange)

/-- Quotes a word for the shell, as `%q` does: as it is when nothing in it is special, else in
single quotes, or double quotes when it holds a single quote, with control characters written
`$'\n'`. -/
def shellQuote (s : Bytes) : Bytes :=
  let plain (c : UInt8) : Bool :=
    Bytes.isAlpha c || Bytes.isDigit c || c ≥ 128 ||
      [37, 43, 44, 45, 46, 47, 58, 64, 95].contains c
  let control (c : UInt8) : Bool := c < 32 || c == 127
  if s.isEmpty then b "''"
  else if s.all plain && s.head? != some 126 then s
  else if s.any control then
    -- quoted runs, with each control character written on its own
    let piece (c : UInt8) : Bytes :=
      b "'$'\\" ++ (match c with
        | 9 => b "t"
        | 10 => b "n"
        | 13 => b "r"
        | 7 => b "a"
        | 8 => b "b"
        | 12 => b "f"
        | 11 => b "v"
        | 27 => b "E"
        | _ => let o := digits 8 false c.toNat; fill 48 (3 - o.length) ++ o) ++ b "''"
    let body := s.foldl (fun acc c => if control c then acc ++ piece c
      else if c == 39 then acc ++ b "'\\''" else acc ++ [c]) []
    let whole := b "'" ++ body ++ b "'"
    -- empty quoted runs at the ends are dropped
    let whole := if (b "'''").isPrefixOf whole then whole.drop 2 else whole
    if (b "'''").isPrefixOf whole.reverse then (whole.reverse.drop 2).reverse else whole
  else if s.contains 39 then
    if s.any fun c => c == 34 || c == 36 || c == 96 || c == 92 then
      b "'" ++ s.foldl (fun acc c => if c == 39 then acc ++ b "'\\''" else acc ++ [c]) [] ++ b "'"
    else b "\"" ++ s ++ b "\""
  else b "'" ++ s ++ b "'"

/-- A 64-bit value as C's `int` keeps it: its low 32 bits, signed. -/
def toCInt (v : Int) : Int :=
  let m := v % 4294967296
  if m ≥ 2147483648 then m - 4294967296 else m

/-- A conversion read from a format: its spec, its letter (none at the end of the format), its
text from the `%` on, the format after it, whether the utility allows its flags with its letter,
and a complaint that stops the program. -/
structure Directive where
  spec : Spec
  conv : Option UInt8
  text : Bytes
  rest : Bytes
  allowed : Bool
  fatal : Option Bytes

/-- Whether the utility allows a conversion letter after the flags it saw (a `'` for grouping,
`#`, `0`) and a precision. -/
def letterAllowed (flags : Bytes) (hasPrec : Bool) (c : UInt8) : Bool :=
  let ch := Char.ofNat c.toNat
  "aAcdeEfFgGiosuxX".contains ch &&
    !(flags.contains 39 && "aAceEosxX".contains ch) &&
    !(flags.contains 35 && "cdisu".contains ch) &&
    !(flags.contains 48 && "cs".contains ch) &&
    !(hasPrec && ch == 'c')

/-- Reads a conversion's flags, width and precision (stars taking arguments) and its letter. -/
def directive (d : Dialect) (r : Run) (cs : Bytes) : Directive × Run :=
  let isFlag (c : UInt8) : Bool :=
    c == 35 || c == 45 || c == 43 || c == 32 || c == 48 || (d == .utility && (c == 39 || c == 73))
  let flags := cs.takeWhile isFlag
  let sp0 : Spec := ⟨flags.contains 45, flags.contains 43, flags.contains 32, flags.contains 35,
    flags.contains 48, 0, none⟩
  let rest := cs.drop flags.length
  let (sp1, rest, r, fatal1) : Spec × Bytes × Run × Option Bytes := match rest with
    | 42 :: r' =>
      let (a, r) := r.next
      let (w, r) := intArg d r a
      let bad := d == .utility && (w < -2147483648 || w > 2147483647)
      let w := toCInt w
      let sp := if w < 0 then { sp0 with left := true, width := w.natAbs } else { sp0 with width := w.toNat }
      (sp, r', r, if bad then some (b "invalid field width: " ++ d.quote (a.getD [])) else none)
    | _ =>
      let ds := rest.takeWhile Bytes.isDigit
      ({ sp0 with width := Bytes.digitsValue ds }, rest.drop ds.length, r, none)
  -- the shell skips any further digits and stars
  let rest := if d == .shell then rest.dropWhile fun c => Bytes.isDigit c || c == 42 else rest
  let (sp2, rest, r, hasPrec, fatal2) : Spec × Bytes × Run × Bool × Option Bytes := match rest with
    | 46 :: r' =>
      match r' with
      | 42 :: r'' =>
        let (a, r) := r.next
        let (p, r) := intArg d r a
        let bad := d == .utility && p > 2147483647
        let p := if d == .shell then toCInt p else p
        let r'' := if d == .shell then r''.dropWhile fun c => Bytes.isDigit c || c == 42 else r''
        ({ sp1 with prec := if p < 0 then none else some p.toNat }, r'', r, true,
          if bad then some (b "invalid precision: " ++ d.quote (a.getD [])) else none)
      | _ =>
        let ds := r'.takeWhile Bytes.isDigit
        let r'' := r'.drop ds.length
        let r'' := if d == .shell then r''.dropWhile fun c => Bytes.isDigit c || c == 42 else r''
        ({ sp1 with prec := some (Bytes.digitsValue ds) }, r'', r, true, none)
    | _ => (sp1, rest, r, false, none)
  let rest := if d == .utility then rest.dropWhile fun c => [104, 108, 76, 106, 116, 122].contains c else rest
  let fatal := fatal1.orElse fun _ => fatal2
  match rest with
  | c :: after =>
    (⟨sp2, some c, 37 :: cs.take (cs.length - after.length), after, letterAllowed flags hasPrec c, fatal⟩, r)
  | [] => (⟨sp2, none, 37 :: cs, [], false, fatal⟩, r)

/-- One pass of a format over the arguments: the run after it, and a complaint that stops the
program or a `\c` that stops the output (`some none`). -/
def pass (d : Dialect) (fuel : Nat) (cs : Bytes) (r : Run) : Run × Option (Option Bytes) :=
  match fuel with
  | 0 => (r, none)
  | fuel + 1 =>
    match cs with
    | [] => (r, none)
    | 92 :: rest =>
      match d with
      | .shell =>
        let (bs, rest) := shellEscape rest
        pass d fuel rest { r with out := r.out ++ Bytes.toArray bs }
      | .utility =>
        match utilityEscape false rest with
        | .ok (bs, rest, stop) =>
          let r := { r with out := r.out ++ Bytes.toArray bs }
          if stop then (r, some none) else pass d fuel rest r
        | .error e => (r, some (some e))
    | 37 :: 37 :: rest => pass d fuel rest { r with out := r.out.push 37 }
    | 37 :: rest =>
      if d == .utility && rest.head? == some 98 then
        -- `%b` right after the `%`
        let (a, r) := r.next
        match a with
        | none => pass d fuel (rest.drop 1) r
        | some a =>
          match utilityEscapes (a.length + 1) a [] with
          | .ok (bs, stop) =>
            let r := { r with out := r.out ++ Bytes.toArray bs }
            if stop then (r, some none) else pass d fuel (rest.drop 1) r
          | .error e => (r, some (some e))
      else if d == .utility && rest.head? == some 113 then
        let (a, r) := r.next
        let r := match a with
          | some a => { r with out := r.out ++ Bytes.toArray (shellQuote a) }
          | none => r
        pass d fuel (rest.drop 1) r
      else
        let (dv, r) := directive d r rest
        let sp := dv.spec
        let after := dv.rest
        let bad (r : Run) : Run × Option (Option Bytes) :=
          match d with
          | .shell => (r, some (some (dv.text ++ b ": invalid directive")))
          | .utility => (r, some (some (dv.text ++ b ": invalid conversion specification")))
        match dv.fatal, dv.conv with
        | some e, _ => (r, some (some e))
        | none, none =>
          match d with
          | .shell => (r, some (some (b "missing format character")))
          | .utility => bad r
        | none, some c =>
          if d == .utility && !dv.allowed then bad r else
          let ch := Char.ofNat c.toNat
          let emit (bs : Bytes) (r : Run) := pass d fuel after { r with out := r.out ++ Bytes.toArray bs }
          if ch == 's' then
            let (a, r) := r.next
            emit (string sp (a.getD [])) r
          else if ch == 'b' && d == .shell then
            let (a, r) := r.next
            let (bs, stop) := echoEscapes ((a.getD []).length + 1) (a.getD []) []
            if stop then ({ r with out := r.out ++ Bytes.toArray bs }, some none)
            else emit (string sp bs) r
          else if ch == 'c' then
            let (a, r) := r.next
            emit (string { sp with prec := none } [((a.getD []).head?.getD 0)]) r
          else if ch == 'd' || ch == 'i' then
            let (a, r) := r.next
            let (v, r) := intArg d r a
            emit (signedInt sp v) r
          else if ch == 'o' || ch == 'u' || ch == 'x' || ch == 'X' then
            let (a, r) := r.next
            let (v, r) := unsignedArg d r a
            emit (unsignedInt sp ch v) r
          else if "aAeEfFgG".contains ch then
            let (a, r) := r.next
            let (v, r) := floatArg d r a
            emit (float (if d == .shell then doubleWidth else extendedWidth) sp ch v) r
          else bad r
    | c :: rest => pass d fuel rest { r with out := r.out.push c }

/-- Runs `printf` with a format and its arguments. -/
def run (d : Dialect) (fmt : Bytes) (args : List Bytes) : Outcome :=
  go (args.length + 1) ⟨ByteArray.empty, [], 0, args, false⟩
where
  go : Nat → Run → Outcome
    | 0, r => ⟨r.out, r.warnings, r.status, none⟩
    | fuel + 1, r =>
      let (r, stop) := pass d (fmt.length + 1) fmt { r with took := false }
      match stop with
      | some (some e) => ⟨r.out, r.warnings, if d == .shell then 2 else 1, some e⟩
      | some none => ⟨r.out, r.warnings, if d == .utility then 0 else r.status, none⟩
      | none =>
        if r.took && !r.args.isEmpty then go fuel r
        else
          let r := if d == .utility && !r.took && !r.args.isEmpty then
              r.warn (b "warning: ignoring excess arguments, starting with " ++ d.quote (r.args.headD []))
              |> fun r' => { r' with status := r.status }
            else r
          ⟨r.out, r.warnings, r.status, none⟩

/-- The shell's `echo`: a first `-n` drops the new line; escapes are read, `\c` ending all
output. -/
def shellEcho (args : List Bytes) : ByteArray :=
  let (newline, args) := match args with
    | a :: rest => if a == b "-n" then (false, rest) else (true, args)
    | [] => (true, [])
  go args newline ByteArray.empty
where
  go : List Bytes → Bool → ByteArray → ByteArray
    | [], newline, acc => if newline then acc.push 10 else acc
    | a :: rest, newline, acc =>
      let (bs, stop) := echoEscapes (a.length + 1) a []
      let acc := acc ++ Bytes.toArray bs
      if stop then acc
      else if rest.isEmpty then go rest newline acc
      else go rest newline (acc.push 32)

/-- The utility's escapes in `echo -e`: the bytes and whether `\c` stopped the output. -/
def echoUtilityEscapes (fuel : Nat) (cs : Bytes) (acc : Bytes) : Bytes × Bool :=
  match fuel with
  | 0 => (acc.reverse, false)
  | fuel + 1 =>
    match cs with
    | [] => (acc.reverse, false)
    | 92 :: rest =>
      match rest with
      | 99 :: _ => (acc.reverse, true)
      | 120 :: r =>
        let ds := (r.takeWhile fun c => (hexValue c).isSome).take 2
        if ds.isEmpty then echoUtilityEscapes fuel r (120 :: 92 :: acc)
        else echoUtilityEscapes fuel (r.drop ds.length) ((hexRun ds).toUInt8 :: acc)
      | 48 :: r =>
        let (v, r) := octalRun 3 r
        echoUtilityEscapes fuel r ((v % 256).toUInt8 :: acc)
      | c :: r =>
        if isOctal c then
          let (v, r) := octalRun 3 (c :: r)
          echoUtilityEscapes fuel r ((v % 256).toUInt8 :: acc)
        else
          match simpleEscape c with
          | some v => echoUtilityEscapes fuel r (v :: acc)
          | none => echoUtilityEscapes fuel r (c :: 92 :: acc)
      | [] => echoUtilityEscapes fuel [] (92 :: acc)
    | c :: rest => echoUtilityEscapes fuel rest (c :: acc)

/-- The utility's `echo`: leading words made only of `-` and the letters `n`, `e`, `E` are
options (`-n` drops the new line, `-e` reads escapes, `-E` does not); the rest are written
with spaces between. -/
def utilityEcho (args : List Bytes) : ByteArray :=
  let isOpt (a : Bytes) : Bool :=
    match a with
    | 45 :: rest => !rest.isEmpty && rest.all fun c => c == 110 || c == 101 || c == 69
    | _ => false
  let opts := args.takeWhile isOpt
  let words := args.drop opts.length
  let (newline, escapes) := opts.foldl (fun (nl, esc) o =>
    (o.drop 1).foldl (fun (acc : Bool × Bool) (c : UInt8) =>
      if c == 110 then (false, acc.2) else if c == 101 then (acc.1, true) else (acc.1, false)) (nl, esc))
    (true, false)
  let text := (words.intersperse [32]).flatten
  if escapes then
    let (bs, stop) := echoUtilityEscapes (text.length + 1) text []
    Bytes.toArray (if stop || !newline then bs else bs ++ [10])
  else Bytes.toArray (if newline then text ++ [10] else text)

end Printf

end Machine

end PracticeForge
