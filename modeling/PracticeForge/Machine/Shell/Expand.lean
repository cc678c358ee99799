import PracticeForge.Machine.Shell.State
import PracticeForge.Machine.Shell.Arith
import PracticeForge.Machine.Shell.Pattern

/-!
# Machine/Shell/Expand — turning words into fields

A word is expanded part by part into *cells*: bytes, each marked quoted or not and with the
expansion it came from, and quote marks, which stand for quoting that produced no byte (`""`).
Then, for a command's words:

* *field splitting* cuts the unquoted results of expansions at the bytes of `IFS`.  White space
  of `IFS` runs together and is dropped at the start of the word; any other byte of `IFS` ends a
  field by itself.  A field ends only where something (a byte or a quote mark) was seen since the
  last cut, so `""$x` keeps an empty field in front of a leading blank of `$x`.  The positional
  parameters of `$@` and `$*` are joined by a zero byte, which always splits (and alone splits
  the quoted `"$@"`);
* *pathname expansion* matches a field with an unquoted `*`, `?` or `[` against the file names,
  component by component; the sorted matches replace it, and with none it stays;
* *quote removal* keeps the bytes.

Elsewhere (assignments, `case` words, redirection targets, here-documents) a word is expanded
without splitting or matching.

The parameters are the shell's variables, the positional parameters, and the special ones:
`$#`, `$?`, `$-`, `$$`, `$!`, `$0`, `$@` and `$*`.  `${...}` forms give defaults, assign, fail,
test for being set, trim a prefix or suffix matching a pattern, and count bytes.  A command
substitution runs its text in a copy of the shell, and gives the output without its last new
lines.  An arithmetic expansion evaluates its text as a 64-bit integer expression.
-/

namespace PracticeForge

namespace Machine

namespace Shell

open Sh

/-- A byte of an expanded word, or a quote mark. -/
inductive Cell where
  /-- A byte; quoted when quoting protects it; with the number of the expansion whose result it
  is part of, when that result is subject to splitting (and whether only zero bytes split it). -/
  | byte (b : UInt8) (quoted : Bool) (region : Option (Nat × Bool))
  /-- Quoting that made no byte. -/
  | mark
  deriving Inhabited, BEq

/-- The bytes of cells. -/
def Cell.bytes (cs : List Cell) : Bytes :=
  cs.filterMap fun
    | .byte b _ _ => some b
    | .mark => none

/-- Bytes as cells. -/
def Cell.ofBytes (bs : Bytes) (quoted : Bool) (region : Option (Nat × Bool)) : List Cell :=
  bs.map fun b => .byte b quoted region

/-- The bytes white space in `IFS` stands for, as the shell splits. -/
def defaultIfs : Bytes := [32, 9, 10]

/-- Splits cells into fields at the bytes of `IFS` in the results of expansions. -/
def splitFields (ifs : Bytes) (cells : List Cell) : List (List Cell) :=
  go cells.length cells [] []
where
  isIfs (nulOnly : Bool) (b : UInt8) : Bool := b == 0 || (!nulOnly && ifs.contains b)
  isSpace (nulOnly : Bool) (b : UInt8) : Bool := !nulOnly && (b == 0 || defaultIfs.contains b)
  /-- After a cut: drops the rest of a run of `IFS` bytes of the same expansion, taking at most
  one byte that is not white space, and only after white space. -/
  skip : Nat → Nat → Bool → List Cell → List Cell
    | 0, _, _, cs => cs
    | fuel + 1, id, space, c :: rest =>
      match c with
      | .byte b _ (some (id', false)) =>
        if id' == id && isIfs false b then
          if isSpace false b then skip fuel id space rest
          else if space then skip fuel id false rest
          else c :: rest
        else c :: rest
      | _ => c :: rest
    | _, _, _, [] => []
  go : Nat → List Cell → List Cell → List (List Cell) → List (List Cell)
    | 0, _, cur, fields => if cur.isEmpty then fields else fields ++ [cur]
    | _, [], cur, fields => if cur.isEmpty then fields else fields ++ [cur]
    | fuel + 1, c :: rest, cur, fields =>
      match c with
      | .byte b _ (some (id, nulOnly)) =>
        if isIfs nulOnly b then
          let space := isSpace nulOnly b
          if cur.isEmpty && space then go fuel rest [] fields
          else
            let rest := if nulOnly then rest else skip rest.length id space rest
            go fuel rest [] (fields ++ [cur])
        else go fuel rest (cur ++ [c]) fields
      | _ => go fuel rest (cur ++ [c]) fields

/-- A field's cells as a pattern: quoted bytes that mean something to a pattern are escaped. -/
def Cell.pattern (cs : List Cell) : Bytes :=
  cs.foldr (fun c acc => match c with
    | .byte b true _ => if [42, 63, 91, 93, 92, 33, 45].contains b then 92 :: b :: acc else b :: acc
    | .byte b false _ => b :: acc
    | .mark => acc) []

/-- Whether a field's cells hold an unquoted `*`, `?` or `[`. -/
def Cell.hasMagic (cs : List Cell) : Bool :=
  cs.any fun
    | .byte b false _ => b == 42 || b == 63 || b == 91
    | _ => false

/-- The names in a directory a pattern component matches: a leading `.` must be matched by a
leading `.`, which also matches `.` and `..`. -/
def matchNames (files : Files) (dir : Bytes) (comp : Bytes) : List Bytes :=
  let dotted := comp.head? == some 46 || comp.take 2 == [92, 46]
  let names := (if dotted then [[46], [46, 46]] else []) ++ files.list dir
  names.filter fun n => (dotted || n.head? != some 46) && Pattern.test comp n

/-- Expands a pattern, component by component, to the paths it matches. -/
def globPaths (files : Files) (cwd : Bytes) : Nat → Bytes → List Bytes → List Bytes
  | 0, _, _ => []
  | _, shown, [] =>
    -- every component matched: the path must exist
    let abs := Files.resolve cwd shown
    if (files.get? abs).isSome then [shown] else []
  | fuel + 1, shown, comp :: rest =>
    let joinName (n : Bytes) : Bytes :=
      if shown.isEmpty then n else if shown == [47] then 47 :: n else shown ++ [47] ++ n
    if Pattern.isMagic comp then
      let dir := Files.resolve cwd (if shown.isEmpty then [46] else shown)
      if !files.isDir dir then []
      else
        (matchNames files dir comp).flatMap fun n =>
          match rest with
          | [] => [joinName n]
          | [[]] =>
            -- a trailing slash: directories only
            if files.isDir (Files.resolve cwd (joinName n)) then [joinName n ++ [47]] else []
          | _ => globPaths files cwd fuel (joinName n) rest
    else
      match rest with
      | [[]] => globPaths files cwd fuel (joinName (Pattern.unescape comp) ++ [47]) []
      | _ => globPaths files cwd fuel (joinName (Pattern.unescape comp)) rest

/-- Pathname expansion of a field: the sorted matches, or the field as it is. -/
def globField (files : Files) (cwd : Bytes) (cs : List Cell) : List Bytes :=
  if !Cell.hasMagic cs then [Cell.bytes cs]
  else
    let p := Cell.pattern cs
    let (shown, comps) : Bytes × List Bytes := match p with
      | 47 :: rest => ([47], Bytes.splitOn 47 rest)
      | _ => ([], Bytes.splitOn 47 p)
    let found := globPaths files cwd (comps.length + 1) shown comps
    if found.isEmpty then [Cell.bytes cs]
    else found.mergeSort fun a b => decide (a ≤ b)

/-- The home directories of the system's users, for `~name`. -/
def homeOf (user : Bytes) : Option Bytes :=
  ([("root", "/root"), ("daemon", "/usr/sbin"), ("bin", "/bin"), ("sys", "/dev"), ("sync", "/bin"),
    ("games", "/usr/games"), ("man", "/var/cache/man"), ("lp", "/var/spool/lpd"), ("mail", "/var/mail"),
    ("news", "/var/spool/news"), ("uucp", "/var/spool/uucp"), ("proxy", "/bin"), ("www-data", "/var/www"),
    ("backup", "/var/backups"), ("list", "/var/list"), ("irc", "/run/ircd"), ("nobody", "/nonexistent"),
    ("_apt", "/nonexistent")].find? fun (u, _) => Bytes.ofString u == user).map (Bytes.ofString ·.2)

/-- How a parameter reads: unset, one value, or the positional parameters. -/
inductive ParamValue where
  | unset
  | one (v : Bytes)
  | many (vs : List Bytes)

/-- Runs command substitutions: the text and its line, giving the output. -/
structure Expander where
  substitute : Bytes → Nat → Sh Bytes

/-- The value of `IFS` for splitting: unset means blank, tab and new line. -/
def ifsValue : Sh Bytes := do
  match ← var? (t "IFS") with
  | some ⟨some v, _, _⟩ => return v
  | _ => return defaultIfs

/-- The byte `$*` and the unsplit `$@` join with: the first of `IFS` (a blank when unset), or
none when `IFS` is empty. -/
def joinByte : Sh (Option UInt8) := do
  match ← var? (t "IFS") with
  | some ⟨some v, _, _⟩ => return v.head?
  | _ => return some 32

/-- The value of a parameter. -/
def paramValue (name : Bytes) : Sh ParamValue := do
  let st ← state
  match name with
  | [64] | [42] => return (if st.params.isEmpty then .unset else .many st.params)
  | [35] => return .one (Bytes.ofNat st.params.length)
  | [63] => return .one (Bytes.ofNat st.status)
  | [45] => return .one st.opts.letters
  | [36] => return .one (Bytes.ofNat st.rootPid)
  | [33] => return (match st.lastJob with
      | some p => .one (Bytes.ofNat p)
      | none => .unset)
  | [48] => return .one st.name
  | _ =>
    if name.all Bytes.isDigit then
      let n := Bytes.digitsValue name
      return (match st.params[n - 1]? with
        | some v => if n == 0 then .one st.name else .one v
        | none => .unset)
    else
      match st.vars.lookup name with
      | some ⟨some v, _, _⟩ => return .one v
      | _ => return .unset

/-- The parameter's value as one string: the positional parameters joined. -/
def joined (v : ParamValue) : Sh Bytes := do
  match v with
  | .unset => return []
  | .one s => return s
  | .many vs =>
    let sep := match ← joinByte with
      | some c => [c]
      | none => []
    return (vs.intersperse sep).flatten

/-- Drops the shortest or longest prefix or suffix of a value that a pattern matches. -/
def trim (op : ParamOp) (pat : Bytes) (v : Bytes) : Bytes :=
  let n := v.length
  let cuts := List.range (n + 1)
  match op with
  | .dropPrefix =>
    match cuts.find? fun k => Pattern.test pat (v.take k) with
    | some k => v.drop k
    | none => v
  | .dropLongPrefix =>
    match cuts.reverse.find? fun k => Pattern.test pat (v.take k) with
    | some k => v.drop k
    | none => v
  | .dropSuffix =>
    match cuts.reverse.find? fun k => Pattern.test pat (v.drop k) with
    | some k => v.take k
    | none => v
  | .dropLongSuffix =>
    match cuts.find? fun k => Pattern.test pat (v.drop k) with
    | some k => v.take k
    | none => v
  | _ => v

/-- The length of an unquoted literal's tilde prefix that may be expanded: up to a `/` (or `:`
in an assignment), or the whole literal when it ends the word. -/
def tildePrefix (bs : Bytes) (assignment : Bool) (endsWord : Bool) : Option Bytes :=
  match bs with
  | 126 :: rest =>
    let name := rest.takeWhile fun c => c != 47 && !(assignment && c == 58)
    if name.length < rest.length || endsWord then some name else none
  | _ => none

/-- The home a tilde prefix names, if it names one. -/
def tildeHome (name : Bytes) : Sh (Option Bytes) := do
  if name.isEmpty then
    match ← var? (t "HOME") with
    | some ⟨some h, _, _⟩ => return (if h.isEmpty then none else some h)
    | _ => return none
  else return homeOf name

mutual

/-- Expands a word's parts into cells; `full` when the result will be split, `assignment` for
the value of an assignment (tildes after `:` too).  The number of the next expansion is
threaded through. -/
def expandParts (fuel : Nat) (x : Expander) (full assignment tilde : Bool) (parts : Word) (next : Nat) :
    Sh (List Cell × Nat) :=
  match fuel with
  | 0 => fatal (t "expansion too deep")
  | fuel + 1 => do
    let mut acc : List Cell := []
    let mut n := next
    let mut first := true
    let mut rest := parts
    for p in parts do
      rest := rest.drop 1
      let (cs, n') ← expandPart fuel x full assignment (first && tilde) rest.isEmpty p n
      acc := acc ++ cs
      n := n'
      first := false
    return (acc, n)

/-- Expands one part of a word. -/
def expandPart (fuel : Nat) (x : Expander) (full assignment atStart atEnd : Bool) (p : Part) (next : Nat) :
    Sh (List Cell × Nat) :=
  match fuel with
  | 0 => fatal (t "expansion too deep")
  | fuel + 1 => do
    match p with
    | .lit bs quoted =>
      if quoted then return (Cell.ofBytes bs quoted none, next)
      else
        -- tildes at the start of the word, and after each `:` of an assignment
        let pieces := if assignment then Bytes.splitOn 58 bs else [bs]
        let count := pieces.length
        let mut cs : List Cell := []
        let mut i := 0
        for piece in pieces do
          if i > 0 then cs := cs ++ [.byte 58 false none]
          let eligible := (i == 0 && atStart) || (i > 0 && assignment)
          let done ← if eligible then
              match tildePrefix piece assignment (i + 1 < count || atEnd) with
              | some name =>
                match ← tildeHome name with
                | some home => pure (some (Cell.ofBytes home true none ++ Cell.ofBytes (piece.drop (name.length + 1)) false none))
                | none => pure none
              | none => pure none
            else pure none
          cs := cs ++ done.getD (Cell.ofBytes piece false none)
          i := i + 1
        return (cs, next)
    | .emptyQuote => return ([.mark], next)
    | .command src line quoted =>
      let out ← x.substitute src line
      let out := (out.reverse.dropWhile (· == 10)).reverse
      let cs := Cell.ofBytes out quoted (if quoted then none else some (next, false))
      return ((if quoted then [.mark] else []) ++ cs, next + 1)
    | .arith expr quoted =>
      let (ecs, n) ← expandParts fuel x false false false expr next
      let text := Cell.bytes ecs
      let st ← state
      let lookup (name : Bytes) : Option Bytes :=
        match st.vars.lookup name with
        | some ⟨some v, _, _⟩ => some v
        | _ => none
      match evalArith lookup text with
      | .error e => fatal (e.message text)
      | .ok (v, assigned) =>
        for (name, value) in assigned do assign name (Bytes.ofInt value.toInt)
        let cs := Cell.ofBytes (Bytes.ofInt v.toInt) quoted (if quoted then none else some (n, false))
        return ((if quoted then [.mark] else []) ++ cs, n + 1)
    | .param name op word quoted => expandParam fuel x full name op word quoted next

/-- Expands a parameter. -/
def expandParam (fuel : Nat) (x : Expander) (full : Bool) (name : Bytes) (op : ParamOp) (word : Word)
    (quoted : Bool) (next : Nat) : Sh (List Cell × Nat) :=
  match fuel with
  | 0 => fatal (t "expansion too deep")
  | fuel + 1 => do
    let v ← paramValue name
    let st ← state
    let isSet := match v with
      | .unset => false
      | _ => true
    let isEmpty := match v with
      | .unset => true
      | .one s => s.isEmpty
      | .many vs => vs.all (·.isEmpty) && vs.length ≤ 1
    let positional := name == [64] || name == [42]
    -- the value as cells, as quoting and splitting ask
    let valueCells (n : Nat) : Sh (List Cell × Nat) := do
      match v with
      | .many vs =>
        if quoted && name == [64] && full then
          -- "$@": each parameter a field
          let cs := (vs.map fun s => Cell.ofBytes s true (some (n, true))).intersperse [.byte 0 true (some (n, true))]
          return (cs.flatten, n + 1)
        else if !quoted && full then
          let cs := (vs.map fun s => Cell.ofBytes s false (some (n, false))).intersperse [.byte 0 false (some (n, false))]
          return (cs.flatten, n + 1)
        else
          let s ← joined v
          return ((if quoted then [.mark] else []) ++ Cell.ofBytes s quoted (if quoted then none else some (n, false)), n + 1)
      | _ =>
        let s ← joined v
        if quoted then return (.mark :: Cell.ofBytes s true none, n)
        else return (Cell.ofBytes s false (some (n, false)), n + 1)
    let wordCells : Sh (List Cell × Nat) := expandParts fuel x full false true word next
    let wordText : Sh Bytes := do
      let (cs, _) ← expandParts fuel x false false true word next
      return Cell.bytes cs
    let unsetError : Sh Unit := do
      if st.opts.nounset && !isSet && !positional then fatal (name ++ t ": parameter not set")
    match op with
    | .plain =>
      unsetError
      valueCells next
    | .length =>
      unsetError
      let s ← joined v
      let cs := Cell.ofBytes (Bytes.ofNat s.length) quoted (if quoted then none else some (next, false))
      return ((if quoted then [.mark] else []) ++ cs, next + 1)
    | .orDefault colon =>
      if !isSet || (colon && isEmpty) then
        let (cs, n) ← wordCells
        return ((if quoted then [.mark] else []) ++ cs, n)
      else valueCells next
    | .orAssign colon =>
      if !isSet || (colon && isEmpty) then
        if !(Bytes.isName name) then fatal (name ++ t ": bad variable name")
        let w ← wordText
        assign name w
        let cs := Cell.ofBytes w quoted (if quoted then none else some (next, false))
        return ((if quoted then [.mark] else []) ++ cs, next + 1)
      else valueCells next
    | .orFail colon =>
      if !isSet || (colon && isEmpty) then
        let w ← wordText
        let msg := if !word.isEmpty then w
          else if colon then t "parameter not set or null" else t "parameter not set"
        fatal (name ++ t ": " ++ msg)
      else valueCells next
    | .ifSet colon =>
      if isSet && !(colon && isEmpty) then
        let (cs, n) ← wordCells
        return ((if quoted then [.mark] else []) ++ cs, n)
      else return ((if quoted then [.mark] else []), next)
    | .dropSuffix | .dropLongSuffix | .dropPrefix | .dropLongPrefix =>
      unsetError
      let (pcs, _) ← expandParts fuel x false false true word next
      let s ← joined v
      let r := trim op (Cell.pattern pcs) s
      let cs := Cell.ofBytes r quoted (if quoted then none else some (next, false))
      return ((if quoted then [.mark] else []) ++ cs, next + 1)
    | .bad => fatal (t "Bad substitution")

end

/-- Expands a word into one string, without splitting or matching. -/
def expandString (fuel : Nat) (x : Expander) (w : Word) : Sh Bytes := do
  let (cs, _) ← expandParts fuel x false false true w 0
  return Cell.bytes cs

/-- Expands the value of an assignment. -/
def expandAssignment (fuel : Nat) (x : Expander) (w : Word) : Sh Bytes := do
  let (cs, _) ← expandParts fuel x false true true w 0
  return Cell.bytes cs

/-- Expands a word into a pattern: quoted bytes escaped. -/
def expandPattern (fuel : Nat) (x : Expander) (w : Word) : Sh Bytes := do
  let (cs, _) ← expandParts fuel x false false true w 0
  return Cell.pattern cs

/-- Expands words into fields: split, matched against file names, quotes removed. -/
def expandFields (fuel : Nat) (x : Expander) (ws : List Word) : Sh (List Bytes) := do
  let mut out : List Bytes := []
  for w in ws do
    let (cs, _) ← expandParts fuel x true false true w 0
    let ifs ← ifsValue
    let fields := splitFields ifs cs
    let st ← state
    let s ← get
    for f in fields do
      if st.opts.noglob then out := out ++ [Cell.bytes f]
      else out := out ++ globField s.world.files s.proc.cwd f
  return out

end Shell

end Machine

end PracticeForge
