import PracticeForge.Machine.Shell.Expand
import PracticeForge.Machine.Shell.Test
import PracticeForge.Machine.Printf
import PracticeForge.Machine.Utility.Table

/-!
# Machine/Shell/Builtin — the builtins that do not run other commands

These builtins act on the shell itself or write what it knows: `echo`, `printf`, `true`,
`false`, `:`, `exit`, `return`, `break`, `continue`, `cd`, `pwd`, `set`, `shift`, `export`,
`readonly`, `unset`, `local`, `read`, `test` and `[`, `trap`, `wait`, `umask`, `times`, `type`
and `kill`.  (`eval`, `.`, `exec` and `command` run commands, and live with the evaluator.)

Each takes its arguments and gives a status; an error it raises is reported as
`name: line: builtin: message`, and then ends the shell if the builtin is special, or else gives
status 2.

The special builtins, whose assignments last and whose errors end the shell, are `.`, `:`,
`break`, `continue`, `eval`, `exec`, `exit`, `export`, `local`, `readonly`, `return`, `set`,
`shift`, `times`, `trap` and `unset`.
-/

namespace PracticeForge

namespace Machine

namespace Shell

open Sh

/-- The special builtins. -/
def specialBuiltins : List String :=
  [".", ":", "break", "continue", "eval", "exec", "exit", "export", "local", "readonly", "return",
    "set", "shift", "times", "trap", "unset"]

/-- The builtins that are not special. -/
def regularBuiltins : List String :=
  ["[", "alias", "bg", "cd", "chdir", "command", "echo", "false", "fg", "getopts", "hash", "jobs",
    "kill", "printf", "pwd", "read", "test", "true", "type", "ulimit", "umask", "unalias", "wait"]

/-- The reserved words. -/
def keywords : List String :=
  ["!", "case", "do", "done", "elif", "else", "esac", "fi", "for", "if", "in", "then", "until",
    "while", "\x7b", "\x7d"]

/-- Whether a name is one of some names. -/
def among (name : Bytes) (names : List String) : Bool := names.any fun n => Bytes.ofString n == name

/-- A number argument of `exit`, `shift`, `return`, `break` and `continue`: digits only. -/
def numberArg (a : Bytes) : Sh Nat := do
  if a.isEmpty || !a.all Bytes.isDigit || a.length > 18 then fatal (t "Illegal number: " ++ a)
  else return Bytes.digitsValue a

/-- Options of a builtin before its operands: the letters given, or a complaint for a letter it
does not take.  `--` ends them; a lone `-` is an operand. -/
def builtinOptions (allowed : List UInt8) (args : List Bytes) : Sh (List UInt8 × List Bytes) :=
  go args.length args []
where
  go : Nat → List Bytes → List UInt8 → Sh (List UInt8 × List Bytes)
    | 0, rest, acc => return (acc, rest)
    | fuel + 1, a :: rest, acc =>
      match a with
      | [45, 45] => return (acc, rest)
      | 45 :: c :: more =>
        match (c :: more).find? (!allowed.contains ·) with
        | some bad => fatal (t "Illegal option -" ++ [bad])
        | none => go fuel rest (acc ++ c :: more)
      | _ => return (acc, a :: rest)
    | _, [], acc => return (acc, [])

/-- A value in single quotes, as `set` and `export` list it. -/
def singleQuote (v : Bytes) : Bytes :=
  [39] ++ v.foldr (fun c acc => if c == 39 then t "'\\''" ++ acc else c :: acc) [] ++ [39]

/-- Writes bytes to standard output. -/
def say (bs : Bytes) : Sh Unit := prog (Prog.out (Bytes.toArray bs))

/-- `echo`. -/
def echoBuiltin (args : List Bytes) : Sh Nat := do
  if ← prog (Prog.write 1 (Printf.shellEcho args)) then return 0
  else
    complain (t "echo: I/O error")
    return 1

/-- `printf`. -/
def printfBuiltin (args : List Bytes) : Sh Nat := do
  let (_, args) ← builtinOptions [] args
  match args with
  | [] => fatal (t "usage: printf format [arg ...]")
  | fmt :: rest =>
    let o := Printf.run .shell fmt rest
    let _ ← prog (Prog.write 1 o.out)
    for w in o.warnings do complain w
    match o.fatal with
    | some e => complain e
    | none => pure ()
    return o.status

/-- `exit`: ends the shell with a status. -/
def exitBuiltin (args : List Bytes) : Sh Nat := do
  let n ← match args with
    | a :: _ => numberArg a
    | [] => status
  exitWith (n % 256)

/-- `return`: leaves the function with a status. -/
def returnBuiltin (args : List Bytes) : Sh Nat := do
  let n ← match args with
    | a :: _ => numberArg a
    | [] => status
  throw (.ret (n % 256))

/-- `break` and `continue`: leave or go on with some of the enclosing loops. -/
def loopBuiltin (continuing : Bool) (args : List Bytes) : Sh Nat := do
  let n ← match args with
    | a :: _ => numberArg a
    | [] => pure 1
  if n == 0 then fatal (t "Illegal number: 0")
  let depth := (← state).loopDepth
  if depth == 0 then return 0
  let n := min n depth
  throw (if continuing then .cont n else .brk n)

/-- `shift`. -/
def shiftBuiltin (args : List Bytes) : Sh Nat := do
  let n ← match args with
    | a :: _ => numberArg a
    | [] => pure 1
  let st ← state
  if n > st.params.length then fatal (t "can't shift that many")
  modifyState fun s => { s with params := s.params.drop n }
  return 0

/-- `cd`. -/
def cdBuiltin (args : List Bytes) : Sh Nat := do
  let (_, args) ← builtinOptions [76, 80] args
  let s ← get
  let oldPwd := s.proc.cwd
  let (target, announce) ← match args with
    | [] =>
      match ← var? (t "HOME") with
      | some ⟨some h, _, _⟩ => pure (h, false)
      | _ => fatal (t "HOME not set")
    | [45] :: _ =>
      match ← var? (t "OLDPWD") with
      | some ⟨some h, _, _⟩ => pure (h, true)
      | _ => fatal (t "OLDPWD not set")
    | d :: _ => pure (d, false)
  let abs := Files.resolve oldPwd target
  if !s.world.files.isDir abs then fatal (t "can't cd to " ++ target)
  set { s with proc := { s.proc with cwd := abs } }
  setVar (t "OLDPWD") oldPwd
  setVar (t "PWD") abs
  if announce then say (abs ++ [10])
  return 0

/-- `pwd`. -/
def pwdBuiltin (args : List Bytes) : Sh Nat := do
  let _ ← builtinOptions [76, 80] args
  say ((← get).proc.cwd ++ [10])
  return 0

/-- The variables, sorted by name, as `set`, `export -p` and `readonly -p` list them. -/
def sortedVars : Sh (List (Bytes × Var)) := do
  return (← state).vars.mergeSort fun a b => decide (a.1 ≤ b.1)

/-- `set`. -/
def setBuiltin (args : List Bytes) : Sh Nat := do
  if args.isEmpty then
    for (n, v) in ← sortedVars do
      match v.value with
      | some value => say (n ++ [61] ++ singleQuote value ++ [10])
      | none => pure ()
    return 0
  let rec go : Nat → List Bytes → Sh (Option (List Bytes))
    | 0, _ => return none
    | _, [] => return none
    | fuel + 1, a :: rest =>
      match a with
      | [45] => do
        modifyState fun s => { s with opts := { s.opts with xtrace := false, verbose := false } }
        return (if rest.isEmpty then none else some rest)
      | [45, 45] => return some rest
      | c :: letters => do
        if c != 45 && c != 43 then return some (a :: rest)
        else
          let on := c == 45
          let mut rest := rest
          for l in letters do
            if l == 111 then
              match rest with
              | name :: more =>
                rest := more
                match Options.byName.find? fun (n, _) => Bytes.ofString n == name with
                | some (_, letter) =>
                  if letter != 0 then
                    match (← state).opts.setLetter letter on with
                    | some o => modifyState fun s => { s with opts := o }
                    | none => pure ()
                | none => fatal (t "Illegal option -o " ++ name)
              | [] =>
                let o := (← state).opts
                if on then
                  say (t "Current option settings\n")
                  for (n, letter) in Options.byName do
                    let isOn := o.letters.contains letter && letter != 0
                    let name := Bytes.ofString n
                    say (name ++ List.replicate (16 - name.length) 32 ++ t (if isOn then "on" else "off") ++ [10])
                else
                  for (n, letter) in Options.byName do
                    let isOn := o.letters.contains letter && letter != 0
                    say (t "set " ++ t (if isOn then "-o " else "+o ") ++ Bytes.ofString n ++ [10])
            else
              match (← state).opts.setLetter l on with
              | some o => modifyState fun s => { s with opts := o }
              | none => fatal (t "Illegal option " ++ [c, l])
          go fuel rest
      | [] => return some (a :: rest)
  match ← go (args.length + 1) args with
  | some params => modifyState fun s => { s with params := params }
  | none => pure ()
  return 0

/-- `export` and `readonly`: mark variables, maybe giving values; with none, list them. -/
def markBuiltin (readonly : Bool) (args : List Bytes) : Sh Nat := do
  let (_, names) ← builtinOptions [112] args
  let word := if readonly then t "readonly" else t "export"
  if names.isEmpty then
    for (n, v) in ← sortedVars do
      if (if readonly then v.readonly else v.exported) then
        match v.value with
        | some value => say (word ++ [32] ++ n ++ [61] ++ singleQuote value ++ [10])
        | none => say (word ++ [32] ++ n ++ [10])
    return 0
  for a in names do
    let (name, value) := match a.findIdx? (· == 61) with
      | some i => (a.take i, some (a.drop (i + 1)))
      | none => (a, none)
    if !Bytes.isName name then fatal (name ++ t ": bad variable name")
    match value with
    | some v => assign name v
    | none => pure ()
    let old := (← var? name).getD ⟨none, false, false⟩
    putVar name (if readonly then { old with readonly := true } else { old with exported := true })
  return 0

/-- `unset`: removes variables (or, with `-f`, functions). -/
def unsetBuiltin (args : List Bytes) : Sh Nat := do
  let (flags, names) ← builtinOptions [102, 118] args
  for n in names do
    if flags.contains 102 then
      modifyState fun s => { s with funcs := s.funcs.filter (·.1 != n) }
    else
      match ← var? n with
      | some v => if v.readonly then fatal (n ++ t ": is read only") else dropVar n
      | none => pure ()
  return 0

/-- `local`: makes variables local to the function running, remembering what they were. -/
def localBuiltin (args : List Bytes) : Sh Nat := do
  let st ← state
  match st.locals with
  | [] => fatal (t "not in a function")
  | frame :: outer =>
    let mut frame := frame
    for a in args do
      let (name, value) := match a.findIdx? (· == 61) with
        | some i => (a.take i, some (a.drop (i + 1)))
        | none => (a, none)
      if !Bytes.isName name then fatal (name ++ t ": bad variable name")
      let old ← var? name
      if !frame.any (·.1 == name) then frame := (name, old) :: frame
      match value with
      | some v => assign name v
      | none => pure ()
    modifyState fun s => { s with locals := frame :: outer }
    return 0

/-- Splits a line read by `read` among some variables: all but the last take a field each; the
last takes the rest: the one field left without its ending, or, when more are left, all of it
but the trailing white space of `IFS`. -/
def readFields (ifs : Bytes) (cells : List Cell) (count : Nat) : List Bytes :=
  if count ≤ 1 then lastValue cells
  else
    -- the first fields, cut one by one
    go (count - 1) cells.length cells []
where
  isIfs (c : Cell) : Bool := match c with
    | .byte b _ (some _) => b == 0 || ifs.contains b
    | _ => false
  isBlankIfs (c : Cell) : Bool := match c with
    | .byte b _ (some _) => (b == 0 || ifs.contains b) && defaultIfs.contains b
    | _ => false
  lastValue (rest : List Cell) : List Bytes :=
    let rest := rest.dropWhile isBlankIfs
    match splitFields ifs rest with
    | [] => [[]]
    | [f] => [Cell.bytes f]
    | _ => [Cell.bytes (rest.reverse.dropWhile isBlankIfs).reverse]
  /-- Cuts `k` fields off the front, then gives the rest to the last variable. -/
  go : Nat → Nat → List Cell → List Bytes → List Bytes
    | 0, _, rest, acc => acc ++ lastValue rest
    | _, 0, rest, acc => acc ++ lastValue rest
    | k + 1, fuel + 1, rest, acc =>
      let rest := rest.dropWhile isBlankIfs
      -- the field runs to the first byte of IFS
      let field := rest.takeWhile (!isIfs ·)
      let after := rest.drop field.length
      match after with
      | [] => acc ++ [Cell.bytes field] ++ List.replicate k [] ++ [[]]
      | d :: more =>
        -- after a blank, one other byte of IFS belongs to the same cut
        let blank := isBlankIfs d
        let more := more.dropWhile isBlankIfs
        let more := if blank then (match more with
          | e :: r => if isIfs e && !isBlankIfs e then r.dropWhile isBlankIfs else more
          | [] => more) else more
        go k fuel more (acc ++ [Cell.bytes field])

/-- `read`: reads a line from standard input into variables, a backslash keeping the next byte
(and joining lines) unless `-r`; status 1 when the input ended before a new line. -/
def readBuiltin (args : List Bytes) : Sh Nat := do
  let (flags, rest) ← builtinOptions [114, 112] args
  let raw := flags.contains 114
  -- `-p` takes the prompt as the next argument
  let names := if flags.contains 112 then rest.drop 1 else rest
  if names.isEmpty then fatal (t "arg count")
  let mut cells : List Cell := []
  let mut region := 0
  let mut escaped := false
  let mut ended := false
  let mut status := 0
  let mut lines := 0
  while !ended && lines < 100000 do
    lines := lines + 1
    match ← prog (Prog.readThrough 0 10) with
    | none =>
      ended := true
      status := 1
    | some (bs, found) =>
      if !found then
        ended := true
        status := 1
      for c in bs.data do
        if c == 0 then pure ()
        else if escaped then
          escaped := false
          if c != 10 then
            cells := cells ++ [.byte c true none]
            region := region + 1
        else if !raw && c == 92 then escaped := true
        else if c == 10 then ended := true
        else cells := cells ++ [.byte c false (some (region, false))]
      if found && !ended then pure ()
  let ifs ← ifsValue
  let values := readFields ifs cells names.length
  for (n, v) in names.zip values do
    if !Bytes.isName n then fatal (n ++ t ": bad variable name")
    assign n v
  return status

/-- What `test` knows of a path. -/
def fileFacts (path : Bytes) : Sh (Option FileFacts) := do
  let s ← get
  let abs := Files.resolve s.proc.cwd path
  if [t "/dev/null", t "/dev/zero", t "/dev/random", t "/dev/urandom", t "/dev/tty", t "/dev/stdin",
      t "/dev/stdout", t "/dev/stderr"].contains abs then
    return some ⟨false, false, true, false, 0⟩
  match s.world.files.get? abs with
  | some (.file d) => return some ⟨true, false, false, false, d.size⟩
  | some .dir => return some ⟨false, true, false, true, 4096⟩
  | none =>
    match Utility.programNamed abs with
    | some _ => return some ⟨true, false, false, true, 100000⟩
    | none => return none

/-- `test` and `[`. -/
def testBuiltin (bracket : Bool) (args : List Bytes) : Sh Nat := do
  -- the facts of every argument, looked up before the pure test runs
  let mut facts : List (Bytes × Option FileFacts) := []
  for a in args do
    facts := (a, ← fileFacts a) :: facts
  let stat (p : Bytes) : Option FileFacts := (facts.lookup p).join
  match runTest stat bracket args with
  | .ok n => return n
  | .error msg => fatal msg

/-- The number of signals: they are numbered below it. -/
def signalCount : Nat := 65

/-- The name of a signal, by number, as `kill -l` and `trap` show it: signals without a name of
their own show their number, and the real-time ones count from `RTMIN` and back from `RTMAX`. -/
def signalName (n : Nat) : String :=
  if n == 0 then "EXIT"
  else if n ≤ 31 then
    ["HUP", "INT", "QUIT", "ILL", "TRAP", "ABRT", "BUS", "FPE", "KILL", "USR1", "SEGV", "USR2", "PIPE",
      "ALRM", "TERM", "16", "CHLD", "CONT", "STOP", "TSTP", "TTIN", "TTOU", "URG", "XCPU", "XFSZ",
      "VTALRM", "PROF", "WINCH", "IO", "PWR", "SYS"].getD (n - 1) ""
  else if n < 34 then toString n
  else if n == 34 then "RTMIN"
  else if n < 50 then "RTMIN+" ++ toString (n - 34)
  else if n < 64 then "RTMAX-" ++ toString (64 - n)
  else "RTMAX"

/-- The number of a signal named by its number or its name, in any case, among the signals from
`least` on. -/
def signalNumber (least : Nat) (s : Bytes) : Option Nat :=
  if !s.isEmpty && s.all Bytes.isDigit then
    let n := Bytes.digitsValue s
    if n < signalCount then some n else none
  else
    let upper := s.map fun c => if 97 ≤ c && c ≤ 122 then c - 32 else c
    (List.range signalCount).find? fun n => least ≤ n && Bytes.ofString (signalName n) == upper

/-- What a signal says when it ends a process. -/
def signalDescription (n : Nat) : String :=
  if 1 ≤ n && n ≤ 31 then
    ["Hangup", "Interrupt", "Quit", "Illegal instruction", "Trace/breakpoint trap", "Aborted",
      "Bus error", "Floating point exception", "Killed", "User defined signal 1", "Segmentation fault",
      "User defined signal 2", "Broken pipe", "Alarm clock", "Terminated", "Stack fault",
      "Child exited", "Continued", "Stopped (signal)", "Stopped", "Stopped (tty input)",
      "Stopped (tty output)", "Urgent I/O condition", "CPU time limit exceeded",
      "File size limit exceeded", "Virtual timer expired", "Profiling timer expired", "Window changed",
      "I/O possible", "Power failure", "Bad system call"].getD (n - 1) ""
  else if n < 34 then "Unknown signal " ++ toString n
  else "Real-time signal " ++ toString (n - 34)

/-- What a signal does to a process that neither traps nor ignores it. -/
inductive SignalEffect where
  | ignore
  | stop
  | terminate
  deriving BEq

/-- What a signal does by default: a child's end, a continue, urgent data and a window change
are ignored; the four stop signals stop; the others end the process. -/
def defaultEffect (n : Nat) : SignalEffect :=
  if [17, 18, 23, 28].contains n then .ignore
  else if [19, 20, 21, 22].contains n then .stop
  else .terminate

/-- The line the shell writes when a process it waited for was ended by a signal; none for an
interrupt or a broken pipe, which end processes quietly. -/
def killedNotice (e : Ending) : Option Bytes :=
  match e with
  | .killed n => if n == 2 || n == 13 then none else some (Bytes.ofString (signalDescription n) ++ [10])
  | _ => none

/-- `trap`: sets, resets or lists the commands run on signals. -/
def trapBuiltin (args : List Bytes) : Sh Nat := do
  let (_, args) ← builtinOptions [] args
  match args with
  | [] =>
    let st ← state
    for (n, action) in st.traps.mergeSort fun a b => decide (a.1 ≤ b.1) do
      say (t "trap -- " ++ singleQuote action ++ [32] ++ Bytes.ofString (signalName n) ++ [10])
    return 0
  | first :: rest =>
    let numeric := !first.isEmpty && first.all Bytes.isDigit
    let (action, sigs) := if rest.isEmpty || numeric then (none, args) else (some first, rest)
    let mut status := 0
    for sgn in sigs do
      match signalNumber 0 sgn with
      | none =>
        prog (Prog.err (Bytes.toArray (t "trap: " ++ sgn ++ t ": bad trap\n")))
        status := 1
      | some n =>
        modifyState fun s => { s with traps := s.traps.filter (·.1 != n) }
        match action with
        | some a => if a != [45] then modifyState fun s => { s with traps := (n, a) :: s.traps }
        | none => pure ()
    return status

/-- `wait`: waits for background jobs, all of them or those named; the status of the last one
named. -/
def waitBuiltin (args : List Bytes) : Sh Nat := do
  let (_, args) ← builtinOptions [] args
  let st ← state
  if args.isEmpty then
    for j in st.jobs do prog (Prog.reach j.ends)
    modifyState fun s => { s with jobs := [] }
    return 0
  let mut status := 0
  for a in args do
    let pid := if a.head? == some 37 then
        -- `%n` names the n-th job
        (st.jobs.reverse[Bytes.digitsValue (a.drop 1) - 1]?).map (·.pid)
      else some (Bytes.digitsValue a)
    match pid.bind fun p => st.jobs.find? (·.pid == p) with
    | some j =>
      prog (Prog.reach j.ends)
      -- a job ended by a signal is told of when this wait is the first to see it end
      if !j.reaped then
        match j.signal with
        | some n =>
          match killedNotice (.killed n) with
          | some line => prog (Prog.err (Bytes.toArray line))
          | none => pure ()
        | none => pure ()
      modifyState fun s => { s with jobs := s.jobs.map fun k => if k.pid == j.pid then { k with reaped := true } else k }
      status := j.status
    | none => status := 127
  return status

/-- A mask as four octal digits. -/
def octal4 (n : Nat) : Bytes :=
  let ds := (Nat.toDigits 8 n).map Bytes.byte
  List.replicate (4 - ds.length) 48 ++ ds

/-- `umask`: shows or sets the file mode mask. -/
def umaskBuiltin (args : List Bytes) : Sh Nat := do
  let (flags, args) ← builtinOptions [83] args
  match args with
  | [] =>
    let m := (← state).umask
    if flags.contains 83 then
      let part (who : String) (shift : Nat) : Bytes :=
        let bits := (m / Nat.pow 8 shift) % 8
        t who ++ [61] ++ (if bits &&& 4 == 0 then [114] else []) ++ (if bits &&& 2 == 0 then [119] else []) ++
          (if bits &&& 1 == 0 then [120] else [])
      say (part "u" 2 ++ [44] ++ part "g" 1 ++ [44] ++ part "o" 0 ++ [10])
    else say (octal4 m ++ [10])
    return 0
  | a :: _ =>
    if !a.isEmpty && a.all fun c => 48 ≤ c && c ≤ 55 then
      modifyState fun s => { s with umask := a.foldl (fun n c => n * 8 + (c.toNat - 48)) 0 % 512 }
    return 0

/-- `times`. -/
def timesBuiltin : Sh Nat := do
  say (t "0m0.000000s 0m0.000000s\n0m0.000000s 0m0.000000s\n")
  return 0

/-- How a name would run as a command: a keyword, a function, a special or other builtin, a
program with its path, or nothing. -/
def describe (name : Bytes) : Sh (Option (Bytes × Bytes)) := do
  let st ← state
  if among name keywords then return some (name, t " is a shell keyword")
  if st.funcs.any (·.1 == name) then return some (name, t " is a shell function")
  if among name specialBuiltins then return some (name, t " is a special shell builtin")
  if among name regularBuiltins then return some (name, t " is a shell builtin")
  match Utility.programNamed name with
  | some p =>
    let path := if name.contains 47 then name else Bytes.ofString (Utility.programDir ++ "/" ++ p)
    return some (path, t " is " ++ path)
  | none =>
    if name.contains 47 then
      match (← get).world.files.get? (Files.resolve (← get).proc.cwd name) with
      | some _ => return some (name, t " is " ++ name)
      | none => return none
    else return none

/-- `type`. -/
def typeBuiltin (args : List Bytes) : Sh Nat := do
  let mut status := 0
  for a in args do
    match ← describe a with
    | some (_, what) => say (a ++ what ++ [10])
    | none =>
      say (a ++ t ": not found\n")
      status := 127
  return status

/-- `command -v` and `command -V`: what names would run. -/
def commandDescribe (verbose : Bool) (args : List Bytes) : Sh Nat := do
  let mut status := 0
  for a in args do
    match ← describe a with
    | some (path, what) =>
      if verbose then say (a ++ what ++ [10])
      else
        let builtinLike := among a keywords || among a specialBuiltins || among a regularBuiltins ||
          (← state).funcs.any (·.1 == a)
        say ((if builtinLike then a else path) ++ [10])
    | none =>
      if verbose then say (a ++ t ": not found\n")
      status := 127
  return status

/-- `kill -l`: the names of the signals. -/
def killList : Sh Nat := do
  for n in List.range signalCount do
    say ((if n == 0 then t "0" else Bytes.ofString (signalName n)) ++ [10])
  return 0

/-- A number argument of `kill`: digits only, at most the largest `int`. -/
def killNumber (a : Bytes) : Sh Nat := do
  if a.isEmpty || !a.all Bytes.isDigit || a.length > 10 || Bytes.digitsValue a > 2147483647 then
    fatal (t "Illegal number: " ++ a)
  else return Bytes.digitsValue a

/-- The job a job name (`%n`, `%%`, `%+`, `%-`) names. -/
def jobNamed (a : Bytes) : Sh (Option Job) := do
  let jobs := (← state).jobs
  match a with
  | [37] | [37, 37] | [37, 43] => return jobs.head?
  | [37, 45] => return jobs[1]?
  | 37 :: digits =>
    if !digits.isEmpty && digits.all Bytes.isDigit then
      return jobs.reverse[Bytes.digitsValue digits - 1]?
    else return none
  | _ => return none

/-- Notes a signal sent to a process that is not running. -/
def postSignal (target sig : Nat) : Sh Unit :=
  modify fun s => { s with world := { s.world with
    signals := s.world.signals ++ [⟨target, s.proc.now, sig, s.proc.origin⟩] } }

/-- Ends (or stops) a job of the shell now, by a signal: its end moves to now, and what it wrote
and sent after now is undone, when its writes are its own. -/
def signalJob (j : Job) (sig : Nat) : Sh Unit := do
  let now := (← get).proc.now
  let stopped := defaultEffect sig == .stop
  match j.own with
  | some st =>
    let late (time : Rat) : Bool := now < time || (time == now && j.started == now)
    let mine (o : Judge.Origin) : Bool := o == .child st
    modify fun s => { s with world := { s.world with
      captured := s.world.captured.filter fun w => !(mine w.origin && late w.stamp.time)
      signals := s.world.signals.filter fun x => !(mine x.sender && late x.time)
      holders := s.world.holders.map fun (h, m) =>
        if h == st then (h, if stopped then .never else (match m with
          | .at x => .at (if x ≤ now then x else now)
          | .never => .at now)) else (h, m) } }
  | none => pure ()
  let j' : Job := if stopped then { j with ends := .never }
    else { j with ends := .at now, status := 128 + sig, signal := some sig }
  modifyState fun s => { s with jobs := s.jobs.map fun k => if k.pid == j.pid then j' else k }

/-- Sends a signal to a process, as `kill` does: whether the process exists.  The shell's own
process, and those waiting for it, take the signal when they next look; a job of the shell that
is still running is signalled at once; a job that ended is gone once the shell has seen it end. -/
def sendSignal (sig pid : Nat) : Sh Bool := do
  let s ← get
  if pid == s.proc.pid || s.proc.parents.contains pid then
    if sig != 0 then postSignal pid sig
    return true
  match s.sh.jobs.find? (·.pid == pid) with
  | none => return false
  | some j =>
    if j.reaped then return false
    let running := match j.ends with
      | .at e => s.proc.now < e
      | .never => true
    if sig != 0 && running && defaultEffect sig != .ignore then signalJob j sig
    return true

/-- The options of `kill` after a first argument that names no signal: the signal given with
`-s`, whether `-l` was given, and the operands. -/
def killOptions (args : List Bytes) : Sh (Option Nat × Bool × List Bytes) :=
  go (args.length + 1) args none false
where
  go : Nat → List Bytes → Option Nat → Bool → Sh (Option Nat × Bool × List Bytes)
    | 0, rest, s, l => return (s, l, rest)
    | _, [], s, l => return (s, l, [])
    | fuel + 1, a :: rest, s, l =>
      match a with
      | [45, 45] => return (s, l, rest)
      | 45 :: c :: cs => do
        let (s, l, rest) ← letters (c :: cs) rest s l
        go fuel rest s l
      | _ => return (s, l, a :: rest)
  letters : List UInt8 → List Bytes → Option Nat → Bool → Sh (Option Nat × Bool × List Bytes)
    | [], rest, s, l => return (s, l, rest)
    | 108 :: cs, rest, s, _ => letters cs rest s true
    | 115 :: cs, rest, _, l => do
      let (arg, rest) ← match cs, rest with
        | [], a :: r => pure (a, r)
        | [], [] => fatal (t "No arg for -s option")
        | cs, r => pure (cs, r)
      match signalNumber 1 arg with
      | some n => return (some n, l, rest)
      | none => fatal (t "invalid signal number or name: " ++ arg)
    | c :: _, _, _, _ => fatal (t "Illegal option -" ++ [c])

/-- `kill`: sends a signal (`TERM` unless one is named) to processes, or names signals. -/
def killBuiltin (args : List Bytes) : Sh Nat := do
  let usage : Sh Nat :=
    fatal (t "Usage: kill [-s sigspec | -signum | -sigspec] [pid | job]... or\nkill -l [exitstatus]")
  if args.isEmpty then return ← usage
  let (signo, list, rest) ← match args with
    | (45 :: spec) :: more =>
      match signalNumber 1 spec with
      | some n => pure (some n, false, more)
      | none => killOptions args
    | _ => pure (none, false, args)
  let signo := if list then signo else some (signo.getD 15)
  if (signo.isNone || rest.isEmpty) != list then return ← usage
  if list then
    match rest with
    | [] => killList
    | a :: _ =>
      let n ← killNumber a
      let n := if n > 128 then n - 128 else n
      if 0 < n && n < signalCount then
        say (Bytes.ofString (signalName n) ++ [10])
        return 0
      else fatal (t "invalid signal number or exit status: " ++ a)
  else
    let sig := signo.getD 15
    let mut status := 0
    for a in rest do
      let found ← match a with
        | 37 :: _ =>
          match ← jobNamed a with
          | none => fatal (t "No such job: " ++ a)
          -- a job has no process group of its own to signal
          | some _ => pure false
        | 45 :: digits => do
          let _ ← killNumber digits
          pure false
        | _ => do
          let pid ← killNumber a
          sendSignal sig pid
      if !found then
        complain (t "No such process\n")
        status := 1
    return status

end Shell

end Machine

end PracticeForge
