import PracticeForge.Machine.Shell.Builtin
import PracticeForge.Machine.Shell.Read

/-!
# Machine/Shell/Run — running commands

The shell reads its script one complete command at a time and runs each.

* A *simple command* expands its words, opens its redirections, then expands and makes its
  assignments (for good with no command or a special builtin, for the command's run otherwise),
  traces itself under `set -x`, and runs: a special builtin, a function, a builtin, or a program
  in a new process.  The last command of a script replaces the shell instead of starting a
  process, unless a trap is set.
* A *pipeline* starts each command in its own process, joined by pipes, and waits for all of
  them; its status is the last one's.  A command that writes without end into a pipe stops when
  the command reading the pipe ends.
* `&&`, `||`, `!`, `if`, `while`, `until`, `for`, `case`, `{ }` and `( )` run their parts as
  usual; a subshell runs in a new process, a background command too, without being waited
  for.
* Under `set -e`, a simple command, pipeline or subshell that fails ends the shell, unless its
  status is tested: in the condition of `if`, `while` or `until`, left of `&&` or `||`, or after
  `!`.

A process's run is its commands with its exit trap: when the shell ends, for whatever reason but
being stuck, the command set for `EXIT` runs first.  Loops are bounded: a loop that runs longer
than the model follows is taken to run for ever.
-/

namespace PracticeForge

namespace Machine

namespace Shell

open Sh
open Judge (Moment Stamp Origin)

/-- How a command is run: whether its status is tested (so `set -e` lets it fail), and whether
it is the last thing its shell does (so a program it runs replaces the shell). -/
structure Mode where
  tested : Bool
  last : Bool

/-- The most rounds a `while` or `until` loop is followed for. -/
def maxRounds : Nat := 100000

/-- The moment a process ended, by how it ended. -/
def momentOf (e : Ending) (p : Proc) : Moment :=
  match e with
  | .exit _ | .killed _ => .at p.now
  | .stuck _ => .never

/-- The status of a process that ended. -/
def endStatus : Ending → Nat
  | .exit n => n
  | .stuck _ => 0
  | .killed n => 128 + n

/-- Runs a step in a new process: a copy of the shell, started now.  How it ended and the
process at its end.  The world it changed is kept. -/
def spawn (body : Sh Unit) : Sh (Ending × Proc) := do
  let s ← get
  let w := s.world
  let stamp : Stamp := ⟨s.proc.now, w.order⟩
  let origin := match s.proc.origin with
    | .main => Origin.child stamp
    | o => o
  let child : Sys := ⟨{ s.proc with pid := w.nextPid, origin, parents := s.proc.pid :: s.proc.parents },
    { w with order := w.order + 1, nextPid := w.nextPid + 1 },
    { s.sh with traps := s.sh.traps.filter (·.2.isEmpty), jobs := [] }⟩
  let (r, after) := (body.run).run child
  let ending : Ending := match r with
    | .ok () => .exit after.sh.status
    | .error (.ended e) => e
    | .error (.ret n) => .exit n
    | .error .error => .exit 2
    | .error (.brk _) | .error (.cont _) => .exit after.sh.status
  set { s with world := after.world }
  return (ending, after.proc)

/-- A process let go of what it held when it ended: the streams it could write, and the
captured streams, which the run waits on. -/
def release (p : Proc) (m : Moment) : Sh Unit := do
  for (_, fd) in p.fds do
    match fd with
    | .toStream id => modify fun s => { s with world := s.world.holdStream id m }
    | .captured _ =>
      match p.origin with
      | .child st => modify fun s => { s with world := { s.world with holders := (st, m) :: s.world.holders } }
      | .main => pure ()
    | _ => pure ()

/-- The shell has seen its jobs that ended by a moment end: they are gone as processes. -/
def reapUntil (m : Moment) : Sh Unit :=
  modifyState fun st => { st with jobs := st.jobs.map fun j =>
    match j.ends, m with
    | .at e, .at x => if e ≤ x then { j with reaped := true } else j
    | .at _, .never => { j with reaped := true }
    | .never, _ => j }

/-- After waiting for a process: the shell has seen it and its jobs end, and tells of a signal
that ended it. -/
def waited (e : Ending) (m : Moment) : Sh Unit := do
  reapUntil m
  match killedNotice e with
  | some line => prog (Prog.err (Bytes.toArray line))
  | none => pure ()

/-- Ends the shell when `set -e` is on, the status is not tested and the last command failed. -/
def errexitCheck (mode : Mode) : Sh Unit := do
  let st ← state
  if st.opts.errexit && !mode.tested && st.status != 0 then exitWith st.status

/-- Sets the line of the command running. -/
def setLine (line : Nat) : Sh Unit := modifyState fun s => { s with line := line }

/-- Sets a descriptor of the shell's process. -/
def setFd (n : Nat) (fd : Option Fd) : Sh Unit := modify fun s => { s with proc := s.proc.setFd n fd }

/-- The shell's descriptors. -/
def fds : Sh (List (Nat × Fd)) := do return (← get).proc.fds

/-- Gives the shell's process its descriptors back. -/
def restoreFds (saved : List (Nat × Fd)) : Sh Unit := modify fun s => { s with proc := { s.proc with fds := saved } }

/-- Stops the shell once its clock has passed the run's horizon. -/
def checkHorizon : Sh Unit := do
  let s ← get
  match s.world.horizon with
  | some h => if s.proc.now ≥ h then throw (.ended (.stuck none))
  | none => pure ()

/-- How a loop's round ended. -/
inductive Round where
  | normal
  | broke
  | continued

/-- Runs a round of a loop, catching a `break` or `continue` meant for this loop. -/
def guardRound (m : Sh Unit) : Sh Round :=
  tryCatch (do m; pure Round.normal) fun e =>
    match e with
    | .brk n => if n > 1 then throw (.brk (n - 1)) else pure .broke
    | .cont n => if n > 1 then throw (.cont (n - 1)) else pure .continued
    | e => throw e

/-- Runs a step, then something after it however the step ended. -/
def andFinally (m : Sh Unit) (after : Sh Unit) : Sh Unit :=
  tryCatch (do m; after) fun e => do after; throw e

/-- Splits an assignment word at its `=`: the name and the value's parts. -/
def splitAssignment (w : Word) : Bytes × Word :=
  match w with
  | .lit bs q :: rest =>
    let name := bs.takeWhile (· != 61)
    let value := bs.drop (name.length + 1)
    (name, (if value.isEmpty then [] else [Part.lit value q]) ++ rest)
  | _ => ([], w)

/-- The file a redirection's target names: the device it stands for, or the path. -/
inductive Target where
  | device (fd : Option Fd)
  | dup (n : Nat)
  | path (abs : Bytes)

/-- What a path opened for writing or reading stands for. -/
def targetOf (cwd : Bytes) (name : Bytes) (reading : Bool) : Target :=
  let abs := Files.resolve cwd name
  if abs == Bytes.ofString "/dev/null" then .device (some .null)
  else if abs == Bytes.ofString "/dev/zero" && !reading then .device (some .null)
  else if abs == Bytes.ofString "/dev/stdin" then .dup 0
  else if abs == Bytes.ofString "/dev/stdout" then .dup 1
  else if abs == Bytes.ofString "/dev/stderr" then .dup 2
  else if (Bytes.ofString "/dev/fd/").isPrefixOf abs && (abs.drop 8).all Bytes.isDigit && abs.length > 8 then
    .dup (Bytes.digitsValue (abs.drop 8))
  else .path abs

/-- A syntax error found while running: it ends the shell. -/
def syntaxError {α : Type} (msg : String) : Sh α := fatal (t "Syntax error: " ++ t msg)

/-- The text a xtrace line shows for a command. -/
def traceLine (assigns : List (Bytes × Bytes)) (args : List Bytes) : Bytes :=
  let items := assigns.map (fun (n, v) => n ++ [61] ++ v) ++ args
  t "+ " ++ (items.intersperse [32]).flatten ++ [10]

/-- What a command name runs. -/
inductive Runs where
  | nothing
  | special (name : Bytes)
  | function (body : Command)
  | builtin (name : Bytes)
  | program (name : String)
  | missing (message : Bytes) (status : Nat)

/-- Finds what a command name runs: a special builtin, then a function, then a builtin, then an
installed program; a path names a program or a file that cannot run. -/
def lookup (name : Bytes) (noFunctions : Bool) : Sh Runs := do
  let st ← state
  if among name specialBuiltins then return .special name
  match (if noFunctions then none else st.funcs.lookup name) with
  | some body => return .function body
  | none =>
    if among name regularBuiltins then return .builtin name
    match Utility.programNamed name with
    | some p => return .program p
    | none =>
      if name.contains 47 then
        let s ← get
        match s.world.files.get? (Files.resolve s.proc.cwd name) with
        | some _ => return .missing (name ++ t ": Permission denied") 126
        | none => return .missing (name ++ t ": not found") 127
      else return .missing (name ++ t ": not found") 127

/-- Reads the options `sh` was started with: the options, whether `-c` was given, and the rest
of the arguments; or the complaint. -/
def startOptions (args : List Bytes) : Except Bytes (Options × Bool × List Bytes) :=
  go (args.length + 1) args Options.cleared false
where
  go : Nat → List Bytes → Options → Bool → Except Bytes (Options × Bool × List Bytes)
    | 0, rest, o, c => .ok (o, c, rest)
    | _, [], o, c => .ok (o, c, [])
    | fuel + 1, a :: rest, o, c =>
      match a with
      | [45, 45] | [45] => .ok (o, c, rest)
      | sign :: letters =>
        if (sign != 45 && sign != 43) || letters.isEmpty then .ok (o, c, a :: rest)
        else
          let on := sign == 45
          let step : Except Bytes (Options × Bool × List Bytes) :=
            letters.foldl (fun acc (l : UInt8) => match acc with
              | .error e => .error e
              | .ok (o, c, rest) =>
                if l == 99 then .ok (o, c || on, rest)
                else if l == 111 then
                  match rest with
                  | name :: more =>
                    match Options.byName.find? fun (n, _) => Bytes.ofString n == name with
                    | some (_, letter) => .ok ((o.setLetter letter on).getD o, c, more)
                    | none => .error (t "Illegal option -o " ++ name)
                  | [] => .ok (o, c, [])
                else
                  match o.setLetter l on with
                  | some o' => .ok (o', c, rest)
                  | none => .error (t "Illegal option " ++ [sign, l])) (.ok (o, c, rest))
          match step with
          | .ok (o, c, rest) => go fuel rest o c
          | .error e => .error e
      | [] => .ok (o, c, [] :: rest)

/-- The shell a new `sh` process starts as: its name, positional parameters and options, and
the variables of its environment, exported. -/
def freshShell (name : Bytes) (params : List Bytes) (opts : Options) (env : List (Bytes × Bytes))
    (pid : Nat) : ShellState :=
  let imported := env.map fun (n, v) => (n, ({ value := some v, exported := true, readonly := false } : Var))
  let own : List (Bytes × Var) := [(t "IFS", ⟨some [32, 9, 10], false, false⟩),
    (t "PS1", ⟨some (t "$ "), false, false⟩), (t "PS2", ⟨some (t "> "), false, false⟩),
    (t "PS4", ⟨some (t "+ "), false, false⟩), (t "OPTIND", ⟨some (t "1"), false, false⟩)]
  let vars := own.filter (fun (n, _) => !imported.any (·.1 == n)) ++ imported
  { name, params, vars, funcs := [], status := 0, opts, bodies := #[], jobs := [], lastJob := none,
    traps := [], locals := [], substStatus := none, umask := 18, funcDepth := 0, loopDepth := 0,
    line := 0, builtin := none, rootPid := pid }

/-- The rounds of a `while` or `until` loop, given how to run its condition and its body: the
status of the last round's body. -/
def loopRounds (untilDone : Bool) (cond body : Sh Round) : Nat → Nat → Sh Nat
  | 0, _ => throw (.ended (.stuck none))
  | k + 1, last => do
    checkHorizon
    match ← cond with
    | .broke => return (← status)
    | .continued => loopRounds untilDone cond body k last
    | .normal =>
      if ((← status) == 0) == untilDone then return last
      else
        match ← body with
        | .broke => return (← status)
        | _ => loopRounds untilDone cond body k (← status)

mutual

/-- Runs a command. -/
def eval (fuel : Nat) (mode : Mode) (c : Command) : Sh Unit :=
  match fuel with
  | 0 => throw (.ended (.stuck none))
  | fuel + 1 =>
    match c with
    | .empty => pure ()
    | .simple line assigns words rds => do
      evalSimple fuel mode line assigns words rds
      takeSignals fuel false
      errexitCheck mode
    | .pipeline negated cmds =>
      if negated then do
        match cmds with
        | [one] => eval fuel ⟨true, false⟩ one
        | _ => evalPipeline fuel ⟨true, false⟩ cmds
        setStatus (if (← status) == 0 then 1 else 0)
      else do
        evalPipeline fuel mode cmds
        takeSignals fuel false
        errexitCheck mode
    | .andThen a b => do
      eval fuel ⟨true, false⟩ a
      if (← status) == 0 then eval fuel mode b
    | .orElse a b => do
      eval fuel ⟨true, false⟩ a
      if (← status) != 0 then eval fuel mode b
    | .seq a b => do
      eval fuel ⟨mode.tested, false⟩ a
      eval fuel mode b
    | .background body => evalBackground fuel body
    | .subshell line body => do
      evalSubshell fuel mode line body []
      takeSignals fuel false
      errexitCheck mode
    | .redirected (.subshell line body) rds => do
      evalSubshell fuel mode line body rds
      takeSignals fuel false
      errexitCheck mode
    | .redirected body rds => do
      let saved ← fds
      if ← applyRedirects fuel rds then
        andFinally (eval fuel ⟨mode.tested, false⟩ body) (restoreFds saved)
      else
        restoreFds saved
        setStatus 2
        errexitCheck mode
    | .ifThen cond thenPart elsePart => do
      eval fuel ⟨true, false⟩ cond
      if (← status) == 0 then eval fuel mode thenPart
      else
        match elsePart with
        | some e => eval fuel mode e
        | none => setStatus 0
    | .loop untilDone cond body => do
      modifyState fun s => { s with loopDepth := s.loopDepth + 1 }
      let rounds := loopRounds untilDone (guardRound (eval fuel ⟨true, false⟩ cond))
        (guardRound (eval fuel ⟨mode.tested, false⟩ body)) maxRounds 0
      andFinally (do let st ← rounds; setStatus st)
        (modifyState fun s => { s with loopDepth := s.loopDepth - 1 })
    | .forIn line name words body => do
      setLine line
      let params := (← state).params
      let items ← match words with
        | some ws => expandFields fuel ⟨fun src line => substitute fuel src line⟩ ws
        | none => pure params
      modifyState fun s => { s with loopDepth := s.loopDepth + 1 }
      andFinally (do
          let mut st := 0
          for item in items do
            assign name item
            let r ← guardRound (eval fuel ⟨mode.tested, false⟩ body)
            st ← status
            match r with
            | .broke => break
            | _ => pure ()
          setStatus st)
        (modifyState fun s => { s with loopDepth := s.loopDepth - 1 })
    | .caseOf line subject arms => do
      setLine line
      let (cs, _) ← expandParts fuel ⟨fun src line => substitute fuel src line⟩ false false true subject 0
      let s := Cell.bytes cs
      setStatus 0
      let mut chosen : Option Command := none
      for (pats, body) in arms do
        if chosen.isNone then
          for p in pats do
            if chosen.isNone then
              let pat ← expandPattern fuel ⟨fun src line => substitute fuel src line⟩ p
              if Pattern.test pat s then chosen := some body
      match chosen with
      | some body => eval fuel mode body
      | none => pure ()
    | .function name body => do
      modifyState fun s => { s with funcs := (name, body) :: s.funcs.filter (·.1 != name) }
      setStatus 0
termination_by structural fuel

/-- Runs a command substitution in a new process: its output. -/
def substitute (fuel : Nat) (src : Bytes) (line : Nat) : Sh Bytes :=
  match fuel with
  | 0 => throw (.ended (.stuck none))
  | fuel + 1 => do
    let (id, w) := (← get).world.addStream Stream.empty
    modify fun s => { s with world := w }
    let saved ← fds
    setFd 1 (some (.toStream id))
    let (e, p) ← spawn (withExitTrap fuel (evalString fuel src line ⟨false, true⟩))
    restoreFds saved
    let m := momentOf e p
    release p m
    modify fun s => { s with world := s.world.closeStream id m }
    modifyState fun s => { s with substStatus := some (endStatus e) }
    -- the output, read as it comes
    setFd 100 (some (.fromStream id))
    let out ← prog (Prog.readAll 100)
    restoreFds saved
    waited e m
    return Bytes.ofArray (out.getD ByteArray.empty)
termination_by structural fuel

/-- Runs a script: its commands one after another, as they are read. -/
def evalString (fuel : Nat) (src : Bytes) (line : Nat) (mode : Mode) : Sh Unit :=
  match fuel with
  | 0 => throw (.ended (.stuck none))
  | fuel + 1 => do
    let st ← state
    let mut r : Reader := { input := src, line := line, bodies := st.bodies }
    let mut going := true
    let mut count := 0
    while going && count ≤ src.length do
      count := count + 1
      match nextCommand (4 * src.length + 64) r with
      | .error e =>
        setLine e.line
        syntaxError e.message
      | .ok (none, _) => going := false
      | .ok (some none, r') => r := r'
      | .ok (some (some cmd), r') =>
        r := r'
        modifyState fun s => { s with bodies := r'.bodies }
        let atEnd := r'.pushed && r'.last == .eof
        if !(← state).opts.noexec then
          eval fuel ⟨mode.tested, mode.last && atEnd⟩ cmd
termination_by structural fuel

/-- Runs a step as a whole process's commands: when they end, however they end but stuck, the
exit trap runs, and the process ends with the status. -/
def withExitTrap (fuel : Nat) (body : Sh Unit) : Sh Unit :=
  match fuel with
  | 0 => throw (.ended (.stuck none))
  | fuel + 1 => do
    let r ← tryCatch (do body; pure none) fun e => pure (some e)
    -- a process stuck for ever may still be ended, or woken into a trap, by a signal sent later
    let r ← match r with
      | some (.ended (.stuck w)) =>
        tryCatch (do takeSignals fuel true; pure (some (Stop.ended (.stuck w)))) fun e => pure (some e)
      | r => pure r
    let st ← status
    let ending : Ending := match r with
      | none => .exit st
      | some (.ended e) => e
      | some (.ret n) => .exit n
      | some .error => .exit 2
      | some (.brk _) | some (.cont _) => .exit st
    match ending with
    | .exit n =>
      match (← state).traps.lookup 0 with
      | some action =>
        modifyState fun s => { s with traps := s.traps.filter (·.1 != 0) }
        setStatus n
        let r2 ← tryCatch (do evalString fuel action 1 ⟨false, false⟩; pure none) fun e => pure (some e)
        match r2 with
        | some (.ended e) => throw (.ended e)
        | _ => throw (.ended (.exit n))
      | none => throw (.ended (.exit n))
    | e => throw (.ended e)
termination_by structural fuel

/-- Takes the signals sent to the shell's process by now (with `all`, those sent at any time,
for a process that would otherwise wait for ever), earliest first.  A trapped signal runs its
command, keeping the status; an ignored one does nothing; another does what it does by default:
nothing, stops the process for good, or ends it at the moment it was sent.  `KILL` and `STOP`
cannot be trapped. -/
def takeSignals (fuel : Nat) (all : Bool) : Sh Unit :=
  match fuel with
  | 0 => pure ()
  | fuel + 1 => do
    let s ← get
    let pid := s.proc.pid
    let due (x : Sent) : Bool := x.target == pid && (all || x.time ≤ s.proc.now)
    let mine := (s.world.signals.filter due).mergeSort fun a b => decide (a.time ≤ b.time)
    if mine.isEmpty then return
    modify fun s => { s with world := { s.world with signals := s.world.signals.filter (!due ·) } }
    for x in mine do
      let traps := (← state).traps
      let trap := if x.signal == 9 || x.signal == 19 then none else traps.lookup x.signal
      match trap with
      | some [] => pure ()
      | some action =>
        modify fun s => { s with proc := s.proc.waitUntil x.time }
        let st ← status
        evalString fuel action 1 ⟨false, false⟩
        setStatus st
      | none =>
        match defaultEffect x.signal with
        | .ignore => pure ()
        | .stop => throw (.ended (.stuck none))
        | .terminate =>
          modify fun s => { s with proc := { s.proc with now := x.time } }
          throw (.ended (.killed x.signal))
termination_by structural fuel

/-- Opens a command's redirections, one after another; false (after the complaint) when one
cannot be opened. -/
def applyRedirects (fuel : Nat) (rds : List Redirect) : Sh Bool :=
  match fuel with
  | 0 => throw (.ended (.stuck none))
  | fuel + 1 => do
    for r in rds do
      match ← openRedirect fuel r with
      | .ok (n, fd) => setFd n fd
      | .error msg =>
        complain msg
        return false
    return true
termination_by structural fuel

/-- Opens one redirection: the descriptor and where it leads (none to close it), or the
complaint. -/
def openRedirect (fuel : Nat) (r : Redirect) : Sh (Except Bytes (Nat × Option Fd)) :=
  match fuel with
  | 0 => throw (.ended (.stuck none))
  | fuel + 1 => do
    let x : Expander := ⟨fun src line => substitute fuel src line⟩
    match r.kind with
    | .here _ =>
      let index := match r.target with
        | .lit bs _ :: _ => Bytes.digitsValue bs
        | _ => 0
      let body := (← state).bodies.getD index []
      let (cs, _) ← expandParts fuel x false false false body 0
      let (id, w) := (← get).world.addStream (Stream.ofBytes (Bytes.toArray (Cell.bytes cs)))
      modify fun s => { s with world := w }
      return .ok (r.fd, some (.fromStream id))
    | .dupIn | .dupOut =>
      let word ← expandString fuel x r.target
      if word == [45] then return .ok (r.fd, none)
      else if word.length == 1 && word.all Bytes.isDigit then
        let n := Bytes.digitsValue word
        match (← get).proc.fd? n with
        | some f => return .ok (r.fd, some f)
        | none => return .error (word ++ t ": Bad file descriptor")
      else syntaxError "Bad fd number"
    | kind =>
      let (cs, _) ← expandParts fuel x false false true r.target 0
      let name := Cell.bytes cs
      let s ← get
      let reading := kind == .input
      match targetOf s.proc.cwd name reading with
      | .device fd => return .ok (r.fd, fd)
      | .dup n =>
        match s.proc.fd? n with
        | some f => return .ok (r.fd, some f)
        | none => return .error ((Bytes.ofNat n) ++ t ": Bad file descriptor")
      | .path abs =>
        let files := s.world.files
        if kind == .input then
          match files.get? abs with
          | some (.file d) =>
            let (id, w) := s.world.addFile d
            set { s with world := w }
            return .ok (r.fd, some (.fromStream id))
          | some .dir =>
            let (id, w) := s.world.addStream Stream.empty
            set { s with world := w }
            return .ok (r.fd, some (.fromStream id))
          | none => return .error (t "cannot open " ++ name ++ t ": No such file")
        else
          let exists_ := match files.get? abs with
            | some (.file _) => true
            | _ => false
          if kind == .output && (← state).opts.noclobber && exists_ then
            return .error (t "cannot create " ++ name ++ t ": File exists")
          match files.write abs ByteArray.empty (kind != .output && kind != .clobber) with
          | .ok fs =>
            set { s with world := { s.world with files := fs } }
            if kind == .readWrite then
              let d := match fs.get? abs with
                | some (.file d) => d
                | _ => ByteArray.empty
              let s ← get
              let (id, w) := s.world.addFile d
              set { s with world := w }
              return .ok (r.fd, some (.fromStream id))
            else return .ok (r.fd, some (.toFile abs))
          | .error .isDir => return .error (t "cannot create " ++ name ++ t ": Is a directory")
          | .error _ => return .error (t "cannot create " ++ name ++ t ": Directory nonexistent")
termination_by structural fuel

/-- Runs a simple command. -/
def evalSimple (fuel : Nat) (mode : Mode) (line : Nat) (assigns words : List Word) (rds : List Redirect) :
    Sh Unit :=
  match fuel with
  | 0 => throw (.ended (.stuck none))
  | fuel + 1 => do
    setLine line
    modifyState fun s => { s with substStatus := none }
    let x : Expander := ⟨fun src line => substitute fuel src line⟩
    let args ← expandFields fuel x words
    let saved ← fds
    if !(← applyRedirects fuel rds) then
      restoreFds saved
      setStatus 2
      match args.head? with
      | some n => if among n specialBuiltins then throw .error
      | none => pure ()
      return
    let runs ← match args.head? with
      | none => pure Runs.nothing
      | some n => lookup n false
    let lasting := match runs with
      | .nothing | .special _ => true
      | _ => false
    -- the assignments, in order, each seeing those before it
    let mut made : List (Bytes × Bytes) := []
    let mut before : List (Bytes × Option Var) := []
    for w in assigns do
      let (name, value) := splitAssignment w
      let v ← expandAssignment fuel x value
      if !lasting && !before.any (·.1 == name) then before := (name, ← var? name) :: before
      assign name v
      match runs with
      | .program _ =>
        let old := (← var? name).getD ⟨none, false, false⟩
        putVar name { old with exported := true }
      | _ => pure ()
      made := made ++ [(name, v)]
    if (← state).opts.xtrace && !(made.isEmpty && args.isEmpty) then
      prog (Prog.err (Bytes.toArray (traceLine made args)))
    let undo : Sh Unit := do
      for (name, old) in before do
        match old with
        | some v => putVar name v
        | none => dropVar name
    let finish (keepFds : Bool) : Sh Unit := do
      if !keepFds then restoreFds saved
      undo
    match runs with
    | .nothing =>
      setStatus ((← state).substStatus.getD 0)
      finish false
    | .missing msg code =>
      complain msg
      setStatus code
      finish false
    | .special name =>
      let keep := name == t "exec" && args.length == 1
      andFinally (runBuiltin fuel mode name (args.drop 1) true) (finish keep)
    | .builtin name =>
      andFinally (runBuiltin fuel mode name (args.drop 1) false) (finish false)
    | .function body =>
      andFinally (callFunction fuel mode body (args.drop 1)) (finish false)
    | .program _ =>
      andFinally (runProgram fuel mode (args.headD []) (args.drop 1)) (finish false)
termination_by structural fuel

/-- Runs a program: in this process when it is the last thing the shell does, else in a new
process the shell waits for. -/
def runProgram (fuel : Nat) (mode : Mode) (name : Bytes) (args : List Bytes) : Sh Unit :=
  match fuel with
  | 0 => throw (.ended (.stuck none))
  | fuel + 1 => do
    let env ← environment
    let inPlace := mode.last && (← state).traps.isEmpty
    if inPlace then
      modify fun s => { s with proc := { s.proc with env := env } }
      execProgram fuel name args
    else
      let saved := (← get).proc.env
      modify fun s => { s with proc := { s.proc with env := env } }
      let (e, p) ← spawn (execProgram fuel name args)
      modify fun s => { s with proc := { s.proc with env := saved } }
      let m := momentOf e p
      release p m
      prog (Prog.reach m)
      waited e m
      setStatus (endStatus e)
termination_by structural fuel

/-- Runs a program in this process, which it then ends. -/
def execProgram (fuel : Nat) (name : Bytes) (args : List Bytes) : Sh Unit :=
  match fuel with
  | 0 => throw (.ended (.stuck none))
  | fuel + 1 => do
    let shown := (String.fromUTF8? (Bytes.toArray name)).getD ""
    match Utility.programNamed name with
    | some p =>
      if Utility.shells.contains p then shellMain fuel name args
      else
        match Utility.installed.lookup p with
        | some u =>
          -- the program keeps only the signals the shell ignored
          modifyState fun s => { s with traps := s.traps.filter (·.2.isEmpty) }
          let r ← tryCatch (do prog (u shown args); pure none) fun e => pure (some e)
          match r with
          | some (.ended (.stuck w)) =>
            takeSignals fuel true
            throw (.ended (.stuck w))
          | some e =>
            takeSignals fuel false
            throw e
          | none =>
            takeSignals fuel false
            exitWith 0
        | none => exitWith 127
    | none => exitWith 127
termination_by structural fuel

/-- Runs a builtin: errors of a special one end the shell; those of another make its status 2. -/
def runBuiltin (fuel : Nat) (mode : Mode) (name : Bytes) (args : List Bytes) (special : Bool) : Sh Unit :=
  match fuel with
  | 0 => throw (.ended (.stuck none))
  | fuel + 1 => do
    let outer := (← state).builtin
    modifyState fun s => { s with builtin := some name }
    let restore : Sh Unit := modifyState fun s => { s with builtin := outer }
    let body : Sh Unit := do
      let n ← builtinStatus fuel mode name args
      setStatus n
    tryCatch (do body; restore) fun e => do
      restore
      match e with
      | .error => if special then throw .error else setStatus 2
      | .brk _ | .cont _ => do setStatus 0; throw e
      | e => throw e
termination_by structural fuel

/-- The builtins, by name: their status. -/
def builtinStatus (fuel : Nat) (mode : Mode) (name : Bytes) (args : List Bytes) : Sh Nat :=
  match fuel with
  | 0 => throw (.ended (.stuck none))
  | fuel + 1 => do
    match String.fromUTF8? (Bytes.toArray name) with
    | some "echo" => echoBuiltin args
    | some "printf" => printfBuiltin args
    | some ":" | some "true" => return 0
    | some "false" => return 1
    | some "exit" => exitBuiltin args
    | some "return" => returnBuiltin args
    | some "break" => loopBuiltin false args
    | some "continue" => loopBuiltin true args
    | some "cd" | some "chdir" => cdBuiltin args
    | some "pwd" => pwdBuiltin args
    | some "set" => setBuiltin args
    | some "shift" => shiftBuiltin args
    | some "export" => markBuiltin false args
    | some "readonly" => markBuiltin true args
    | some "unset" => unsetBuiltin args
    | some "local" => localBuiltin args
    | some "read" => readBuiltin args
    | some "test" => testBuiltin false args
    | some "[" => testBuiltin true args
    | some "trap" => trapBuiltin args
    | some "wait" => waitBuiltin args
    | some "umask" => umaskBuiltin args
    | some "times" => timesBuiltin
    | some "type" => typeBuiltin args
    | some "kill" => killBuiltin args
    | some "eval" =>
      let src := (args.intersperse [32]).flatten
      modifyState fun s => { s with builtin := some name }
      setStatus 0
      evalString fuel src 1 ⟨mode.tested, false⟩
      status
    | some "." =>
      match args with
      | [] => return 0
      | file :: rest =>
        let s ← get
        let abs := Files.resolve s.proc.cwd file
        match s.world.files.get? abs with
        | some (.file d) =>
          let st ← state
          if !rest.isEmpty then modifyState fun s => { s with params := rest }
          evalString fuel (Bytes.ofArray d) 1 ⟨mode.tested, false⟩
          if !rest.isEmpty then modifyState fun s => { s with params := st.params }
          status
        | _ => fatal (t "cannot open " ++ file ++ t ": No such file")
    | some "exec" =>
      match args with
      | [] => return 0
      | cmd :: rest =>
        match ← lookup cmd true with
        | .program _ =>
          let env ← environment
          modify fun s => { s with proc := { s.proc with env := env } }
          execProgram fuel cmd rest
          return 0
        | .missing msg code =>
          complain msg
          exitWith code
        | _ =>
          -- a builtin or function named by exec runs as a program would: here, not found
          complain (cmd ++ t ": not found")
          exitWith 127
    | some "command" =>
      match args with
      | [45, 118] :: names => commandDescribe false names
      | [45, 86] :: names => commandDescribe true names
      | [] => return 0
      | cmd :: rest =>
        match ← lookup cmd true with
        | .special n | .builtin n => builtinStatus fuel mode n rest
        | .program _ =>
          runProgram fuel ⟨mode.tested, false⟩ cmd rest
          status
        | .missing msg code =>
          complain msg
          return code
        | _ => return 0
    | some "alias" | some "unalias" | some "hash" | some "jobs" | some "fg" | some "bg" | some "getopts" => return 0
    | some "ulimit" =>
      say (t "unlimited\n")
      return 0
    | _ => return 127
termination_by structural fuel

/-- Calls a function with arguments as its positional parameters; `return` ends it. -/
def callFunction (fuel : Nat) (mode : Mode) (body : Command) (args : List Bytes) : Sh Unit :=
  match fuel with
  | 0 => throw (.ended (.stuck none))
  | fuel + 1 => do
    let saved := (← state).params
    modifyState fun s => { s with params := args, funcDepth := s.funcDepth + 1, locals := [] :: s.locals }
    let r ← tryCatch (do eval fuel ⟨mode.tested, false⟩ body; pure none) fun e => pure (some e)
    let st ← state
    match st.locals with
    | frame :: outer =>
      for (name, old) in frame do
        match old with
        | some v => putVar name v
        | none => dropVar name
      modifyState fun s => { s with locals := outer }
    | [] => pure ()
    modifyState fun s => { s with params := saved, funcDepth := s.funcDepth - 1 }
    match r with
    | none => pure ()
    | some (.ret n) => setStatus n
    | some e => throw e
termination_by structural fuel

/-- Runs commands joined by pipes, each in its own process, and waits for them all. -/
def evalPipeline (fuel : Nat) (mode : Mode) (cmds : List Command) : Sh Unit :=
  match fuel with
  | 0 => throw (.ended (.stuck none))
  | fuel + 1 => do
    let saved ← fds
    let count := cmds.length
    let mut members : List (Ending × Proc × Option Nat) := []
    let mut input : Option Nat := none
    let mut i := 0
    for c in cmds do
      let output ← if i + 1 == count then pure none else do
        let (id, w) := (← get).world.addStream Stream.empty
        modify fun s => { s with world := w }
        pure (some id)
      restoreFds saved
      match input with
      | some id => setFd 0 (some (.fromStream id))
      | none => pure ()
      match output with
      | some id => setFd 1 (some (.toStream id))
      | none => pure ()
      let (e, p) ← spawn (withExitTrap fuel (eval fuel ⟨mode.tested, true⟩ c))
      restoreFds saved
      match output with
      | some id => modify fun s => { s with world := s.world.closeStream id (momentOf e p) }
      | none => pure ()
      members := members ++ [(e, p, output)]
      input := output
      i := i + 1
    -- a command stuck writing into its pipe ends when the command reading it does
    let settled := members.foldr (fun (e, p, out) (acc : List (Nat × Moment × Proc)) =>
      let next := acc.head?.map (·.2.1)
      match e, out, next with
      | .stuck (some id), some o, some m => if id == o then (141, m, p) :: acc else (0, Moment.never, p) :: acc
      | e, _, _ => ((endStatus e), momentOf e p, p) :: acc) []
    let mut ends : Moment := .at (← get).proc.now
    for (_, m, p) in settled do
      release p m
      ends := ends.max m
    prog (Prog.reach ends)
    reapUntil ends
    for (e, _, _) in members do
      match killedNotice e with
      | some line => prog (Prog.err (Bytes.toArray line))
      | none => pure ()
    setStatus ((settled.getLast?.map (·.1)).getD 0)
termination_by structural fuel

/-- Starts a command in the background: a new process, with no input, not waited for. -/
def evalBackground (fuel : Nat) (body : Command) : Sh Unit :=
  match fuel with
  | 0 => throw (.ended (.stuck none))
  | fuel + 1 => do
    let saved ← fds
    setFd 0 (some .null)
    let before ← get
    let (e, p) ← spawn (withExitTrap fuel (eval fuel ⟨false, true⟩ body))
    restoreFds saved
    let m := momentOf e p
    release p m
    let own := match before.proc.origin, p.origin with
      | .main, .child st => some st
      | _, _ => none
    let signal := match e with
      | .killed n => some n
      | _ => none
    let job : Job := ⟨p.pid, m, endStatus e, before.proc.now, own, signal, false⟩
    modifyState fun s => { s with jobs := job :: s.jobs, lastJob := some p.pid }
    setStatus 0
termination_by structural fuel

/-- Runs a subshell: in a new process the shell waits for, even when it is the last thing the
shell does. -/
def evalSubshell (fuel : Nat) (mode : Mode) (line : Nat) (body : Command) (rds : List Redirect) : Sh Unit :=
  match fuel with
  | 0 => throw (.ended (.stuck none))
  | fuel + 1 => do
    setLine line
    let run : Sh Unit := do
      if !(← applyRedirects fuel rds) then throw .error
      eval fuel ⟨mode.tested, true⟩ body
    let saved ← fds
    let (e, p) ← spawn (withExitTrap fuel run)
    restoreFds saved
    let m := momentOf e p
    release p m
    prog (Prog.reach m)
    waited e m
    setStatus (endStatus e)
termination_by structural fuel

/-- `sh`: reads its options and runs the command given with `-c`, or a script file, or its
input; then ends with the status of the last command. -/
def shellMain (fuel : Nat) (name : Bytes) (args : List Bytes) : Sh Unit :=
  match fuel with
  | 0 => throw (.ended (.stuck none))
  | fuel + 1 => do
    let s ← get
    let early (msg : Bytes) : Sh Unit := do
      prog (Prog.err (Bytes.toArray (name ++ t ": 0: " ++ msg ++ [10])))
      exitWith 2
    match startOptions args with
    | .error msg => early msg
    | .ok (opts, command, rest) =>
      let setUp (arg0 : Bytes) (params : List Bytes) : Sh Unit :=
        modify fun s => { s with sh := freshShell arg0 params opts s.proc.env s.proc.pid }
      if command then
        match rest with
        | [] => early (t "-c requires an argument")
        | script :: more =>
          setUp (more.headD name) (more.drop 1)
          withExitTrap fuel (evalString fuel script 1 ⟨false, true⟩)
      else
        match rest with
        | file :: more =>
          match s.world.files.get? (Files.resolve s.proc.cwd file) with
          | some (.file d) =>
            setUp file more
            withExitTrap fuel (evalString fuel (Bytes.ofArray d) 1 ⟨false, true⟩)
          | some .dir =>
            setUp file more
            withExitTrap fuel (pure ())
          | none => early (t "cannot open " ++ file ++ t ": No such file")
        | [] =>
          setUp name []
          let input ← prog (Prog.readAll 0)
          withExitTrap fuel (evalString fuel (Bytes.ofArray (input.getD ByteArray.empty)) 1 ⟨false, true⟩)
termination_by structural fuel

end

end Shell

end Machine

end PracticeForge
