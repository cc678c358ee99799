import PracticeForge.Machine.World
import PracticeForge.Machine.Shell.Syntax

/-!
# Machine/Shell/State — what a running shell holds, and the steps it runs in

A shell keeps its variables (each maybe exported or read-only), its functions, its positional
parameters and name, the status of the last command, its options, the here-document bodies of
the script read so far, the jobs it started in the background, the commands set to run on
signals (of which only the one for the shell's exit ever runs here), and the variables that
function calls made local.

A step of the shell changes the shell, its process and the world.  It may stop early: the process
ends (exits, or is stuck for ever), or a `return`, `break` or `continue` unwinds to the function or
loop that catches it.  What was done before the stop stays done.

Complaints take the shell's form `name: line: message`, with the name of the builtin running, if
one is, before the message.
-/

namespace PracticeForge

namespace Machine

namespace Shell

open Judge (Moment Stamp)

/-- A shell variable: its value (none when only its flags are set), whether it is exported to
commands, and whether it is read-only. -/
structure Var where
  value : Option Bytes
  exported : Bool
  readonly : Bool
  deriving Inhabited

/-- The shell's options. -/
structure Options where
  errexit : Bool
  noglob : Bool
  noexec : Bool
  xtrace : Bool
  verbose : Bool
  noclobber : Bool
  allexport : Bool
  nounset : Bool
  deriving Inhabited

/-- No option set. -/
def Options.cleared : Options := ⟨false, false, false, false, false, false, false, false⟩

/-- The letters of the options set, as `$-` gives them: the last of the shell's list of options
first. -/
def Options.letters (o : Options) : Bytes :=
  [(o.nounset, 117), (o.allexport, 97), (o.noclobber, 67), (o.verbose, 118), (o.xtrace, 120),
    (o.noexec, 110), (o.noglob, 102), (o.errexit, 101)].filterMap fun (on, c) => if on then some c else none

/-- Sets an option by its letter: the options after, or none for a letter the shell does not
know. -/
def Options.setLetter (o : Options) (c : UInt8) (on : Bool) : Option Options :=
  match c with
  | 101 => some { o with errexit := on }
  | 102 => some { o with noglob := on }
  | 110 => some { o with noexec := on }
  | 120 => some { o with xtrace := on }
  | 118 => some { o with verbose := on }
  | 67 => some { o with noclobber := on }
  | 97 => some { o with allexport := on }
  | 117 => some { o with nounset := on }
  | 73 | 105 | 109 | 115 | 86 | 69 | 98 => some o
  | _ => none

/-- The long names of the options, for `set -o`. -/
def Options.byName : List (String × UInt8) :=
  [("errexit", 101), ("noglob", 102), ("ignoreeof", 73), ("interactive", 105), ("monitor", 109),
    ("noexec", 110), ("stdin", 115), ("xtrace", 120), ("verbose", 118), ("vi", 86), ("emacs", 69),
    ("noclobber", 67), ("allexport", 97), ("notify", 98), ("nounset", 117), ("nolog", 0), ("debug", 0)]

/-- A job started in the background: its process number, when it ends, and its status. -/
structure Job where
  pid : Nat
  ends : Moment
  status : Nat
  /-- When it started, and the stamp its writes are known by when they are its own. -/
  started : Rat
  own : Option Stamp
  /-- The signal that ended it, if one did. -/
  signal : Option Nat
  /-- Whether the shell has seen it end (so that it no longer exists to be signalled). -/
  reaped : Bool
  deriving Inhabited

/-- What a shell holds. -/
structure ShellState where
  /-- `$0`. -/
  name : Bytes
  params : List Bytes
  vars : List (Bytes × Var)
  funcs : List (Bytes × Command)
  /-- `$?`. -/
  status : Nat
  opts : Options
  /-- The bodies of the here-documents read so far, which redirections point into. -/
  bodies : Array Word
  jobs : List Job
  /-- `$!`. -/
  lastJob : Option Nat
  /-- The commands set to run on signals, by number; number 0 is the shell's exit. -/
  traps : List (Nat × Bytes)
  /-- For each function call under way, the variables made local, with what they were. -/
  locals : List (List (Bytes × Option Var))
  /-- The status of the last command substitution of the command being expanded. -/
  substStatus : Option Nat
  /-- The file mode mask. -/
  umask : Nat
  /-- How deep in function calls and loops the shell is. -/
  funcDepth : Nat
  loopDepth : Nat
  /-- The line of the command running, for complaints. -/
  line : Nat
  /-- The builtin running, named in complaints. -/
  builtin : Option Bytes
  /-- The number of the first shell's process, `$$`. -/
  rootPid : Nat
  deriving Inhabited

/-- Why a step of the shell stopped early. -/
inductive Stop where
  /-- The process ended. -/
  | ended (e : Ending)
  /-- `return` with a status. -/
  | ret (status : Nat)
  /-- `break` out of some loops. -/
  | brk (levels : Nat)
  /-- `continue` with the next round of some loop. -/
  | cont (levels : Nat)
  /-- An error the shell reported: it ends the shell, unless a builtin that is not special
  was running, which then fails with status 2. -/
  | error
  deriving Inhabited

/-- A shell, its process and the world. -/
structure Sys where
  proc : Proc
  world : World
  sh : ShellState
  deriving Inhabited

/-- A step of the shell. -/
abbrev Sh := ExceptT Stop (StateM Sys)

namespace Sh

/-- The shell. -/
def state : Sh ShellState := do return (← get).sh

/-- Changes the shell. -/
def modifyState (f : ShellState → ShellState) : Sh Unit := modify fun s => { s with sh := f s.sh }

/-- Runs a program's step in the shell's process. -/
def prog {α : Type} (m : Prog α) : Sh α := do
  let s ← get
  let (r, (p, w)) := (m.run).run (s.proc, s.world)
  set { s with proc := p, world := w }
  match r with
  | .ok a => pure a
  | .error e => throw (.ended e)

/-- Ends the shell's process with a status. -/
def exitWith {α : Type} (status : Nat) : Sh α := throw (.ended (.exit status))

/-- The status of the last command. -/
def status : Sh Nat := do return (← state).status

/-- Sets the status of the last command. -/
def setStatus (n : Nat) : Sh Unit := modifyState fun s => { s with status := n }

/-- The bytes of a text. -/
def t (s : String) : Bytes := Bytes.ofString s

/-- The head of a complaint: `name: line: ` and the builtin running. -/
def complaintHead : Sh Bytes := do
  let st ← state
  return st.name ++ t ": " ++ Bytes.ofNat st.line ++ t ": " ++
    (match st.builtin with
      | some b => b ++ t ": "
      | none => [])

/-- Writes a complaint to standard error. -/
def complain (msg : Bytes) : Sh Unit := do
  let head ← complaintHead
  prog (Prog.err (Bytes.toArray (head ++ msg ++ [10])))

/-- Complains and raises an error of the shell. -/
def fatal {α : Type} (msg : Bytes) : Sh α := do
  complain msg
  throw .error

/-- A variable. -/
def var? (name : Bytes) : Sh (Option Var) := do return (← state).vars.lookup name

/-- Sets a variable's value, keeping its flags (exported when all are). -/
def setVar (name : Bytes) (value : Bytes) : Sh Unit := modifyState fun s =>
  let old := s.vars.lookup name
  let v : Var := ⟨some value, (old.map (·.exported)).getD false || s.opts.allexport,
    (old.map (·.readonly)).getD false⟩
  { s with vars := (name, v) :: s.vars.filter (·.1 != name) }

/-- Changes a variable as a whole. -/
def putVar (name : Bytes) (v : Var) : Sh Unit := modifyState fun s =>
  { s with vars := (name, v) :: s.vars.filter (·.1 != name) }

/-- Removes a variable. -/
def dropVar (name : Bytes) : Sh Unit := modifyState fun s => { s with vars := s.vars.filter (·.1 != name) }

/-- Assigns a variable, refusing a read-only one (which ends the shell). -/
def assign (name : Bytes) (value : Bytes) : Sh Unit := do
  match ← var? name with
  | some v => if v.readonly then fatal (name ++ t ": is read only") else setVar name value
  | none => setVar name value

/-- The environment given to commands: the exported variables with values. -/
def environment : Sh (List (Bytes × Bytes)) := do
  let st ← state
  return (st.vars.filterMap fun (n, v) => if v.exported then v.value.map (n, ·) else none).reverse

end Sh

end Shell

end Machine

end PracticeForge
