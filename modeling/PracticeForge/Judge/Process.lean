import PracticeForge.Judge.Files
import PracticeForge.Judge.Output
import PracticeForge.Number.Binary64
import PracticeForge.Text.Utf8

/-!
# Judge/Process — running a command and keeping what it wrote

A run is described by its trace: the writes to the two captured streams (standard output and
error), each stamped with its time and the order in which the machine made it, and who made
it — the started process, or a process started from it; when the started process exits; and
until when the processes it started keep the streams open.

The reader reads both streams until both are closed and the started process has exited, or until
the time limit.  It keeps at most the first mebibyte of each stream.  A stream passing four
mebibytes gets the started process killed (code `-9`) if it is still running; the processes it
started keep running and writing, so the run may still reach the time limit.  At the time limit a
process still running is killed.  The kept bytes are read as UTF-8, each malformed sequence read
as one replacement character, and colour codes are removed.
-/

namespace PracticeForge

namespace Judge

/-- A moment of a run: a number of seconds after the start, or never. -/
inductive Moment where
  | at (seconds : Rat)
  | never
  deriving Inhabited, BEq

namespace Moment

/-- The later of two moments. -/
def max : Moment → Moment → Moment
  | .at a, .at b => .at (if a ≤ b then b else a)
  | _, _ => .never

/-- Whether a moment comes before a number of seconds. -/
def before : Moment → Rat → Bool
  | .at a, t => decide (a < t)
  | .never, _ => false

/-- A moment some seconds later; never stays never. -/
def after : Moment → Rat → Moment
  | .at a, d => .at (a + d)
  | .never, _ => .never

end Moment

/-- When something happened, and in which order among the things that happened at that time:
ties in time are broken by the order in which the machine did them. -/
structure Stamp where
  time : Rat
  order : Nat
  deriving Inhabited, BEq

/-- Whether one stamp comes before another. -/
def Stamp.lt (a b : Stamp) : Bool := a.time < b.time || (a.time == b.time && a.order < b.order)

/-- Who wrote to a captured stream: the started process itself, or a process started from it
(directly or not), known by the stamp of the start of the one started directly. -/
inductive Origin where
  | main
  | child (started : Stamp)
  deriving Inhabited, BEq

/-- A write to one of the two captured streams: a unit of bytes written some number of times in
a row, or again and again without end (`times` is `none`). -/
structure Write where
  stamp : Stamp
  origin : Origin
  toErr : Bool
  unit : ByteArray
  times : Option Nat
  deriving Inhabited

/-- The number of bytes a write writes, if it ends. -/
def Write.size? (w : Write) : Option Nat := w.times.map (w.unit.size * ·)

/-- A run as its reader sees it: the writes to the captured streams, when the started process
exits and with which code, and until when each process started from it keeps a captured
stream open. -/
structure Trace where
  writes : Array Write
  exit : Moment
  exitOrder : Nat
  code : Int
  holders : List (Stamp × Moment)
  deriving Inhabited

/-- One thing a running process does, for a process that does things one after another. -/
inductive Act where
  /-- Writes bytes to standard error (`toErr`) or standard output. -/
  | write (toErr : Bool) (bytes : ByteArray)
  /-- Waits for some seconds. -/
  | wait (seconds : Binary64)
  /-- Exits with a code. -/
  | exit (code : Int)

/-- A number of seconds as an exact fraction; NaN and infinities read as never. -/
def secondsOf (x : Binary64) : Option Rat :=
  x.toRatio?.map fun (neg, n, d) => (if neg then -1 else 1) * (n : Rat) / (d : Rat)

/-- The trace of a process that does its acts one after another and starts nothing. -/
def Trace.ofActs (acts : List Act) : Trace :=
  go acts 0 0 #[]
where
  go : List Act → Rat → Nat → Array Write → Trace
    | [], t, n, ws => ⟨ws, .at t, n, 0, []⟩
    | .exit code :: _, t, n, ws => ⟨ws, .at t, n, code, []⟩
    | .write toErr bytes :: rest, t, n, ws => go rest t (n + 1) (ws.push ⟨⟨t, n⟩, .main, toErr, bytes, some 1⟩)
    | .wait d :: rest, t, n, ws =>
      match secondsOf d with
      | some s => go rest (t + (if s < 0 then 0 else s)) n ws
      | none => ⟨ws, .never, n, 0, []⟩

/-- What a finished process left. -/
structure ProcessResult where
  stdout : String
  stderr : String
  exitCode : Int
  timedOut : Bool
  /-- Whether it was stopped for writing too much. -/
  outputOverflow : Bool
  deriving Repr, Inhabited

/-- The bytes kept of each stream. -/
def maxOutputBytes : Nat := 1024 * 1024

/-- A process writing more than this many bytes to one stream is killed. -/
def overflowKillBytes : Nat := 4 * maxOutputBytes

/-- The exit code of a killed process. -/
def killedExit : Int := -9

/-- The first `n` bytes of a unit repeated `times` times, or without end. -/
def repeatPrefix (unit : ByteArray) (times : Option Nat) (n : Nat) : ByteArray :=
  if unit.size == 0 then ByteArray.empty
  else
    let whole := match times with
      | some k => Nat.min k (n / unit.size + 1)
      | none => n / unit.size + 1
    (ByteArray.mk (Array.replicate whole unit.data).flatten).extract 0 n

/-- Keeps the bytes of a write that fit under the cap. -/
def keep (kept : ByteArray) (w : Write) : ByteArray :=
  if kept.size ≥ maxOutputBytes then kept
  else kept ++ repeatPrefix w.unit w.times (maxOutputBytes - kept.size)

/-- Whether a write survives the start process being killed at a stamp: the killed process's
own writes after it are lost, and so are those of processes it would have started after it. -/
def survives (kill : Option Stamp) (w : Write) : Bool :=
  match kill with
  | none => true
  | some k =>
    match w.origin with
    | .main => !k.lt w.stamp
    | .child s => s.lt k

/-- Walks the writes in time order, counting the bytes of each stream: where a count first
passes the kill limit, if it does. -/
def overflowAt (ws : List Write) : Option Stamp :=
  go ws 0 0
where
  go : List Write → Nat → Nat → Option Stamp
    | [], _, _ => none
    | w :: rest, out, err =>
      match w.size? with
      | none => if w.unit.size > 0 then some w.stamp else go rest out err
      | some n =>
        let (out, err) := if w.toErr then (out, err + n) else (out + n, err)
        if out > overflowKillBytes || err > overflowKillBytes then some w.stamp
        else go rest out err

/-- The writes made before the time limit, in time order. -/
def Trace.inOrder (tr : Trace) (timeout : Option Rat) : List Write :=
  let inTime := tr.writes.toList.filter fun w => match timeout with
    | some t => decide (w.stamp.time < t)
    | none => true
  (inTime.toArray.qsort fun a b => a.stamp.lt b.stamp).toList

/-- Where the started process is killed for writing too much, given the writes in time order:
where a stream first passes the kill limit, unless the process had exited before. -/
def Trace.overflowKill (tr : Trace) (sorted : List Write) : Option Stamp :=
  -- the kill only stops a process still running
  let exitStamp : Option Stamp := match tr.exit with
    | .at t => some ⟨t, tr.exitOrder⟩
    | .never => none
  match overflowAt sorted, exitStamp with
    | some k, some e => if e.lt k then none else some k
    | some k, none => some k
    | none, _ => none

/-- The writes that reach the reader, given the writes in time order: all of them, less those a
kill for writing too much stopped. -/
def Trace.delivered (tr : Trace) (sorted : List Write) : List Write :=
  sorted.filter (survives (tr.overflowKill sorted))

/-- Reads a trace under a time limit, as the reader of the two streams does: it reads both
until both are closed and the process has exited, or until the time is up.  A stream passing
the kill limit gets the started process killed, if it is still running; processes it started
keep running.  When the time is up a process still running is killed. -/
def capture (tr : Trace) (timeout : Option Rat) : ByteArray × ByteArray × Int × Bool × Bool :=
  let sorted := tr.inOrder timeout
  let overflowed := overflowAt sorted
  let kill := tr.overflowKill sorted
  let kept := tr.delivered sorted
  let mainEnd : Moment := match kill with
    | some k => .at k.time
    | none => tr.exit
  let holding := tr.holders.filter fun (s, _) => match kill with
    | some k => s.lt k
    | none => true
  let done := holding.foldl (fun m (_, e) => m.max e) mainEnd
  let out := kept.foldl (fun acc w => if w.toErr then acc else keep acc w) ByteArray.empty
  let err := kept.foldl (fun acc w => if w.toErr then keep acc w else acc) ByteArray.empty
  let finished := match timeout with
    | some t => done.before t
    | none => done != .never
  let code := if kill.isSome then killedExit
    else if finished then tr.code
    else match timeout with
      | some t => if tr.exit.before t then tr.code else killedExit
      | none => killedExit
  (out, err, code, !finished, overflowed.isSome)

/-- A stream's kept bytes as text. -/
def readStream (bs : ByteArray) : String := stripAnsi (Text.decodeLossy bs)

/-- Reads a trace under a time limit in seconds. -/
def runTrace (tr : Trace) (timeout : Binary64) : ProcessResult :=
  let (out, err, code, timedOut, overflow) := capture tr (secondsOf timeout)
  ⟨readStream out, readStream err, code, timedOut, overflow⟩

/-- Starts a command in a directory with the given files, to be stopped after some seconds,
acting on a world of type `σ`: it fails to start, or it does what the world says. -/
abbrev ProcessStarter (σ : Type) := List String → Tree → Option Rat → σ → Except Failure Trace × σ

/-- Runs a command in a directory with the given files under a time limit in seconds, acting on
a world of type `σ`. -/
abbrev ProcessRunner (σ : Type) :=
  List String → Tree → Binary64 → σ → Except Failure ProcessResult × σ

/-- Runs a command under a time limit in seconds; a command that cannot start is a failure of
the judge. -/
def runProcess {σ : Type} (start : ProcessStarter σ) : ProcessRunner σ := fun cmd t timeout w =>
  match start cmd t (secondsOf timeout) w with
  | (.ok tr, w) => (.ok (runTrace tr timeout), w)
  | (.error e, w) => (.error (.sandbox ("could not start " ++ (cmd.head?.getD "") ++ ": " ++ e.message)), w)

/-- The failure of starting a program that does not exist. -/
def missingProgram (name : String) : Failure :=
  .system "FileNotFoundError" ("[Errno 2] No such file or directory: " ++ (Json.str name).quotedForm)

end Judge

end PracticeForge
