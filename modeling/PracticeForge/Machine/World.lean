import PracticeForge.Machine.Stream
import PracticeForge.Machine.Files

/-!
# Machine/World — processes, their descriptors, and what they share

The world is what the processes of a run share: the file system, the streams between them, the
writes to the two captured streams, and until when the processes started from the first one
hold those streams open.  A process has its own clock, its descriptors, its working directory
and its environment.

A process writes to a descriptor: to a captured stream, a pipe, a file (at its end) or nowhere
(`/dev/null`).  It reads from a descriptor leading to a stream: a pipe, a file opened for
reading (a stream holding the file's bytes, closed from the start) or a device.  Reading waits
for the bytes it needs; a read that would wait for ever leaves the process stuck.

A program's run ends with an exit status, killed by a signal, or stuck: waiting for ever, or
writing without end to a pipe, until its reader goes away.  A signal sent to a process that is
not running (it waits for the sender, say) stays in the world until that process takes it.
-/

namespace PracticeForge

namespace Machine

open Judge (Moment Stamp Origin)

/-- Where a descriptor leads. -/
inductive Fd where
  /-- A captured stream of the run: standard error when `toErr`. -/
  | captured (toErr : Bool)
  /-- The writing end of a stream. -/
  | toStream (id : Nat)
  /-- The reading end of a stream. -/
  | fromStream (id : Nat)
  /-- A file open for writing; writes go to its end. -/
  | toFile (path : Bytes)
  /-- `/dev/null`: reads find nothing, writes vanish. -/
  | null
  deriving BEq, Inhabited

/-- A stream shared by processes, with until when processes other than its first writer hold
its writing end. -/
structure Shared where
  stream : Stream
  heldUntil : Moment
  /-- The size of the regular file the stream reads, when it reads one. -/
  fileSize : Option Nat
  deriving Inhabited

/-- A signal sent to a process that was not running when it was sent: to which process, when,
which signal, and who sent it. -/
structure Sent where
  target : Nat
  time : Rat
  signal : Nat
  sender : Origin
  deriving Inhabited

/-- What the processes of a run share. -/
structure World where
  files : Files
  streams : Array Shared
  captured : Array Judge.Write
  /-- The processes started from the first one holding a captured stream: the stamp of the
  start of the one started directly, and when each lets go. -/
  holders : List (Stamp × Moment)
  /-- The order number of the next thing done. -/
  order : Nat
  /-- The next process number. -/
  nextPid : Nat
  /-- The moment after which nothing done matters: the run is stopped by then. -/
  horizon : Option Rat
  /-- The signals sent and not yet taken. -/
  signals : List Sent
  deriving Inhabited

/-- A process: its clock, who it is to the capture, its descriptors, working directory and
environment. -/
structure Proc where
  now : Rat
  origin : Origin
  fds : List (Nat × Fd)
  cwd : Bytes
  env : List (Bytes × Bytes)
  pid : Nat
  /-- The processes that started this one, nearest first. -/
  parents : List Nat
  deriving Inhabited

/-- How a program's run ended. -/
inductive Ending where
  /-- It exited with a status. -/
  | exit (status : Nat)
  /-- It waits for ever, or (with a stream) writes to that stream until its reader goes away. -/
  | stuck (writingTo : Option Nat)
  /-- A signal ended it. -/
  | killed (signal : Nat)
  deriving Inhabited, BEq

namespace World

/-- A world with a file system and nothing else. -/
def initial (files : Files) (horizon : Option Rat) : World := ⟨files, #[], #[], [], 0, 100, horizon, []⟩

/-- A stream of the world. -/
def stream (w : World) (id : Nat) : Stream := (w.streams.getD id default).stream

/-- Adds a stream: its number and the world after. -/
def addStream (w : World) (s : Stream) : Nat × World :=
  (w.streams.size, { w with streams := w.streams.push ⟨s, .at 0, none⟩ })

/-- Adds a stream reading a regular file's bytes: its number and the world after. -/
def addFile (w : World) (data : ByteArray) : Nat × World :=
  (w.streams.size, { w with streams := w.streams.push ⟨Stream.ofBytes data, .at 0, some data.size⟩ })

/-- The size of the regular file a stream reads, if it reads one. -/
def fileSize? (w : World) (id : Nat) : Option Nat := (w.streams.getD id default).fileSize

/-- Changes a stream. -/
def setStream (w : World) (id : Nat) (s : Stream) : World :=
  { w with streams := w.streams.modify id fun sh => { sh with stream := s } }

/-- Marks a stream held open until a moment. -/
def holdStream (w : World) (id : Nat) (release : Moment) : World :=
  { w with streams := w.streams.modify id fun sh => { sh with heldUntil := sh.heldUntil.max release } }

/-- Closes a stream's writing end: its first writer let go at a moment, the others when they
do. -/
def closeStream (w : World) (id : Nat) (at_ : Moment) : World :=
  { w with streams := w.streams.modify id fun sh =>
      { sh with stream := { sh.stream with closed := at_.max sh.heldUntil } } }

/-- The next order number, taken. -/
def tick (w : World) : Nat × World := (w.order, { w with order := w.order + 1 })

end World

namespace Proc

/-- Where a descriptor leads, if it is open. -/
def fd? (p : Proc) (n : Nat) : Option Fd := p.fds.lookup n

/-- Opens (or, with none, closes) a descriptor. -/
def setFd (p : Proc) (n : Nat) (fd : Option Fd) : Proc :=
  let rest := p.fds.filter (·.1 != n)
  match fd with
  | some f => { p with fds := (n, f) :: rest }
  | none => { p with fds := rest }

/-- Moves the clock to a moment, if it is later. -/
def waitUntil (p : Proc) (t : Rat) : Proc := if p.now < t then { p with now := t } else p

/-- The value of an environment variable. -/
def getEnv (p : Proc) (name : Bytes) : Option Bytes := p.env.lookup name

end Proc

/-- A running program: it changes its process and the world, and may end early, with an exit
status or stuck; what it did before it ended stays done. -/
abbrev Prog := ExceptT Ending (StateM (Proc × World))

namespace Prog

/-- Ends the program with an exit status. -/
def exit {α : Type} (status : Nat) : Prog α := throw (.exit status)

/-- The process running. -/
def proc : Prog Proc := do return (← get).1

/-- The world. -/
def world : Prog World := do return (← get).2

/-- Changes the world. -/
def setWorld (w : World) : Prog Unit := modify fun (p, _) => (p, w)

/-- Changes the process. -/
def setProc (p : Proc) : Prog Unit := modify fun (_, w) => (p, w)

/-- Waits some seconds. -/
def sleep (d : Rat) : Prog Unit := modify fun (p, w) => ({ p with now := p.now + d }, w)

/-- Waits for ever. -/
def block {α : Type} : Prog α := throw (.stuck none)

/-- Moves the clock to a moment the program waited for; waiting for ever leaves it stuck. -/
def reach (m : Moment) : Prog Unit := do
  match m with
  | .at t => modify fun (p, w) => (p.waitUntil t, w)
  | .never => block

/-- Writes a unit of bytes some number of times (without end when `none`) to a descriptor:
whether the descriptor writes.  Writing without end to a pipe leaves the program stuck until the
pipe's reader goes away; writing without end elsewhere leaves it stuck for ever. -/
def writeRepeated (fd : Nat) (unit : ByteArray) (times : Option Nat) : Prog Bool := do
  let (p, w) ← get
  let stamp : Stamp := ⟨p.now, w.order⟩
  let w := { w with order := w.order + 1 }
  let endless := times.isNone && unit.size > 0
  match p.fd? fd with
  | some (.captured e) =>
    set (p, { w with captured := w.captured.push ⟨stamp, p.origin, e, unit, times⟩ })
    if endless then block
    return true
  | some (.toStream id) =>
    set (p, w.setStream id ((w.stream id).push ⟨stamp, p.origin, unit, times⟩))
    if endless then throw (.stuck (some id))
    return true
  | some (.toFile path) =>
    if endless then block
    let data := Judge.repeatPrefix unit times (unit.size * times.getD 0)
    match w.files.write path data true with
    | .ok fs => set (p, { w with files := fs })
    | .error _ => set (p, w)
    return true
  | some .null =>
    set (p, w)
    if endless then block
    return true
  | _ => return false

/-- Writes bytes to a descriptor: whether the descriptor writes. -/
def write (fd : Nat) (bs : ByteArray) : Prog Bool :=
  if bs.size == 0 then do
    -- an empty write still needs a descriptor that writes
    let p ← proc
    match p.fd? fd with
    | some (.fromStream _) | none => return false
    | _ => return true
  else writeRepeated fd bs (some 1)

/-- Writes bytes to standard output, ignoring a descriptor that does not write. -/
def out (bs : ByteArray) : Prog Unit := do let _ ← write 1 bs

/-- Writes bytes to standard error. -/
def err (bs : ByteArray) : Prog Unit := do let _ ← write 2 bs

/-- Writes text to standard error. -/
def errText (s : String) : Prog Unit := err s.toUTF8

/-- The stream a descriptor reads, if it reads one; `/dev/null` reads as an empty stream. -/
def readStream? (fd : Nat) : Prog (Option (Option Nat)) := do
  match (← proc).fd? fd with
  | some (.fromStream id) => return some (some id)
  | some .null => return some none
  | _ => return none

/-- Reads up to `n` bytes from a descriptor; none when it does not read. -/
def read (fd : Nat) (n : Nat) : Prog (Option ByteArray) := do
  match (← readStream? fd) with
  | some (some id) =>
    let w ← world
    let (bs, m, s) := (w.stream id).take n
    setWorld (w.setStream id s)
    if bs.size < n || bs.size > 0 then reach m
    return some bs
  | some none => return some ByteArray.empty
  | none => return none

/-- Reads through the next byte of a kind (a new line, say), or to the end. -/
def readThrough (fd : Nat) (b : UInt8) : Prog (Option (ByteArray × Bool)) := do
  match (← readStream? fd) with
  | some (some id) =>
    let w ← world
    let (bs, found, m, s) := (w.stream id).takeThrough b
    setWorld (w.setStream id s)
    reach m
    return some (bs, found)
  | some none => return some (ByteArray.empty, false)
  | none => return none

/-- Reads everything to the end; a stream without end leaves the program stuck. -/
def readAll (fd : Nat) : Prog (Option ByteArray) := do
  match (← readStream? fd) with
  | some (some id) =>
    let w ← world
    let (bs, m, s) := (w.stream id).takeAll
    setWorld (w.setStream id s)
    reach m
    return some (bs.getD ByteArray.empty)
  | some none => return some ByteArray.empty
  | none => return none

/-- Reads up to `n` bytes (all with none) from a descriptor as the pieces they were written
in, so that passing them on keeps their units and times; and the moment the read finishes.
None when the descriptor does not read. -/
def readPieces (fd : Nat) (n : Option Nat) : Prog (Option (List Piece × Moment)) := do
  match (← readStream? fd) with
  | some (some id) =>
    let w ← world
    let s := w.stream id
    let (ps, taken, m) := Stream.cutPieces s.closed s.rest n
    setWorld (w.setStream id { s with offset := s.offset + taken.getD 0 })
    return some (ps, m)
  | some none => return some ([], .at 0)
  | none => return none

/-- Passes pieces on to a descriptor, each when it came; false when the descriptor does not
write. -/
def passOn (fd : Nat) : List Piece → Prog Bool
  | [] => return true
  | p :: ps => do
    reach (.at p.stamp.time)
    if ← writeRepeated fd p.unit p.times then passOn fd ps else return false

end Prog

end Machine

end PracticeForge
