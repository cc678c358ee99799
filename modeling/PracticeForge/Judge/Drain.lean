import PracticeForge.Judge.Process

/-!
# Judge/Drain — the two readers of a run's pipes

The standard output and error of a started process are read by two readers side by side.
Each reader is a loop: it waits for a chunk of its pipe; an empty chunk is the end of the pipe
and ends the reader; any other chunk adds its length to the reader's running total, and what
still fits under `maxOutputBytes` of it is kept.  When a reader's total passes
`overflowKillBytes` and no overflow is marked yet, it marks one and asks for the process to be
killed.  The two readers share the overflow marks.

The readers share one event loop and wait only for chunks, so the loop's moves are whole passes
of one reader over the chunk it got: a schedule is the list of the chunks in the order their
reads finished, each with the pipe it came from.  `capture` reads a trace a whole write at a
time; this is the loop as written, chunk by chunk.
-/

namespace PracticeForge

namespace Judge

/-- One pipe's reader: the bytes it kept, the number of bytes it read, and whether it met the
end of the pipe. -/
structure Reader where
  kept : ByteArray
  total : Nat
  ended : Bool
  deriving Inhabited

/-- A reader that has read nothing. -/
def Reader.fresh : Reader := ⟨ByteArray.empty, 0, false⟩

/-- A reader after a chunk that is not the end: the total grows by the chunk's length, and the
part of the chunk that fits under `maxOutputBytes` is kept. -/
def Reader.add (r : Reader) (chunk : ByteArray) : Reader :=
  let room := maxOutputBytes - r.kept.size
  { r with
    kept := if room > 0 then r.kept ++ chunk.extract 0 room else r.kept
    total := r.total + chunk.size }

/-- The readers of a run's standard output and error, the overflow marks they share (a list, as
a mark is appended to it), and how many times they asked for the kill. -/
structure Drains where
  out : Reader
  err : Reader
  overflow : List Bool
  kills : Nat
  deriving Inhabited

namespace Drains

/-- The readers before anything is read. -/
def start : Drains := ⟨.fresh, .fresh, [], 0⟩

/-- The reader of standard error (`toErr`) or of standard output. -/
def reader (d : Drains) (toErr : Bool) : Reader := if toErr then d.err else d.out

/-- Replaces the reader of standard error (`toErr`) or of standard output. -/
def setReader (d : Drains) (toErr : Bool) (r : Reader) : Drains :=
  if toErr then { d with err := r } else { d with out := r }

/-- Marks the overflow and asks for the kill, when a reader's total `total` passes the kill limit
and no overflow is marked yet. -/
def check (d : Drains) (total : Nat) : Drains :=
  if total > overflowKillBytes ∧ d.overflow = [] then
    { d with overflow := d.overflow ++ [true], kills := d.kills + 1 }
  else d

/-- One pass of the reading loop of a pipe (standard error when `toErr`) over the chunk its read
gave.  A reader that has ended reads no more. -/
def read (d : Drains) (toErr : Bool) (chunk : ByteArray) : Drains :=
  let r := d.reader toErr
  if r.ended then d
  else if chunk.size = 0 then d.setReader toErr { r with ended := true }
  else
    let r := r.add chunk
    (d.setReader toErr r).check r.total

/-- The readers after the reads of a schedule, each a chunk with the pipe it came from (standard
error when `true`), in the order the reads finished. -/
def run (d : Drains) : List (Bool × ByteArray) → Drains
  | [] => d
  | (toErr, chunk) :: rest => (d.read toErr chunk).run rest

end Drains

end Judge

end PracticeForge
