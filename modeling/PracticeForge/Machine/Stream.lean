import PracticeForge.Judge.Process
import PracticeForge.Machine.Bytes

/-!
# Machine/Stream — byte streams between processes, in time

A stream is what one process writes and another reads: a pipe, the output of a command
substitution, or a file being read.  It is kept as the pieces written to it, each stamped with
the moment it was written.  A piece is a unit of bytes written some number of times in a row, or
without end (as `yes` writes a line, or `/dev/zero` reads as zero bytes), so that large and
endless streams cost no more than their unit.

A reader takes bytes from where the last read stopped.  A read returns the moment it could
finish: when the last byte it takes was written, or, when it needs more than was written, the
moment the writers let go of the stream (which may be never).
-/

namespace PracticeForge

namespace Machine

open Judge (Moment Stamp Origin)

/-- A piece of a stream: a unit of bytes written `times` times in a row (without end when
`none`), at a moment, by a process. -/
structure Piece where
  stamp : Stamp
  origin : Origin
  unit : ByteArray
  times : Option Nat
  deriving Inhabited

namespace Piece

/-- The bytes of a piece, if it ends. -/
def size? (p : Piece) : Option Nat := p.times.map (p.unit.size * ·)

/-- Whether a piece holds no byte. -/
def isEmpty (p : Piece) : Bool := p.unit.size == 0 || p.times == some 0

/-- Up to `n` bytes of a piece from an offset into it. -/
def slice (p : Piece) (start n : Nat) : ByteArray :=
  if p.unit.size == 0 then ByteArray.empty
  else
    let n := match p.size? with
      | some s => Nat.min n (s - start)
      | none => n
    let skip := start % p.unit.size
    (Judge.repeatPrefix p.unit none (skip + n)).extract skip (skip + n)

/-- A piece of the given bytes, written once. -/
def once (stamp : Stamp) (origin : Origin) (bs : ByteArray) : Piece := ⟨stamp, origin, bs, some 1⟩

end Piece

/-- A stream: its pieces, how many bytes have been read from it, and when its writers let go of
it. -/
structure Stream where
  pieces : Array Piece
  offset : Nat
  closed : Moment
  deriving Inhabited

namespace Stream

/-- A stream with nothing in it, closed from the start. -/
def empty : Stream := ⟨#[], 0, .at 0⟩

/-- A stream holding some bytes from the start, closed then: a file being read. -/
def ofBytes (bs : ByteArray) : Stream := ⟨#[Piece.once ⟨0, 0⟩ .main bs], 0, .at 0⟩

/-- A stream of one byte without end, from the start: a device such as `/dev/zero`. -/
def endless (unit : ByteArray) : Stream := ⟨#[⟨⟨0, 0⟩, .main, unit, none⟩], 0, .never⟩

/-- Adds a piece at the end. -/
def push (s : Stream) (p : Piece) : Stream := { s with pieces := s.pieces.push p }

/-- The pieces from the read offset on: the first one cut where the offset falls, as the piece
and the offset into it. -/
def rest (s : Stream) : List (Piece × Nat) :=
  go s.pieces.toList s.offset
where
  go : List Piece → Nat → List (Piece × Nat)
    | [], _ => []
    | p :: ps, k =>
      match p.size? with
      | some n => if k ≥ n then go ps (k - n) else (p, k) :: ps.map (·, 0)
      | none => (p, k) :: ps.map (·, 0)

/-- Whether nothing is left to read and nothing more will come but at the close. -/
def restEndless (s : Stream) : Bool :=
  s.rest.any fun (p, _) => p.times.isNone && p.unit.size > 0

/-- The part of a piece from an offset into it, at most `n` bytes (all of it with none), as
pieces that keep the unit where they can: a part of a unit, whole units, a part of a unit.  Also
the number of bytes, when it is finite. -/
def partOf (p : Piece) (k : Nat) (n : Option Nat) : List Piece × Option Nat :=
  let u := p.unit.size
  if u == 0 then ([], some 0)
  else
    let skip := k % u
    let avail : Option Nat := p.size?.map (· - k)
    let want : Option Nat := match avail, n with
      | some a, some m => some (Nat.min a m)
      | some a, none => some a
      | none, m => m
    let once (bs : ByteArray) : Piece := { p with unit := bs, times := some 1 }
    match want with
    | none =>
      ((if skip == 0 then [] else [once (p.unit.extract skip u)]) ++ [{ p with times := none }], none)
    | some total =>
      let headLen := if skip == 0 then 0 else Nat.min (u - skip) total
      let rest := total - headLen
      ((if headLen > 0 then [once (p.unit.extract skip (skip + headLen))] else []) ++
        (if rest / u > 0 then [{ p with times := some (rest / u) }] else []) ++
        (if rest % u > 0 then [once (p.unit.extract 0 (rest % u))] else []), some total)

/-- Takes up to `n` bytes (all with none) from the pieces after the read offset, as pieces: the
pieces, the number of bytes (none when without end), and the moment the read could finish. -/
def cutPieces (closed : Moment) : List (Piece × Nat) → Option Nat → List Piece × Option Nat × Moment
  | [], _ => ([], some 0, closed)
  | (p, k) :: ps, n =>
    if n == some 0 then ([], some 0, .at 0)
    else
      let (parts, got) := partOf p k n
      match got with
      | none => (parts, none, .never)
      | some g =>
        let last : Moment := if g > 0 then .at p.stamp.time else .at 0
        let n' := n.map (· - g)
        if n' == some 0 then (parts, some g, last)
        else
          let (more, got', m) := cutPieces closed ps n'
          (parts ++ more, got'.map (g + ·), if n'.isNone then m else m.max last)

/-- Reads up to `n` bytes: the bytes, and the moment the read could finish. -/
def take (s : Stream) (n : Nat) : ByteArray × Moment × Stream :=
  go s.rest n ByteArray.empty (.at 0)
where
  go : List (Piece × Nat) → Nat → ByteArray → Moment → ByteArray × Moment × Stream
    | _, 0, acc, m => (acc, m, { s with offset := s.offset + acc.size })
    | [], _, acc, _ => (acc, s.closed, { s with offset := s.offset + acc.size })
    | (p, k) :: ps, n + 1, acc, m =>
      let bs := p.slice k (n + 1)
      let m := if bs.size > 0 then Moment.at p.stamp.time else m
      if bs.size ≥ n + 1 then (acc ++ bs, m, { s with offset := s.offset + acc.size + bs.size })
      else go ps (n + 1 - bs.size) (acc ++ bs) m

/-- The index of the first byte of a kind in an array, from a position. -/
def findByte (bs : ByteArray) (b : UInt8) (start : Nat) : Option Nat :=
  go start (bs.size - start)
where
  go : Nat → Nat → Option Nat
    | _, 0 => none
    | i, fuel + 1 => if bs.get! i == b then some i else go (i + 1) fuel

/-- Reads up to and including the next byte of a kind (a new line, say): the bytes, whether the
byte was found, and the moment the read could finish.  A stream that goes on without end and
without the byte is read forever. -/
def takeThrough (s : Stream) (b : UInt8) : ByteArray × Bool × Moment × Stream :=
  go s.rest ByteArray.empty (.at 0)
where
  go : List (Piece × Nat) → ByteArray → Moment → ByteArray × Bool × Moment × Stream
    | [], acc, _ => (acc, false, s.closed, { s with offset := s.offset + acc.size })
    | (p, k) :: ps, acc, m =>
      if p.isEmpty then go ps acc m
      else
        let u := p.unit.size
        -- where the byte next falls in the piece, if it does
        let skip := k % u
        let found : Option Nat :=
          match findByte p.unit b skip with
          | some j => some (j - skip)
          | none => (findByte p.unit b 0).map fun j => u - skip + j
        let avail := (p.size?.map (· - k))
        match found, avail with
        | some d, some a =>
          if d < a then
            let bs := p.slice k (d + 1)
            (acc ++ bs, true, .at p.stamp.time, { s with offset := s.offset + acc.size + bs.size })
          else go ps (acc ++ p.slice k a) (.at p.stamp.time)
        | some d, none =>
          let bs := p.slice k (d + 1)
          (acc ++ bs, true, .at p.stamp.time, { s with offset := s.offset + acc.size + bs.size })
        | none, some a => go ps (acc ++ p.slice k a) (if a > 0 then .at p.stamp.time else m)
        | none, none => (acc, false, .never, s)

/-- Reads everything up to the close: the bytes, or none for a stream without end, and the
moment the read could finish. -/
def takeAll (s : Stream) : Option ByteArray × Moment × Stream :=
  if s.restEndless then (none, .never, s)
  else
    let bs := s.rest.foldl (fun acc (p, k) => acc ++ p.slice k ((p.size?.getD 0) - k)) ByteArray.empty
    (some bs, s.closed, { s with offset := s.offset + bs.size })

/-- The bytes left in a stream, if it ends, without reading them. -/
def restSize? (s : Stream) : Option Nat :=
  s.rest.foldl (fun acc (p, k) => match acc, p.size? with
    | some a, some n => some (a + (n - k))
    | _, _ => if p.isEmpty then acc else none) (some 0)

end Stream

end Machine

end PracticeForge
