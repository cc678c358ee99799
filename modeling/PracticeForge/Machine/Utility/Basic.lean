import PracticeForge.Machine.World
import PracticeForge.Machine.Utility.Options

/-!
# Machine/Utility/Basic — what the utilities share

How a utility complains (`name: message` on standard error, and for a bad usage the hint to try
`--help`), how it quotes names in complaints, and how it opens its operands: `-` is standard
input, a device reads as the device does (`/dev/null` empty, `/dev/zero` zero bytes without end),
and a file reads as its bytes, or fails as the system would (no such file, a directory).
-/

namespace PracticeForge

namespace Machine

namespace Utility

open Prog

/-- A system error a utility reports. -/
inductive Errno where
  | noEnt
  | isDir
  | notDir
  | badFd
  | exists_
  | notEmpty
  deriving BEq, Inhabited

/-- The system's words for an error. -/
def Errno.text : Errno → String
  | .noEnt => "No such file or directory"
  | .isDir => "Is a directory"
  | .notDir => "Not a directory"
  | .badFd => "Bad file descriptor"
  | .exists_ => "File exists"
  | .notEmpty => "Directory not empty"

/-- The bytes of a text. -/
def t (s : String) : Bytes := Bytes.ofString s

/-- Writes `name: message` and a new line to standard error. -/
def complain (name : String) (msg : Bytes) : Prog Unit :=
  err (Bytes.toArray (t name ++ t ": " ++ msg ++ [10]))

/-- The hint after a bad usage. -/
def tryHelp (name : String) : Prog Unit :=
  errText ("Try '" ++ name ++ " --help' for more information.\n")

/-- Complains of a bad usage, gives the hint, and exits. -/
def usageError {α : Type} (name : String) (msg : Bytes) (status : Nat := 1) : Prog α := do
  complain name msg
  tryHelp name
  exit status

/-- Reads the options, or complains and exits. -/
def options (name : String) (table : OptTable) (args : List Bytes) (status : Nat := 1) : Prog Parsed :=
  match parseOpts table args with
  | .ok p => pure p
  | .error e => usageError name e.message status

/-- A name in the quotes of the locale: `‘name’`. -/
def quoteLocale (s : Bytes) : Bytes :=
  t "‘" ++ s.foldr (fun c acc =>
    if c == 92 then 92 :: 92 :: acc
    else if c == 10 then 92 :: 110 :: acc
    else if c == 9 then 92 :: 116 :: acc
    else c :: acc) [] ++ t "’"

/-- Whether a name needs quoting for the shell. -/
def needsShellQuote (s : Bytes) : Bool :=
  s.isEmpty || s.any fun c =>
    !(Bytes.isAlpha c || Bytes.isDigit c || c ≥ 128 || [37, 43, 44, 45, 46, 47, 58, 61, 64, 95].contains c)

/-- A name in single quotes for the shell, an inner quote written `'\''`. -/
def shellQuoted (s : Bytes) : Bytes :=
  if s.contains 39 && !s.any (fun c => c == 34 || c == 36 || c == 96 || c == 92) then
    t "\"" ++ s ++ t "\""
  else t "'" ++ s.foldr (fun c acc => if c == 39 then t "'\\''" ++ acc else c :: acc) [] ++ t "'"

/-- A name quoted for the shell only when it needs it. -/
def quoteIfNeeded (s : Bytes) : Bytes := if needsShellQuote s then shellQuoted s else s

/-- A name always quoted for the shell. -/
def quoteAlways (s : Bytes) : Bytes := shellQuoted s

/-- The bytes the pseudo-random device gives, over and over. -/
def randomUnit : ByteArray :=
  ByteArray.mk ((List.range 4096).map fun i => ((i * 1103515245 + 12345) / 65536 % 256).toUInt8).toArray

/-- The operands of a utility, or `-` when there are none. -/
def operandsOrStdin (ops : List Bytes) : List Bytes := if ops.isEmpty then [t "-"] else ops

/-- The descriptor a utility opens operands on. -/
def operandFd : Nat := 9

/-- Opens a path for reading on a descriptor: `-` is standard input (descriptor 0 is used as it
is).  The descriptor to read, or the error. -/
def openRead (path : Bytes) : Prog (Except Errno Nat) := do
  if path == t "-" then return .ok 0
  let p ← proc
  let abs := Files.resolve p.cwd path
  let attach (add : World → Nat × World) : Prog (Except Errno Nat) := do
    let (id, w) := add (← world)
    setWorld w
    setProc ((← proc).setFd operandFd (some (.fromStream id)))
    return .ok operandFd
  let dev (s : Stream) := attach (·.addStream s)
  if abs == t "/dev/null" then dev Stream.empty
  else if abs == t "/dev/zero" then dev (Stream.endless (ByteArray.mk #[0]))
  else if abs == t "/dev/urandom" || abs == t "/dev/random" then dev (Stream.endless randomUnit)
  else if abs == t "/dev/stdin" || abs == t "/dev/fd/0" then return .ok 0
  else
    match (← world).files.get? abs with
    | some (.file d) => attach (·.addFile d)
    | some .dir => return .error .isDir
    | none =>
      -- a missing directory on the way, or a file used as one
      let parts := Files.components abs
      let prefixes := (List.range parts.length).map fun i => Files.join (parts.take i)
      let fs := (← world).files
      if prefixes.any fun pre => match fs.get? pre with
          | some (.file _) => true
          | _ => false then return .error .notDir
      else return .error .noEnt

/-- What a look at a path (or `-`, standard input) finds: none when there is nothing there; else
the size when it is a regular file, and none for anything else (a directory, a device, a pipe). -/
def statOperand (path : Bytes) : Prog (Option (Option Nat)) := do
  let p ← proc
  let w ← world
  if path == t "-" then
    match p.fd? 0 with
    | some (.fromStream id) => return some (w.fileSize? id)
    | _ => return some none
  let abs := Files.resolve p.cwd path
  if (t "/dev/").isPrefixOf abs then
    return (if [t "/dev/null", t "/dev/zero", t "/dev/urandom", t "/dev/random", t "/dev/stdin",
      t "/dev/fd/0"].contains abs then some none else none)
  match w.files.get? abs with
  | some (.file d) => return some (some d.size)
  | some .dir => return some none
  | none => return none

/-- Reads all of a descriptor's stream; a stream without end leaves the program stuck. -/
def readAllOf (fd : Nat) : Prog ByteArray := do
  match (← readAll fd) with
  | some bs => return bs
  | none => return ByteArray.empty

/-- The bytes of an array as a list. -/
def listOf (a : ByteArray) : Bytes := a.data.toList

/-- Splits bytes into lines, each with its new line (the last maybe without). -/
def linesOf (bs : ByteArray) : List Bytes := Bytes.lines (listOf bs)

/-- A number with a size suffix, as GNU reads counts: `b` (512), `k`/`K` (1024), `m`/`M`, `G`,
`T`, `P`, `E`, `Z`, `Y`, `R`, `Q` (powers of 1024), each letter maybe followed by `B` (powers of
1000) or `iB`.  None when it is not such a number; the value is not capped. -/
def sizeValue (s : Bytes) : Option Nat :=
  let ds := s.takeWhile Bytes.isDigit
  if ds.isEmpty then none
  else
    let n := Bytes.digitsValue ds
    let suffix := s.drop ds.length
    let letters : List (UInt8 × Nat) := [(107, 1), (75, 1), (109, 2), (77, 2), (71, 3), (84, 4), (80, 5),
      (69, 6), (90, 7), (89, 8), (82, 9), (81, 10)]
    match suffix with
    | [] => some n
    | [98] => some (n * 512)
    | c :: rest =>
      match letters.lookup c with
      | none => none
      | some k =>
        match rest with
        | [] => some (n * Nat.pow 1024 k)
        | [66] => some (n * Nat.pow 1000 k)
        | [105, 66] => some (n * Nat.pow 1024 k)
        | _ => none

/-- The largest count a utility keeps: 2^64 - 1. -/
def maxCount : Nat := Nat.pow 2 64 - 1

end Utility

end Machine

end PracticeForge
