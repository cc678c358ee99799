import PracticeForge.Machine.Bytes

/-!
# Machine/Files — the file system a process sees

A file system is a set of absolute paths, each a directory or a file with its bytes.  Paths are
resolved against a working directory: `.` and empty components are dropped, and `..` goes up
(staying at the root).  The devices (`/dev/null`, `/dev/zero` ...) are not files here: opening
them is handled where files are opened.
-/

namespace PracticeForge

namespace Machine

/-- What a path names. -/
inductive Node where
  | file (data : ByteArray)
  | dir
  deriving Inhabited

/-- A file system: each path it holds, with what the path names. -/
structure Files where
  nodes : List (Bytes × Node)
  deriving Inhabited

/-- Why a file could not be opened or made. -/
inductive FileError where
  | missing
  | missingDir
  | isDir
  | notDir
  deriving BEq, Inhabited

namespace Files

/-- The components of a path. -/
def components (p : Bytes) : List Bytes := (Bytes.splitOn 47 p).filter (!·.isEmpty)

/-- A path made of components. -/
def join (cs : List Bytes) : Bytes :=
  match cs with
  | [] => [47]
  | _ => cs.foldl (fun acc c => acc ++ [47] ++ c) []

/-- The absolute path a path names from a working directory. -/
def resolve (cwd : Bytes) (p : Bytes) : Bytes :=
  let start := if p.head? == some 47 then [] else components cwd
  join ((components p).foldl (fun acc c =>
    if c == [46] then acc
    else if c == [46, 46] then acc.dropLast
    else acc ++ [c]) start)

/-- The directory holding a path. -/
def parent (abs : Bytes) : Bytes := join (components abs).dropLast

/-- The last component of a path. -/
def baseName (abs : Bytes) : Bytes := ((components abs).getLast?).getD []

/-- What an absolute path names. -/
def get? (fs : Files) (abs : Bytes) : Option Node :=
  (fs.nodes.find? (·.1 == abs)).map (·.2)

/-- Whether a path names a directory. -/
def isDir (fs : Files) (abs : Bytes) : Bool :=
  match fs.get? abs with
  | some .dir => true
  | _ => false

/-- Sets what a path names. -/
def set (fs : Files) (abs : Bytes) (n : Node) : Files :=
  if fs.nodes.any (·.1 == abs) then { nodes := fs.nodes.map fun e => if e.1 == abs then (abs, n) else e }
  else { nodes := fs.nodes ++ [(abs, n)] }

/-- Removes a path (and all under it). -/
def remove (fs : Files) (abs : Bytes) : Files :=
  { nodes := fs.nodes.filter fun e => !(e.1 == abs || (abs ++ [47]).isPrefixOf e.1) }

/-- The bytes of a file to read. -/
def read (fs : Files) (abs : Bytes) : Except FileError ByteArray :=
  match fs.get? abs with
  | some (.file d) => .ok d
  | some .dir => .error .isDir
  | none => .error .missing

/-- Writes a file, emptied first unless `append`: the file system after, or why it cannot be
written. -/
def write (fs : Files) (abs : Bytes) (data : ByteArray) (append : Bool) : Except FileError Files :=
  match fs.get? abs with
  | some .dir => .error .isDir
  | some (.file old) => .ok (fs.set abs (.file (if append then old ++ data else data)))
  | none =>
    match fs.get? (parent abs) with
    | some .dir => .ok (fs.set abs (.file data))
    | some (.file _) => .error .notDir
    | none => .error .missingDir

/-- The names directly in a directory, in byte order. -/
def list (fs : Files) (abs : Bytes) : List Bytes :=
  let prefix_ := if abs == [47] then [47] else abs ++ [47]
  let names := fs.nodes.filterMap fun (p, _) =>
    if prefix_.isPrefixOf p && p != abs then
      let rest := p.drop prefix_.length
      if rest.contains 47 || rest.isEmpty then none else some rest
    else none
  names.mergeSort fun a b => decide (a ≤ b)

/-- A file system with the usual directories and a working directory. -/
def initial (cwd : Bytes) : Files :=
  let dirs := ["/", "/bin", "/dev", "/etc", "/home", "/root", "/tmp", "/usr", "/usr/bin",
    "/usr/local", "/usr/local/bin", "/var"].map Bytes.ofString
  let withDirs : Files := { nodes := dirs.map (·, Node.dir) }
  (components cwd).foldl (fun (acc : Files × List Bytes) c =>
    let path := acc.2 ++ [c]
    (acc.1.set (join path) .dir, path)) (withDirs, []) |>.1

end Files

end Machine

end PracticeForge
