import PracticeForge.Failure
import PracticeForge.Text.Words

/-!
# Judge/Files — writing a learner's files into a fresh directory

The judge runs each submission in a directory of its own.  A file name is refused when it is
blank, longer than 256 characters, holds a NUL character, is absolute, or leads out of the
directory once `.` and `..` steps and repeated slashes are resolved; the name as given is
quoted in the last case.  Names are resolved by their text alone, so `a/../b.py` is `b.py`
even where `a` is a file.

Writing a file creates the directories above it.  The directory is modelled as a tree of
directories and files, and the operating system's refusals are reproduced with their messages:
a name part longer than 255 bytes, a directory wanted where a file is, a file written where a
directory is.  A text that UTF-8 cannot encode is refused once its file is opened.  Files
written before a refusal stay written.
-/

namespace PracticeForge

namespace Judge

/-- The longest file name accepted, in characters. -/
def maxFileName : Nat := 256

/-- The longest part of a path the file system takes, in bytes. -/
def maxNamePart : Nat := 255

/-- An entry of a directory tree. -/
inductive Node where
  | dir
  | file (content : String)
  deriving Repr, Inhabited, BEq

/-- A directory tree: every path below the root (as its parts) with its entry. -/
structure Tree where
  entries : List (List String × Node)
  deriving Repr, Inhabited

/-- Why the file system refused a call. -/
inductive PathFault where
  | nameTooLong
  | notFound
  | notDirectory
  | alreadyExists
  | isDirectory
  deriving Repr, Inhabited, DecidableEq

/-- The class and text the file system's refusals are reported with. -/
def PathFault.report : PathFault → String × String
  | .nameTooLong => ("OSError", "[Errno 36] File name too long")
  | .notFound => ("FileNotFoundError", "[Errno 2] No such file or directory")
  | .notDirectory => ("NotADirectoryError", "[Errno 20] Not a directory")
  | .alreadyExists => ("FileExistsError", "[Errno 17] File exists")
  | .isDirectory => ("IsADirectoryError", "[Errno 21] Is a directory")

/-- A refusal as a failure, naming the path shown as `shown`. -/
def PathFault.toFailure (f : PathFault) (shown : String) : Failure :=
  .system f.report.1 (f.report.2 ++ ": " ++ (Json.str shown).quotedForm)

namespace Tree

/-- The tree of an empty directory. -/
def empty : Tree := ⟨[]⟩

/-- The entry at a path; the root is a directory. -/
def node? (t : Tree) (p : List String) : Option Node :=
  if p.isEmpty then some .dir else (t.entries.find? (·.1 == p)).map (·.2)

/-- Whether a name part is too long for the file system. -/
def tooLong (part : String) : Bool := part.utf8ByteSize > maxNamePart

/-- Checks that the directories leading to a path are there, part by part. -/
def reach (t : Tree) (p : List String) : Option PathFault :=
  let parents := p.dropLast
  (List.range parents.length).foldl (fun found k =>
    match found with
    | some f => some f
    | none =>
      if tooLong (parents.getD k "") then some .nameTooLong
      else match t.node? (parents.take (k + 1)) with
        | none => some .notFound
        | some (.file _) => some .notDirectory
        | some .dir => none) none

/-- Whether a path names an entry. -/
def present (t : Tree) (p : List String) : Bool :=
  (t.reach p).isNone && !(p.getLast?.map tooLong).getD false && (t.node? p).isSome

/-- Whether a path names a directory. -/
def isDir (t : Tree) (p : List String) : Bool := t.present p && t.node? p == some .dir

/-- Sets the entry at a path. -/
def put (t : Tree) (p : List String) (n : Node) : Tree :=
  ⟨(t.entries.filter (·.1 != p)) ++ [(p, n)]⟩

/-- Makes one directory. -/
def mkdir (t : Tree) (p : List String) : Except PathFault Tree :=
  match t.reach p with
  | some f => .error f
  | none =>
    if (p.getLast?.map tooLong).getD false then .error .nameTooLong
    else if p.isEmpty || (t.node? p).isSome then .error .alreadyExists
    else .ok (t.put p .dir)

/-- Makes the directory of the first `k` parts of `p` and those above it, leaving those that
are there; a refusal names the directory it stopped at. -/
def makeDirs (p : List String) : Nat → Tree → Except (PathFault × List String) Tree
  | 0, t => .ok t
  | k + 1, t => do
    let here := p.take (k + 1)
    let t ← if 0 < k && !t.present (p.take k) then makeDirs p k t else pure t
    match t.mkdir here with
    | .ok t => pure t
    | .error f => if t.isDir here then pure t else throw (f, here)

/-- Writes a file, replacing one that is there. -/
def writeFile (t : Tree) (p : List String) (content : String) : Except PathFault Tree :=
  if p.isEmpty then .error .isDirectory
  else match t.reach p with
    | some f => .error f
    | none =>
      if (p.getLast?.map tooLong).getD false then .error .nameTooLong
      else if t.node? p == some .dir then .error .isDirectory
      else .ok (t.put p (.file content))

/-- The files of the tree by their paths, parts joined by `/`, in order of path. -/
def files (t : Tree) : List (String × String) :=
  let fs := t.entries.filterMap fun (p, n) =>
    match n with
    | .file c => some ("/".intercalate p, c)
    | .dir => none
  fs.mergeSort fun a b => decide (a.1 ≤ b.1)

end Tree

/-- The parts of a path below the root once `.`, `..` and empty parts are resolved; none
when it leads above the root. -/
def resolveParts : List String → List String → Option (List String)
  | acc, [] => some acc.reverse
  | acc, "" :: rest => resolveParts acc rest
  | acc, "." :: rest => resolveParts acc rest
  | [], ".." :: _ => none
  | _ :: acc, ".." :: rest => resolveParts acc rest
  | acc, part :: rest => resolveParts (part :: acc) rest

/-- Where a file name lands below the root, or why it is refused. -/
def placeOf (name : String) : Except Failure (List String) :=
  if (Text.trim name).isEmpty then throw (.badValue "Invalid filename.")
  else if name.length > maxFileName then throw (.badValue "Filename is too long.")
  else if name.toList.contains (Char.ofNat 0) then throw (.badValue "Invalid filename.")
  else if name.startsWith "/" then throw (.badValue "Absolute paths are not allowed.")
  else match resolveParts [] (name.splitOn "/") with
    | some parts => pure parts
    | none => throw (.badValue ("Invalid filename (path traversal): " ++ name))

/-- The path shown for parts below a root shown as `root`. -/
def shownPath (root : String) (parts : List String) : String :=
  "/".intercalate (root :: parts)

/-- Writes one file below the root shown as `root`. -/
def writeOne (root : String) (t : Tree) (name content : String) : Except Failure Tree := do
  let parts ← placeOf name
  let dir := parts.dropLast
  let t ← (Tree.makeDirs dir dir.length t).mapError fun (f, p) => f.toFailure (shownPath root p)
  let t ← (t.writeFile parts content).mapError fun f => f.toFailure (shownPath root parts)
  -- the file is opened before its text is encoded
  match Text.utf8Refusal? content with
  | some m => throw (.unencodable m)
  | none => pure t

/-- Writes files in order below the root shown as `root`; the tree holds every file written
before a refusal. -/
def writeUserFiles (root : String) (t : Tree) : List (String × String) → Tree × Option Failure
  | [] => (t, none)
  | (name, content) :: rest =>
    match writeOne root t name content with
    | .ok t => writeUserFiles root t rest
    | .error f => (t, some f)

end Judge

end PracticeForge
