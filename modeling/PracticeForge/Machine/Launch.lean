import PracticeForge.Machine.Shell.Run
import PracticeForge.Judge.Process

/-!
# Machine/Launch — starting a program in a fresh directory

A run starts one program, by its name or its path, in an empty working directory holding the
files given, with no input, its output and errors captured.  What the program and the processes
it starts do becomes the run's trace: the captured writes, when the program ended and with what
status, and until when the processes it started held the captured streams.  A program that is
not installed cannot start.
-/

namespace PracticeForge

namespace Machine

open Shell

/-- The directory a run starts in. -/
def workDir : Bytes := Bytes.ofString "/tmp/work"

/-- The environment a run starts with. -/
def startEnv : List (Bytes × Bytes) :=
  [("HOME", "/root"), ("LANG", "C.UTF-8"), ("PATH", "/usr/local/sbin:/usr/local/bin:/usr/sbin:/usr/bin:/sbin:/bin"),
    ("PWD", "/tmp/work")].map fun (n, v) => (Bytes.ofString n, Bytes.ofString v)

/-- The file system of a run: the usual directories, and the files given, in the working
directory. -/
def filesOf (tree : Judge.Tree) : Files :=
  tree.entries.foldl (fun fs (path, node) =>
    let abs := Files.join (Files.components workDir ++ path.map Bytes.ofString)
    match node with
    | .dir => fs.set abs .dir
    | .file content => fs.set abs (.file content.toUTF8)) (Files.initial workDir)

/-- The first process of a run: no input, output and errors captured. -/
def firstProc : Proc :=
  ⟨0, .main, [(0, .null), (1, .captured false), (2, .captured true)], workDir, startEnv, 99, []⟩

/-- How deep the commands of a run may nest. -/
def runFuel : Nat := 2000

/-- Starts a program with arguments among some files, stopped after a time: its trace, or the
failure to start. -/
def start : Judge.ProcessStarter Unit := fun cmd tree horizon w =>
  match cmd with
  | [] => (.error (Judge.missingProgram ""), w)
  | p :: args =>
    match Utility.programNamed (Bytes.ofString p) with
    | none => (.error (Judge.missingProgram p), w)
    | some _ =>
      let sys : Sys := ⟨firstProc, World.initial (filesOf tree) horizon, default⟩
      let body : Sh Unit := execProgram runFuel (Bytes.ofString p) (args.map Bytes.ofString)
      let (r, after) := (body.run).run sys
      let ending : Ending := match r with
        | .ok () => .exit 0
        | .error (.ended e) => e
        | .error (.ret n) => .exit n
        | .error .error => .exit 2
        | .error (.brk _) | .error (.cont _) => .exit 0
      let (exit, code) : Judge.Moment × Int := match ending with
        | .exit n => (.at after.proc.now, n)
        | .stuck _ => (.never, 0)
        | .killed sig => (.at after.proc.now, -(sig : Int))
      (.ok ⟨after.world.captured, exit, after.world.order, code, after.world.holders⟩, w)

end Machine

end PracticeForge
