import PracticeForge.Machine.Utility.Stream
import PracticeForge.Machine.Utility.Count
import PracticeForge.Machine.Utility.Output

/-!
# Machine/Utility/Table — the programs installed, by name

A program is found by its name alone, or by a path to it in one of the directories programs are
installed in (`/bin`, `/usr/bin`).  Each runs with the name it was started by (which its
complaints use) and its arguments.
-/

namespace PracticeForge

namespace Machine

namespace Utility

/-- A program: run with the name it was started by and its arguments. -/
abbrev Program := String → List Bytes → Prog Unit

/-- The installed utilities. -/
def installed : List (String × Program) :=
  [("cat", cat), ("head", head), ("tail", tail), ("tr", tr), ("wc", wc), ("true", true_),
    ("false", false_), ("echo", echo), ("printf", printf), ("yes", yes), ("sleep", sleep)]

/-- The names of the shells installed. -/
def shells : List String := ["sh", "dash"]

/-- The directories programs are installed in. -/
def programDirs : List String := ["/usr/local/sbin", "/usr/local/bin", "/usr/sbin", "/usr/bin", "/sbin", "/bin"]

/-- The directory a program's name is shown in by `type` and `command -v`. -/
def programDir : String := "/usr/bin"

/-- Whether a name is installed as a program (a utility or a shell). -/
def isInstalled (name : String) : Bool := shells.contains name || installed.any (·.1 == name)

/-- The installed program a command names, by its name or by a path into the directories
programs are installed in: its name. -/
def programNamed (cmd : Bytes) : Option String :=
  match String.fromUTF8? (Bytes.toArray cmd) with
  | none => none
  | some s =>
    if !s.contains '/' then (if isInstalled s then some s else none)
    else
      let parts := s.splitOn "/"
      let base := parts.getLast?.getD ""
      let dir := String.intercalate "/" parts.dropLast
      if isInstalled base && (dir == "/bin" || dir == "/usr/bin") then some base else none

end Utility

end Machine

end PracticeForge
