import PracticeForge.Failure
import PracticeForge.Outline.Read
import PracticeForge.Problem.Basic
import PracticeForge.Text.Words

/-!
# Problem/Guided — starter code cut from a verified reference

In guided mode a Python learner starts from the reference solution with the bodies of its
public functions taken out: each body (after its docstring) becomes a marked block that raises
`NotImplementedError`, indented as the body was.  Public means a top-level function whose name
does not start with `_`, or a method of such a class whose name does not (or is `__init__`).
Bodies on the line of their `def` stay.  Lines are counted by the source reader, but replaced
in the list of lines the text splits into, and the result ends with a line break.  A source
that does not read, or has nothing to take out, gives nothing; one that UTF-8 cannot encode, or
that holds a NUL character, is refused with an error.

Every guided problem also gets teaching settings from its difficulty.
-/

namespace PracticeForge

namespace Outline

/-- The functions a learner writes, in source order: name, place and body. -/
def publicFunctions (stmts : List Stmt) : List (String × Span × List Stmt) :=
  stmts.flatMap fun st =>
    match st with
    | .function name sp _ body => if name.startsWith "_" then [] else [(name, sp, body)]
    | .classDef name _ _ body =>
      if name.startsWith "_" then []
      else body.filterMap fun item =>
        match item with
        | .function n sp _ b => if !n.startsWith "_" || n == "__init__" then some (n, sp, b) else none
        | _ => none
    | _ => []

/-- Replaces the lines from index `a` up to `b` (exclusive) by `new`; bounds past the end stop
at the end, and an end before the start inserts. -/
def spliceLines (lines : List String) (a b : Nat) (new : List String) : List String :=
  let a := min a lines.length
  let b := max a (min b lines.length)
  lines.take a ++ new ++ lines.drop b

/-- The block that stands for a function's body. -/
def stubLines (indent name : String) : List String :=
  [indent ++ "# BEGIN STUDENT TODO", indent ++ "# Implement " ++ name ++ ".",
    indent ++ "raise NotImplementedError", indent ++ "# END STUDENT TODO"]

/-- The message of a source holding a NUL character, which is refused before it is read. -/
def nulMessage : String := "source code string cannot contain null bytes"

/-- The room for a syntax tree built while `calls` calls are under way: the builder shares a
budget of 3000 nested steps with them, three for each. -/
def treeRoom (calls : Nat) : Nat := 3000 - 3 * calls

/-- The calls under way when a source is stubbed on its own. -/
def scaffoldCalls : Nat := 6

/-- The message of a syntax tree too deep to build. -/
def treeDepthMessage : String := "maximum recursion depth exceeded during ast construction"

/-- The source with the bodies of its public functions stubbed, from the last function up;
nothing when the grammar refuses it or no body could be stubbed.  A source holding a NUL
character is refused; so is one the parser cannot finish or whose tree is too deep for the room
that `calls` calls under way leave. -/
def scaffoldAt (calls : Nat) (source : String) : Except Failure (Option String) :=
  if let some m := Text.utf8Refusal? source then throw (.unencodable m)
  else if source.toList.contains (Char.ofNat 0) then throw (.badValue nulMessage)
  else
    match read source (treeRoom calls) with
    | .error .grammar => pure none
    | .error .outOfFrames => throw .outOfMemory
    | .error .tooDeep => throw (.tooDeep treeDepthMessage)
    | .ok stmts =>
      let fns := (publicFunctions stmts).mergeSort fun a b => a.2.1.line ≥ b.2.1.line
      let (lines, changed) := fns.foldl (fun (acc : List String × Bool) (name, sp, body) =>
        let body := match body with
          | .docstring _ :: rest => rest
          | b => b
        match body.head?, body.getLast? with
        | some first, some last =>
          let start := first.decorators.foldl min first.span.line
          if start == sp.line then acc
          else (spliceLines acc.1 (start - 1) last.span.endLine
            (stubLines (String.ofList (List.replicate first.span.col ' ')) name), true)
        | _, _ => acc) (Text.lines source, false)
      pure (if changed then some ("\n".intercalate lines ++ "\n") else none)

/-- A source stubbed on its own, as `scaffoldAt` does with `scaffoldCalls` calls under way. -/
def scaffold (source : String) : Except Failure (Option String) := scaffoldAt scaffoldCalls source

end Outline

/-- How much of a solution a guided problem of a difficulty hands out. -/
def Difficulty.scaffoldLevel : Difficulty → Int
  | .easy => 80
  | .medium => 50
  | .hard => 20

namespace ProblemDraft

/-- The teaching settings of a draft: its scaffold level, a goal naming its topic and
difficulty, and hints unless it is hard. -/
def pedagogy (d : ProblemDraft) : Pedagogy :=
  ⟨d.problem.difficulty.scaffoldLevel,
    "Practice " ++ d.problem.topicTag ++ " with a " ++ d.problem.difficulty.id ++ " problem.",
    d.problem.difficulty != .hard⟩

/-- A workspace whose Python entry files are stubbed from the reference files of the same
path; a file that cannot be stubbed keeps its content. -/
def stubWorkspace (w reference : Workspace) : Except Failure Workspace := do
  let refs := reference.fileMap
  let files ← w.files.mapM fun f =>
    match refs.lookup f.path with
    | some ref =>
      if f.role == .entry && f.path.endsWith ".py" then do
        -- stubbing a workspace calls down through two more functions
        pure { f with content := (← Outline.scaffoldAt (Outline.scaffoldCalls + 2) ref).getD f.content }
      else pure f
    | none => pure f
  pure { w with files }

/-- The draft prepared for guided mode: teaching settings, and for Python the starter code (or
the workspace) stubbed from the reference. -/
def guided (d : ProblemDraft) : Except Failure ProblemDraft := do
  let d := { d with problem := { d.problem with pedagogy := some d.pedagogy } }
  if d.problem.language != .python then pure d
  else
    match d.referenceWorkspace, d.problem.workspace with
    | some r, some w => pure { d with problem := { d.problem with workspace := some (← stubWorkspace w r) } }
    | _, _ =>
      match d.referenceSolution with
      | some ref =>
        match ← Outline.scaffoldAt (Outline.scaffoldCalls + 1) ref with
        | some stub => pure { d with problem := { d.problem with starterCode := some stub } }
        | none => pure d
      | none => pure d

/-- The problem a learner gets from a checked draft: prepared for guided mode when asked, and
without the reference. -/
def finalize (d : ProblemDraft) (mode : String) : Except Failure Problem := do
  pure (← if mode == "guided" then d.guided else pure d).problem

end ProblemDraft

end PracticeForge
