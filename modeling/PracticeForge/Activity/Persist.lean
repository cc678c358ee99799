import PracticeForge.Activity.Edit
import PracticeForge.Generation.Slot

/-!
# Activity/Persist — turning a finished run into an activity

Saving is the only way an activity comes to be, and it checks again what the run promises:
there is at least one slot, every slot is DONE with its problem, and the thread is there.  The
problems are taken in slot order, the title names the language and the first three topics, the
prompt is the learner's first message, and the thread moves to SAVED with the new activity's
id, both written in one step of the storage.
-/

namespace PracticeForge

/-- The title of an activity: the language's name and up to three topics. -/
def buildTitle (language : String) (topics : List String) : String :=
  let names := [("python", "Python"), ("java", "Java"), ("cpp", "C++"), ("sql", "SQL")]
  let name := ((names.find? (·.1 == language)).map (·.2)).getD language
  let topicText := if topics.isEmpty then "practice" else ", ".intercalate (topics.take 3)
  name ++ " practice: " ++ topicText

/-- The text of the identifier numbered `n`: 32 hexadecimal digits in groups of 8, 4, 4, 4
and 12. -/
def idText (n : Nat) : String :=
  let digits := (Nat.toDigits 16 n)
  let hex := List.replicate (32 - digits.length) '0' ++ digits
  "-".intercalate ([(0, 8), (8, 4), (12, 4), (16, 4), (20, 12)].map fun (a, k) =>
    String.ofList ((hex.drop a).take k))

/-- Mints the next identifier from a counter. -/
def mintId : Effect Nat String := do
  let n := (← get) + 1
  set n
  pure (idText n)

/-- A list of integers as it is printed: in brackets, parted by commas. -/
def showInts (xs : List Int) : String := "[" ++ ", ".intercalate (xs.map toString) ++ "]"

namespace Storage

variable {σ : Type} (st : Storage σ)

/-- Saves the problems of finished slots as a new activity of a thread, with an id from
`mintId`; gives the id. -/
def persistActivity (mintId : Effect σ String) (threadId : String) (slots : List SlotState) :
    Effect σ String := do
  if slots.isEmpty then
    throw (.persistenceInvariant "cannot persist an activity with no problems")
  let notDone := slots.filter fun s => s.stage != .done || s.problem.isNone
  if !notDone.isEmpty then
    throw (.persistenceInvariant ("slots not DONE: " ++ showInts (notDone.map (·.slot.index))))
  let thread ← match ← st.getThread threadId with
    | some t => pure t
    | none => throw (.threadNotFound threadId)
  let ordered := slots.mergeSort fun a b => decide (a.slot.index ≤ b.slot.index)
  let problems := ordered.filterMap (·.problem)
  let topics := problems.foldl (fun acc p => if acc.contains p.topicTag then acc else acc ++ [p.topicTag]) []
  let prompt := ((thread.messages.find? (·.role == .user)).map (·.content)).getD ""
  let id ← mintId
  let language := ((problems.head?.map (·.language.id))).getD ""
  let activity : Activity :=
    ⟨id, some thread.id, buildTitle language topics, prompt, problems, .draft, none, ""⟩
  let thread ← Effect.ofExcept (thread.transitionTo .saved)
  st.commitGeneration activity { thread with activityId := some id, lastError := none }
  pure id

end Storage

end PracticeForge
