import PracticeForge.Activity.Store

/-!
# Activity/Edit — reading, editing and publishing saved activities

A draft activity may be renamed (the new title trimmed and cut to 200 characters; a blank title
changes nothing) and given a time limit, which is clamped to between 0 and 8 hours; publishing
locks it, and publishing a published activity changes nothing.  Asking for an activity that is
not there fails with its id.
-/

namespace PracticeForge

/-- The longest time limit, in seconds: 8 hours. -/
def maxTimeLimitSeconds : Int := 8 * 60 * 60

/-- The longest title, in characters. -/
def maxTitleLength : Nat := 200

/-- A time limit clamped to between 0 and `maxTimeLimitSeconds`. -/
def clampTimeLimit (seconds : Int) : Int := max 0 (min seconds maxTimeLimitSeconds)

namespace Storage

variable {σ : Type} (st : Storage σ)

/-- The activity with an id, or a failure naming it. -/
def activity (id : String) : Effect σ Activity := do
  match ← st.getActivity id with
  | some a => pure a
  | none => throw (.activityNotFound id)

/-- Edits a draft activity: a new title unless blank, and a new time limit when one is given
(`some none` clears it). -/
def patchActivity (id : String) (title : Option String) (limit : Option (Option Int)) :
    Effect σ Activity := do
  let a ← st.activity id
  if a.status != .draft then throw (.activityLocked "Published activities cannot be edited.")
  let a := match title with
    | some t => if (Text.trim t).isEmpty then a else { a with title := Text.take (Text.trim t) maxTitleLength }
    | none => a
  let a := match limit with
    | some l => { a with timeLimitSeconds := l.map clampTimeLimit }
    | none => a
  st.updateActivity a

/-- Publishes an activity; a published one is left as it is. -/
def publishActivity (id : String) : Effect σ Activity := do
  let a ← st.activity id
  if a.status == .published then pure a
  else st.updateActivity { a with status := .published }

end Storage

end PracticeForge
