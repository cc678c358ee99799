import PracticeForge.Failure

/-!
# Gateway/Reply — what a call to a model gives back

A call to a model either answers with a text, or fails in one of two ways.  A provider that
cannot be reached, refuses the request or answers with nothing usable is an expected failure:
callers go on without the answer (a chat turn without a proposal, a drafting attempt spent).
Anything else is a defect that nothing catches.
-/

namespace PracticeForge

/-- What a model did with a prompt. -/
inductive ModelReply where
  /-- It answered with a text. -/
  | text (s : String)
  /-- The provider failed; callers go on without an answer. -/
  | unavailable (provider message : String)
  /-- The call failed in a way nobody expects. -/
  | broken (failure : Failure)
  deriving Repr, Inhabited

end PracticeForge
