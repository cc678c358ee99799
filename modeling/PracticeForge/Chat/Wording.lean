import PracticeForge.Spec.Basic

/-!
# Chat/Wording — what the assistant says, and what it asks the dialogue model

The assistant's side of a chat is fixed text: a greeting, one question per missing field, a
question when the learner asked for more problems than an activity holds, a request to confirm
a change to a hard field, and the summary once the spec is complete.  The dialogue model sees
fixed instructions and a prompt that carries the spec, the missing fields, the recent chat and
the latest message.
-/

namespace PracticeForge

namespace Wording

/-- The first message of every thread. -/
def initialPrompt : String :=
  "How can I help you today?\n\nTell me what you want to learn, and optionally the language (java/python/cpp/sql) and how many problems (1–7)."

/-- The standing instructions of the dialogue model; calls that carry them are dialogue calls. -/
def dialogueInstructions : String :=
  "You are Codecraft's dialogue layer. You help a learner describe a set of coding practice problems.\n\nYou never write problems yourself. You only propose structured updates to the activity spec.\nFields you may propose:\n- language: one of java, python, cpp, sql\n- problem_count: integer from 1 to 7\n- difficulty_plan: list of \x7b\"difficulty\": \"easy\"|\"medium\"|\"hard\", \"count\": int\x7d; counts must sum to problem_count\n- topic_tags: list of short topic strings (at most 12)\n- problem_style: one of return, stdout, mixed\n- constraints: free text runtime constraints\n- generation_focus: free text describing what the problems should emphasise\n\nOnly propose fields the learner actually talked about. Omit anything you are unsure of.\nReturn ONLY valid JSON. No markdown, no code fences, no prose outside the JSON."

/-- The reply shape the dialogue model is shown. -/
def dialogueShape : String :=
  "Return JSON with this exact shape:\n\x7b\n  \"acknowledgement\": \"one or two friendly sentences for the learner\",\n  \"inferred_intent\": \"short summary of what the learner wants\",\n  \"proposedPatch\": \x7b\n    \"language\": \"python\",\n    \"problem_count\": 3,\n    \"difficulty_plan\": [\x7b\"difficulty\": \"easy\", \"count\": 3\x7d],\n    \"topic_tags\": [\"strings\"],\n    \"problem_style\": \"return\"\n  \x7d\n\x7d"

/-- The prompt of one dialogue call. -/
def dialoguePrompt (specJson missing history message : String) : String :=
  "Current spec (JSON):\n" ++ specJson ++ "\n\nFields still missing: " ++ missing ++
    "\n\nConversation so far:\n" ++ history ++ "\n\nLatest user message:\n" ++ message ++ "\n\n" ++
    dialogueShape

/-- The question that asks for a field; `count` is the agreed count, or empty.  Only the
fields a draft can miss are asked for. -/
def fieldQuestion (f : SpecField) (count : String) : Option String :=
  match f with
  | .language => some "Which language should the problems use: java, python, cpp or sql?"
  | .problemCount =>
    some ("How many problems would you like? You can pick from 1 to " ++ Nat.repr maxProblems ++ ".")
  | .difficultyPlan =>
    some ("How should the " ++ count ++
      " problems be split across difficulty? For example \"2 easy, 1 medium\".")
  | .topicTags =>
    some "Which topics should the problems cover? For example \"Topics: arrays, hashing\"."
  | .problemStyle =>
    some "Should solutions return a value, print to stdout, or a mix of both? (return / stdout / mixed)"
  | .constraints => some "Any runtime constraints I should apply?"
  | .generationFocus => none

/-- The question when the learner asked for more problems than an activity holds. -/
def overLimitQuestion (requested : String) : String :=
  "I can generate at most " ++ Nat.repr maxProblems ++ " problems per activity, and you asked for " ++
    requested ++ ". How many would you like (1 to " ++ Nat.repr maxProblems ++ ")?"

/-- The request to confirm a change to hard fields. -/
def confirmQuestion (changes : String) : String :=
  "Just to confirm, should I change " ++ changes ++ "? Reply \"yes\" to apply it."

/-- The message once the spec is complete. -/
def readyMessage (summary : String) : String :=
  "Great, the activity spec is complete: " ++ summary ++ ". Start generation whenever you are ready."

end Wording

end PracticeForge
