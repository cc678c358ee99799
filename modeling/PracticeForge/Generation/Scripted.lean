import PracticeForge.Generation.Run
import PracticeForge.Json.Write

/-!
# Generation/Scripted — a world whose services answer from scripts

To replay a run, the models and the judge answer from fixed lists of replies, taken in order,
with a standing answer once a list is used up, and the world records what it was asked: every
request to the generator, every judged language and file set, every wait and every event.

Model calls are told apart by their standing instructions: those of the dialogue layer take
the dialogue script, all others the generation script.
-/

namespace PracticeForge

namespace Generation

/-- A world of scripted services and what they saw. -/
structure Scripted where
  /-- The replies left for dialogue calls. -/
  dialogue : List ModelReply
  /-- The replies left for generation calls. -/
  generation : List ModelReply
  /-- The verdicts left for the judge. -/
  verdicts : List JudgeReply
  /-- The reply of a model whose script is used up. -/
  modelDefault : ModelReply
  /-- The verdict of a judge whose script is used up. -/
  judgeDefault : JudgeReply
  /-- The requests of dialogue calls, in order. -/
  dialogueRequests : List String
  /-- The requests of generation calls, in order. -/
  requests : List String
  /-- The language and files of every judge call, in order. -/
  judged : List (Language × List (String × String))
  /-- Every wait, in seconds, in order. -/
  sleeps : List Binary64
  /-- Every event published, in order. -/
  events : List ProgressEvent

namespace Scripted

/-- A world with the given scripts that has seen nothing yet. -/
def start (dialogue generation : List ModelReply) (verdicts : List JudgeReply)
    (modelDefault : ModelReply) (judgeDefault : JudgeReply) : Scripted :=
  ⟨dialogue, generation, verdicts, modelDefault, judgeDefault, [], [], [], [], []⟩

/-- The reply of a model that has no scripted answer left. -/
def noReply : ModelReply := .unavailable "fake" "no scripted response"

/-- A model reply as a script entry gives it: a `text`, a `json` value written out, a provider
failure (`raise`) or a defect (`crash`); an entry with none of them has no reply. -/
def replyOf (entry : Json) : ModelReply :=
  match entry.get? "text", entry.get? "json", entry.get? "raise", entry.get? "crash" with
  | some t, _, _, _ => .text (t.getStr?.getD "")
  | none, some v, _, _ => .text (Json.write .compact v)
  | none, none, some m, _ => .unavailable "fake" m.display
  | none, none, none, some m => .broken (.crash m.display)
  | _, _, _, _ => noReply

/-- A judge reply as a script entry gives it: an unavailable judge (`sandbox_error`), a defect
(`crash`), or a verdict. -/
def judgeReplyOf (entry : Json) : JudgeReply :=
  match entry.get? "sandbox_error", entry.get? "crash" with
  | some m, _ => .unavailable m.display
  | none, some m => .broken (.crash m.display)
  | none, none => .verdict (Verdict.ofJson entry)

/-- The verdict of a judge that has no scripted answer left: all eight tests pass. -/
def passing : JudgeReply := .verdict ⟨true, Contract.testCaseNames, [], "", "", false, some 0, 0⟩

/-- A world scripted by lists of entries for the dialogue model, the generator model and the
judge. -/
def ofScripts (dialogue generation verdicts : List Json) : Scripted :=
  start (dialogue.map replyOf) (generation.map replyOf) (verdicts.map judgeReplyOf) noReply passing

/-- Whether standing instructions are those of the dialogue layer. -/
def isDialogue (system : String) : Bool := Text.contains system "dialogue layer"

/-- The next reply of a script, or the standing one. -/
def next {α : Type} (script : List α) (dflt : α) : α × List α :=
  match script with
  | r :: rest => (r, rest)
  | [] => (dflt, [])

/-- Answers a model call from the script its instructions pick. -/
def complete (a : Gateway.Ask) (w : Scripted) : ModelReply × Scripted :=
  let request := a.user
  if isDialogue a.system then
    let (r, rest) := next w.dialogue w.modelDefault
    (r, { w with dialogue := rest, dialogueRequests := w.dialogueRequests ++ [request] })
  else
    let (r, rest) := next w.generation w.modelDefault
    (r, { w with generation := rest, requests := w.requests ++ [request] })

/-- Answers a judge call from the script. -/
def judge (lang : Language) (files : List (String × String)) (_suite : String) (w : Scripted) :
    JudgeReply × Scripted :=
  let (r, rest) := next w.verdicts w.judgeDefault
  (r, { w with verdicts := rest, judged := w.judged ++ [(lang, files)] })

/-- The services of a scripted world. -/
def services : Services Scripted where
  complete := complete
  judge := judge
  sleep := fun d w => { w with sleeps := w.sleeps ++ [d] }
  publish := fun e w => { w with events := w.events ++ [e] }

end Scripted

end Generation

end PracticeForge
