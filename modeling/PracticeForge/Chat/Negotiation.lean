import PracticeForge.Chat.Store
import PracticeForge.Chat.Wording
import PracticeForge.Chat.Shorthand
import PracticeForge.Spec.Patch
import PracticeForge.Spec.Rescale
import PracticeForge.Spec.Profile
import PracticeForge.Reply
import PracticeForge.Json.Write
import PracticeForge.Gateway.Reply

/-!
# Chat/Negotiation — one chat turn in, one settled thread out

A turn reads the learner's message in three passes.  A change waiting for a yes is applied on
a yes and dropped otherwise.  Then the values the message states outright (its shorthand) are
laid over what the dialogue model proposes, and the whole candidate goes through the patch
rules, so the model can never write a value the rules refuse.  Last, the hard fields
(language, count, plan) are gated: a value equal to the agreed one changes nothing; a new value
the learner did not state, or one that overrides a field the learner committed to, waits for a
yes, and a count waits together with its plan.  The assistant then asks for the first missing
field in a fixed order, or confirms the change, or reports the spec complete.
-/

namespace PracticeForge

/-- What a turn asks of the learner next. -/
inductive NextAction where
  | ask
  | confirm
  | ready
  | idle
  deriving DecidableEq, Repr

/-- The name of an action. -/
def NextAction.name : NextAction → String
  | .ask => "ask"
  | .confirm => "confirm"
  | .ready => "ready"
  | .idle => "none"

/-- The answer to one chat turn. -/
structure TurnResult where
  accepted : Bool
  state : ThreadState
  nextPrompt : Option String
  questionKey : Option String
  nextAction : NextAction
  spec : SpecDraft
  done : Bool
  assistantMessage : Option String
  error : Option String
  echo : Option String
  deriving Repr

/-- The JSON form. -/
def TurnResult.toJson (r : TurnResult) : Json :=
  .obj [("accepted", .bool r.accepted), ("state", .str r.state.name),
    ("next_prompt", Json.ofStrOpt r.nextPrompt), ("question_key", Json.ofStrOpt r.questionKey),
    ("next_action", .str r.nextAction.name), ("spec", r.spec.toJson), ("done", .bool r.done),
    ("assistant_message", Json.ofStrOpt r.assistantMessage), ("error", Json.ofStrOpt r.error),
    ("echo", Json.ofStrOpt r.echo)]

/-- How the assistant writes a value back: a plan as `2 easy, 1 hard`, tags joined by commas,
a language by its display name. -/
def SpecValue.describe : SpecValue → String
  | .language l => l.displayName
  | .count n => Nat.repr n
  | .plan p => ", ".intercalate (p.map fun d => Nat.repr d.count ++ " " ++ d.difficulty.id)
  | .tags t => ", ".intercalate t
  | .style s => s.id
  | .text s => s

/-- Whether the draft already holds this value of a hard field. -/
def SpecDraft.holds (s : SpecDraft) : SpecField → SpecValue → Bool
  | .language, .language l => s.language == some l
  | .problemCount, .count n => s.problemCount == some (n : Int)
  | .difficultyPlan, .plan p => decide (s.difficultyPlan = some p)
  | _, _ => false

namespace Negotiation

open Wording

/-- The number of earlier messages the dialogue model sees. -/
def historyTurns : Nat := 10

/-- The spec in one line: count and language, plan, topics, style, as far as agreed. -/
def describeSpec (s : SpecDraft) : String :=
  let countPart := match s.problemCount, s.language with
    | some n, some l => if n != 0 then [toString n ++ " " ++ l.displayName ++ " problem(s)"] else []
    | _, _ => []
  let planPart := match s.difficultyPlan with
    | some p => if p.isEmpty then [] else [(SpecValue.plan p).describe]
    | none => []
  let topicPart := match s.topicTags with
    | some t => if t.isEmpty then [] else ["topics: " ++ (SpecValue.tags t).describe]
    | none => []
  let stylePart := match s.problemStyle with
    | some st => [st.id ++ " style"]
    | none => []
  "; ".intercalate (countPart ++ planPart ++ topicPart ++ stylePart)

/-- Joins texts with commas; a text is joined by its characters and an object by its keys, and
anything else, or a part that is no text, is a type error. -/
def joinTexts (v : Json) : Except Failure String := do
  let parts : List Json := match v with
    | .arr xs => xs
    | .str s => s.toList.map fun c => .str (String.singleton c)
    | .obj fs => fs.map (.str ·.1)
    | _ => []
  match v with
  | .arr _ | .str _ | .obj _ =>
    let texts ← (parts.zip (List.range parts.length)).mapM fun (p, i) => match p with
      | .str s => pure s
      | other => throw (.badType ("sequence item " ++ Nat.repr i ++ ": expected str instance, " ++
          other.kindName ++ " found"))
    pure (", ".intercalate texts)
  | _ => throw (.badType "can only join an iterable")

/-- Describes a plan given as something other than a list: its items are the characters of a
text or the keys of an object, and a text is no plan item, so only an empty one describes (as
nothing); any other value has no items at all. -/
def describeLoosePlan (v : Json) : Except Failure String :=
  let notAnItem : Failure := .invalid [⟨[], .modelType⟩]
  match v with
  | .str s => if s.isEmpty then pure "" else throw notAnItem
  | .obj fs => if fs.isEmpty then pure "" else throw notAnItem
  | other => throw (.badType ("'" ++ other.kindName ++ "' object is not iterable"))

/-- How the assistant writes back a value of a named field given as JSON: plans and tags
joined, a language by its display name (an unknown one is a missing key), anything else as
shown. -/
def describeJson (field : String) (v : Json) : Except Failure String :=
  if field == "difficulty_plan" then
    match v with
    | .arr xs => do
      let p ← xs.mapM fun x => (DifficultyCount.check x).mapError Failure.invalid
      pure (SpecValue.plan p).describe
    | _ => describeLoosePlan v
  else if field == "topic_tags" then joinTexts v
  else if field == "language" then
    match v.getStr?.bind Language.ofId? with
    | some l => pure l.displayName
    | none => throw (.lookupFailed v)
  else pure v.display

/-- The next question and its key: the over-limit question while a count is deferred, else the
question of the first missing field; nothing when the spec is complete. -/
def nextQuestion (s : SpecDraft) (deferred : Bool) (requested : Option Int) :
    Option (String × String) :=
  if deferred then
    some (overLimitQuestion ((requested.map toString).getD "None"), SpecField.problemCount.name)
  else
    match s.missing with
    | [] => none
    | f :: _ =>
      let count := match s.problemCount with
        | some n => if n != 0 then toString n else ""
        | none => ""
      (fieldQuestion f count).map fun q => (q, f.name)

/-- Writes checked values into a draft.  A new count rescales an agreed plan that no longer
sums to it, unless a plan comes along; a new language brings its default constraints, unless
constraints come along or the agreed ones were set by hand. -/
def applyValues (s : SpecDraft) (values : List (String × Json)) : Except Failure SpecDraft := do
  let given (k : String) : Bool := (Json.lookup values k).isSome
  let updates ← match Json.lookup values "problem_count", s.difficultyPlan with
    | some (.int n), some plan =>
      if !given "difficulty_plan" && !plan.isEmpty && (planTotal plan : Int) ≠ n then do
        let p ← rescalePlan plan n
        pure (values ++ [("difficulty_plan", .arr (p.map DifficultyCount.toJson))])
      else pure values
    | _, _ => pure values
  let updates ← match Json.lookup values "language" with
    | some lang =>
      if lang.truthy && !given "constraints" &&
          (s.constraints.isNone || s.constraints == s.language.map Language.defaultConstraints) then
        match lang.getStr?.bind Language.ofId? with
        | some l => pure (updates ++ [("constraints", .str l.defaultConstraints)])
        | none => throw (.lookupFailed lang)
      else pure updates
    | none => pure updates
  (s.merge updates).mapError Failure.invalid

/-- How deep arrays and objects may nest in a dialogue reply, read deeper inside the chain of
calls that handles a turn than a reply read on its own. -/
def replyRoom : Nat := 982

/-- What the dialogue model proposed: its acknowledgement, if it wrote one, and its patch.  A
reply that holds no JSON object proposes nothing. -/
def proposal (reply : ModelReply) : Except Failure (Option String × List (String × Json)) :=
  match reply with
  | .unavailable .. => pure (none, [])
  | .broken f => throw f
  | .text raw =>
    match Reply.object? replyRoom raw with
    | .error e => throw (Reply.failure e)
    | .ok none => pure (none, [])
    | .ok (some data) =>
      let given (k : String) : Option Json := (Json.lookup data k).filter Json.truthy
      let patch := match (given "proposedPatch").orElse fun _ => given "proposed_patch" with
        | some (.obj fs) => fs
        | _ => []
      let ack := match Json.lookup data "acknowledgement" with
        | some (.str a) => if (Text.trim a).isEmpty then none else some (Text.trim a)
        | _ => none
      pure (ack, patch)

/-- The prompt of the dialogue call for a message: the spec, the missing fields, up to ten
earlier messages, and the message itself (already the thread's last). -/
def dialoguePromptFor (t : Thread) (text : String) : String :=
  let earlier := t.messages.dropLast
  let recent := earlier.drop (earlier.length + 1 - historyTurns)
  let history := "\n".intercalate (recent.map fun m => m.role.name ++ ": " ++ m.content)
  let missing := ", ".intercalate (t.spec.missing.map SpecField.name)
  dialoguePrompt (Json.write .pretty t.spec.toJson) (if missing.isEmpty then "none" else missing)
    (if history.isEmpty then "(none)" else history) text

/-- The draft with the default constraints of its language, when it has a language and no
constraints. -/
def fillConstraints (s : SpecDraft) : Except Failure SpecDraft :=
  match s.language, s.constraints with
  | some l, none | some l, some "" =>
    (s.merge [("constraints", .str l.defaultConstraints)]).mapError Failure.invalid
  | _, _ => pure s

/-- Where a turn leaves a thread, with what it asks: the waiting change to confirm, READY once
the spec is complete and no count is put off, or else the next question. -/
def nextStep (t : Thread) (deferred : Bool) (requested : Option Int) :
    ThreadState × NextAction × Option String × Option String :=
  match t.pending with
  | some p => (.clarifying, .confirm, some p.question, some p.questionKey)
  | none =>
    if t.spec.isComplete && !deferred then (.ready, .ready, none, none)
    else match nextQuestion t.spec deferred requested with
      | some (q, k) => (.clarifying, .ask, some q, some k)
      | none => (.clarifying, .ask, none, none)

/-- Ends a turn: fills default constraints for a chosen language, picks the next step, moves
the thread there and adds the assistant's reply. -/
def finish (t : Thread) (ack : Option String) (deferred : Bool) (requested : Option Int) :
    Except Failure (TurnResult × Thread) := do
  let spec ← fillConstraints t.spec
  let t := { t with spec }
  let (state, action, prompt, key) := nextStep t deferred requested
  let t ← t.transitionTo state
  let reply := if state == .ready then readyMessage (describeSpec t.spec) else prompt.getD "None"
  let reply := match ack with
    | some a => a ++ "\n\n" ++ reply
    | none => reply
  let t := { t with lastError := none }.addMessage .assistant reply
  pure (⟨true, state, prompt, key, action, t.spec, state == .ready, some reply, none, none⟩, t)

/-- Commits the thread to the hard fields of the values that `chosen` picks, in order. -/
def commitHard (t : Thread) (values : List (SpecField × SpecValue)) (chosen : SpecField → Bool) :
    Thread :=
  values.foldl (fun t (f, _) => if f.isHard && chosen f then t.commit f.name else t) t

/-- Applies a change the learner just confirmed, after checking it again. -/
def applyPending (t : Thread) (p : PendingPatch) : Except Failure (TurnResult × Thread) := do
  let values := (checkPatch (.obj p.fields) (some t.spec)).validValues
  let spec ← applyValues t.spec (values.map fun (f, v) => (f.name, v.toJson))
  let t := commitHard { t with spec } values fun _ => true
  let changes := ", ".intercalate (values.map fun (f, v) => f.name ++ " = " ++ v.describe)
  finish t (if changes.isEmpty then none else some ("Updated " ++ changes ++ ".")) false none

/-- Whether a field is one of the two that change together. -/
def coupled (f : SpecField) : Bool := f == .problemCount || f == .difficultyPlan

/-- Sorts the hard values into those applied now and those that wait for a yes; a value equal
to the agreed one is dropped, and committed to when the learner stated it. -/
def gate (t : Thread) (explicit : List SpecField) (values : List (SpecField × SpecValue)) :
    List (SpecField × SpecValue) × List (SpecField × SpecValue) × Thread :=
  let (values, confirm, t) := SpecField.all.foldl (fun acc f =>
    let (values, confirm, t) := acc
    match values.find? (·.1 == f) with
    | some (_, v) =>
      if !f.isHard then acc
      else if t.spec.holds f v then
        (values.filter (·.1 != f), confirm, if explicit.contains f then t.commit f.name else t)
      else if t.commitments.contains f.name || !explicit.contains f then (values, confirm ++ [(f, v)], t)
      else acc
    | none => acc) (values, [], t)
  let confirm := if confirm.any (coupled ·.1) then
      confirm ++ values.filter fun e => coupled e.1 && !confirm.any (·.1 == e.1)
    else confirm
  (values.filter fun e => !confirm.any (·.1 == e.1), confirm, t)

/-- The values a turn puts to the checks: the model's values for spec fields with the stated
ones written over them; a count put off leaves out both count and plan. -/
def candidate (sh : Shorthand) (proposed : List (String × Json)) : List (String × Json) :=
  let candidate := sh.values.foldl (fun acc e => Json.setEntry acc e.1 e.2)
    (proposed.filter fun e => (SpecField.ofName? e.1).isSome)
  if sh.countDeferred then
    candidate.filter fun e => e.1 != "problem_count" && e.1 != "difficulty_plan"
  else candidate

/-- The valid values of a checked patch and the fields stated, with the count a plan implies
when neither the patch nor the draft has one; a stated plan states that count too. -/
def withPlanCount (s : SpecDraft) (patch : SpecPatch) (explicit : List SpecField) :
    List (SpecField × SpecValue) × List SpecField :=
  match patch.validValues.find? (·.1 == .difficultyPlan), patch.get .problemCount with
  | some (_, .plan p), .unset =>
    if s.problemCount.isNone then
      (patch.validValues ++ [(.problemCount, .count (planTotal p))],
        if explicit.contains .difficultyPlan then explicit ++ [.problemCount] else explicit)
    else (patch.validValues, explicit)
  | _, _ => (patch.validValues, explicit)

/-- The change that waits for a yes: the values in spec order, and the question naming them. -/
def pendingOf (confirm : List (SpecField × SpecValue)) : PendingPatch :=
  let ordered := SpecField.all.filterMap fun f => confirm.find? (·.1 == f)
  let changes := " and ".intercalate (ordered.map fun (f, v) =>
    f.name.map (fun c => if c == '_' then ' ' else c) ++ " to " ++ v.describe)
  ⟨ordered.map (fun (f, v) => (f.name, v.toJson)), confirmQuestion changes,
    "confirm:" ++ ",".intercalate (ordered.map (·.1.name))⟩

/-- The thread waiting for a yes to the values that need one, if any do. -/
def awaitConfirm (t : Thread) (confirm : List (SpecField × SpecValue)) : Thread :=
  if confirm.isEmpty then t else { t with pending := some (pendingOf confirm) }

/-- Settles a turn from the stated values and the model's proposal. -/
def settle (t : Thread) (sh : Shorthand) (ack : Option String) (proposed : List (String × Json)) :
    Except Failure (TurnResult × Thread) := do
  let patch := checkPatch (.obj (candidate sh proposed)) (some t.spec)
  let (values, explicit) := withPlanCount t.spec patch sh.explicitFields
  let (values, confirm, t) := gate t explicit values
  let spec ← applyValues t.spec (values.map fun (f, v) => (f.name, v.toJson))
  let t := awaitConfirm (commitHard { t with spec } values explicit.contains) confirm
  finish t ack sh.countDeferred (sh.requestedCount.map Int.ofNat)

/-- Negotiates one message, already added to the thread.  The result comes with the prompt
the dialogue model was asked, when it was asked. -/
def negotiate (t : Thread) (text : String) (model : String → ModelReply) :
    Option String × Except Failure (TurnResult × Thread) :=
  let fromProposal (t : Thread) : Option String × Except Failure (TurnResult × Thread) :=
    match Shorthand.read text with
    | .error e => (none, .error e)
    | .ok sh =>
      let prompt := dialoguePromptFor t text
      (some prompt, do
        let (ack, proposed) ← proposal (model prompt)
        settle t sh ack proposed)
  match t.pending with
  | some p =>
    let t := { t with pending := none }
    if Shorthand.isAffirmative text then (none, applyPending t p) else fromProposal t
  | none => fromProposal t

/-- The answer to a message the thread does not take. -/
def rejected (t : Thread) (message : Option String) (error : String) : TurnResult :=
  ⟨false, t.state, none, none, .idle, t.spec, t.state == .ready, none, some error, message⟩

end Negotiation

/-- A new thread, with the assistant's greeting as its first message. -/
def Thread.greeted (id : String) (mode : LearningMode) : Thread :=
  (Thread.fresh id mode).addMessage .assistant Wording.initialPrompt

/-- One learner message for a thread: the answer, the thread to keep when the turn changed it,
and the prompt the dialogue model was asked, if it was asked.  An empty message, or one for a
thread past chatting, is answered without touching the thread; a turn that fails changes
nothing. -/
def Negotiation.turn (t : Thread) (message : Option String) (model : String → ModelReply) :
    Option String × Except Failure (TurnResult × Option Thread) :=
  let text := Text.trim (message.getD "")
  if text.isEmpty then (none, .ok (Negotiation.rejected t message "Message is empty.", none))
  else if !t.state.isChat then
    (none, .ok (Negotiation.rejected t message
      ("This thread is " ++ t.state.name ++ " and no longer accepts messages."), none))
  else
    match Negotiation.negotiate (t.addMessage .user text) text model with
    | (prompt, .ok (r, t)) => (prompt, .ok (r, some t))
    | (prompt, .error e) => (prompt, .error e)

/-- The outcome of a turn against a store: the answer, the store after it, and the prompt the
dialogue model was asked, if it was asked. -/
structure TurnOutcome where
  result : Except Failure TurnResult
  store : ThreadStore
  prompt : Option String

/-- Takes one learner message for a stored thread, keeping the thread the turn leaves. -/
def ThreadStore.handleTurn (store : ThreadStore) (id : String) (message : Option String)
    (model : String → ModelReply) : TurnOutcome :=
  match store.get? id with
  | none => ⟨.error (.threadNotFound id), store, none⟩
  | some t =>
    match Negotiation.turn t message model with
    | (prompt, .ok (r, some t)) => ⟨.ok r, store.save t, prompt⟩
    | (prompt, .ok (r, none)) => ⟨.ok r, store, prompt⟩
    | (prompt, .error e) => ⟨.error e, store, prompt⟩

end PracticeForge
