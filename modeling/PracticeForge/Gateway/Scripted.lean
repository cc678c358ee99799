import PracticeForge.Gateway.Complete
import PracticeForge.Json.Write

/-!
# Gateway/Scripted — provider SDKs that answer from a script

A stand-in for the four provider SDKs, for replaying a gateway without a network.  Every call
takes the next entry of one shared script and is recorded; every client made is numbered from
1 and every client closed is recorded with its provider.  An empty script makes the call fail.

An entry is read the way each SDK's response would carry it: a text is the message content
(OpenAI), one text block (Anthropic), the response text (Gemini) or the assistant message of the
body (Ollama).
-/

namespace PracticeForge

/-- One scripted answer of an SDK. -/
inductive SdkEntry where
  /-- Answers a text, or no text when it is `null`. -/
  | text (t : Json)
  /-- The SDK fails with a message. -/
  | fails (message : String)
  /-- Answers a message content (OpenAI) or a content (Anthropic) as it is. -/
  | content (x : Json)
  /-- Answers content blocks (Anthropic). -/
  | blocks (bs : List Json)
  /-- Answers an HTTP status with no message (Ollama). -/
  | status (code : Int)
  /-- Answers a decoded body (Ollama). -/
  | body (v : Json)
  deriving Repr, Inhabited

/-- An entry from its JSON form: `raise`, `json` (written out as a text), `content`, `blocks`,
`status` or `ollama_json`, in that order of precedence, else `text` (null when absent). -/
def SdkEntry.ofJson (e : Json) : SdkEntry :=
  match e.get? "raise", e.get? "json", e.get? "content", e.get? "blocks", e.get? "status",
    e.get? "ollama_json" with
  | some m, _, _, _, _, _ => .fails m.display
  | none, some v, _, _, _, _ => .text (.str (Json.write .compact v))
  | none, none, some x, _, _, _ => .content x
  | none, none, none, some bs, _, _ => .blocks (bs.getArr?.getD [])
  | none, none, none, none, some n, _ => .status (n.getInt?.getD 0)
  | none, none, none, none, none, some v => .body v
  | _, _, _, _, _, _ => .text (e.getD "text")

/-- The recorded form of an SDK call: which SDK, the client's arguments, then the call's. -/
def Gateway.SdkCall.toJson (c : Gateway.SdkCall) : Json :=
  .obj ([("sdk", .str c.provider.name)] ++
    (if c.provider == .ollama then [] else [("client", .obj c.client)]) ++ c.args)

/-- SDKs answering from a script. -/
structure ScriptedSdk where
  script : List SdkEntry
  calls : List Gateway.SdkCall
  made : Nat
  closed : List (Provider × Nat)
  deriving Repr, Inhabited

namespace ScriptedSdk

/-- SDKs with a script and nothing done yet. -/
def start (script : List SdkEntry) : ScriptedSdk := ⟨script, [], 0, []⟩

/-- The failure the SDKs raise. -/
def apiError (message : String) : Failure := .system "FakeAPIError" message

/-- A provider's response carrying an entry. -/
def respond (c : Gateway.SdkCall) (e : SdkEntry) : Except Failure Json :=
  let url := (Json.lookup c.args "url").getD .null
  let withText (t : Json) : Json :=
    match c.provider with
    | .openai => .obj [("choices", .arr [.obj [("message", .obj [("content", t)])]])]
    | .anthropic => .obj [("content", .arr [.obj [("type", .str "text"), ("text", t)]])]
    | .gemini => .obj [("text", t)]
    | .ollama => .obj [("message", .obj [("role", .str "assistant"), ("content", t)])]
  match e with
  | .fails m => .error (apiError m)
  | .text t => .ok (withText t)
  | .content x =>
    if c.provider == .anthropic then .ok (.obj [("content", x)]) else .ok (withText x)
  | .blocks bs => .ok (.obj [("content", .arr bs)])
  | .status n =>
    if 400 ≤ n then .error (.system "HTTPError" (toString n ++ " Server Error for url: " ++ url.display))
    else .ok (withText .null)
  | .body v => .ok v

/-- The scripted SDKs. -/
def sdk : Sdk ScriptedSdk where
  makeClient _ _ w := (w.made + 1, { w with made := w.made + 1 })
  closeClient p n w := { w with closed := w.closed ++ [(p, n)] }
  send c w :=
    let w := { w with calls := w.calls ++ [c] }
    match w.script with
    | [] => (.error (apiError "no scripted response"), w)
    | e :: rest => (respond c e, { w with script := rest })

end ScriptedSdk

end PracticeForge
