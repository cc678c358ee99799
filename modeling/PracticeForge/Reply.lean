import PracticeForge.Json.Read
import PracticeForge.Text.Words
import PracticeForge.Failure

/-!
# Reply — a JSON object out of a model's reply

Models wrap the JSON they are asked for in markdown fences and chatter.  `Reply.unfence` trims
the reply and drops one opening fence (a fence marked `json` loses its mark too) and one
closing fence.  `Reply.object?` then tries the unfenced text, and after it the span from the
first `{` to the last `}`; the first that reads as an object wins.  A text that is not JSON
just moves on to the next try, but an integer too long to convert, or values nested deeper than
the reader's room, stop the search with their error.  The room depends on where the reply is
read: `Reply.room` for a reply read on its own, less inside the longer chains of calls that
handle a turn or draft a problem.
-/

namespace PracticeForge

namespace Reply

/-- Whether `s` starts with `p`. -/
def startsWith (s p : String) : Bool := p.toList.isPrefixOf s.toList

/-- Whether `s` ends with `p`. -/
def endsWith (s p : String) : Bool := p.toList.reverse.isPrefixOf s.toList.reverse

/-- The reply without surrounding blanks and markdown fences. -/
def unfence (content : String) : String :=
  let t := Text.trim content
  let t :=
    if startsWith t "```json" then Text.drop t 7
    else if startsWith t "```" then Text.drop t 3
    else t
  let t := if endsWith t "```" then Text.dropLast t 3 else t
  Text.trim t

/-- The texts tried in turn: the unfenced reply, then its span between the first `{` and the
last `}` when that span is not empty. -/
def candidates (content : String) : List String :=
  let text := unfence content
  match Text.indexOf? text '{', Text.lastIndexOf? text '}' with
  | some a, some b => if a < b then [text, Text.slice text a (b + 1)] else [text]
  | _, _ => [text]

/-- How deep arrays and objects may nest in a reply read on its own. -/
def room : Nat := 991

/-- The first candidate that reads as an object, with `room` arrays and objects allowed inside
one another. -/
def firstObject (room : Nat) : List String → Except Json.ReadError (Option (List (String × Json)))
  | [] => pure none
  | c :: cs =>
    match Json.parseWithin room c with
    | .ok (.obj fs) => pure (some fs)
    | .ok _ => firstObject room cs
    | .error .malformed => firstObject room cs
    | .error e => throw e

/-- The JSON object in a reply, if there is one, with `room` arrays and objects allowed inside
one another. -/
def object? (room : Nat) (content : String) : Except Json.ReadError (Option (List (String × Json))) :=
  firstObject room (candidates content)

/-- The failure a reply that could not be read stops with. -/
def failure : Json.ReadError → Failure
  | .tooDeep array => .tooDeep (Json.ReadError.tooDeep array).message
  | e => .badValue e.message

end Reply

end PracticeForge
