import PracticeForge.Json.Value
import PracticeForge.Number.Shortest
import PracticeForge.Text.Quote

/-!
# Json/Show — a value as it appears inside a message

Messages that mention a value show it in the notation of the scripting side of this library:
`None`, `True`, `False`, numbers as written by `Json.intText` and `Binary64.toText`, lists in
square brackets and objects in braces with `", "` between items and `": "` after a key.
`Json.display` shows a text bare, `Json.quotedForm` quotes it (`Text.quoted`); inside a list
or an object every text is quoted.
-/

namespace PracticeForge

namespace Json

mutual

/-- A value as shown inside a list or an object: texts quoted. -/
def quotedForm : Json → String
  | .null => "None"
  | .bool b => if b then "True" else "False"
  | .int n => if n < 0 then "-" ++ Nat.repr n.natAbs else Nat.repr n.natAbs
  | .float x => x.toText
  | .str s => Text.quoted s
  | .arr xs => "[" ++ quotedItems xs ++ "]"
  | .obj fs => "\x7b" ++ quotedFields fs ++ "\x7d"

/-- Items parted by commas. -/
def quotedItems : List Json → String
  | [] => ""
  | [x] => quotedForm x
  | x :: xs => quotedForm x ++ ", " ++ quotedItems xs

/-- Entries parted by commas. -/
def quotedFields : List (String × Json) → String
  | [] => ""
  | [(k, v)] => Text.quoted k ++ ": " ++ quotedForm v
  | (k, v) :: fs => Text.quoted k ++ ": " ++ quotedForm v ++ ", " ++ quotedFields fs

end

/-- A value as shown on its own: a text bare, anything else as `quotedForm`. -/
def display : Json → String
  | .str s => s
  | j => quotedForm j

/-- The items of a list shown on their own; anything but a list has none. -/
def displays (j : Json) : List String := (j.getArr?.getD []).map display

/-- The name of a value's kind, as type errors name it. -/
def kindName : Json → String
  | .null => "NoneType"
  | .bool _ => "bool"
  | .int _ => "int"
  | .float _ => "float"
  | .str _ => "str"
  | .arr _ => "list"
  | .obj _ => "dict"

end Json

end PracticeForge
