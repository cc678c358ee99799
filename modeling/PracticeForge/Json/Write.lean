import PracticeForge.Json.Value
import PracticeForge.Number.Shortest
import PracticeForge.Text.Surrogate

/-!
# Json/Write — writing JSON text

One writer serves every JSON text this library produces.  A `Layout` says whether characters
outside ASCII are escaped and whether the value is spread over indented lines.  On one line,
items are parted by `", "` and a key from its value by `": "`; indented, each item stands on
a line of its own and items are parted by `","`.  A double is written as its shortest text,
with `NaN`, `Infinity` and `-Infinity` for the values that have none.
-/

namespace PracticeForge

namespace Json

/-- How a value is laid out. -/
structure Layout where
  /-- Escape every character outside printable ASCII as `\uXXXX`. -/
  asciiOnly : Bool
  /-- Spread over lines with this many spaces per level. -/
  indent : Option Nat
  deriving DecidableEq, Repr

/-- One line, non-ASCII characters escaped: the form model replies are written in. -/
def Layout.compact : Layout := ⟨true, none⟩

/-- One line, characters as they are: the form of this library's answers. -/
def Layout.raw : Layout := ⟨false, none⟩

/-- Two spaces per level, non-ASCII characters escaped: the form shown inside prompts. -/
def Layout.pretty : Layout := ⟨true, some 2⟩

/-- Four lowercase hex digits. -/
def hex4 (n : Nat) : String :=
  let d (k : Nat) : Char := (Nat.toDigits 16 (n / Nat.pow 16 k % 16)).headD '0'
  String.ofList [d 3, d 2, d 1, d 0]

/-- The escaped form of one character inside a string. -/
def escapeChar (asciiOnly : Bool) (c : Char) : String :=
  match c with
  | '"' => "\\\""
  | '\\' => "\\\\"
  | '\n' => "\\n"
  | '\r' => "\\r"
  | '\t' => "\\t"
  | '\x08' => "\\b"
  | '\x0c' => "\\f"
  | c =>
    -- a surrogate standing alone can only be written as its escape
    if let some u := Text.surrogateOf? c then Text.unitEscape u
    else if c.toNat < 0x20 then "\\u" ++ hex4 c.toNat
    else if asciiOnly ∧ 0x7F ≤ c.toNat then
      if c.toNat < 0x10000 then "\\u" ++ hex4 c.toNat
      else
        let v := c.toNat - 0x10000
        "\\u" ++ hex4 (0xD800 + v / 0x400) ++ "\\u" ++ hex4 (0xDC00 + v % 0x400)
    else String.singleton c

/-- A string in quotes, escaped. -/
def quote (asciiOnly : Bool) (s : String) : String :=
  "\"" ++ String.join (s.toList.map (escapeChar asciiOnly)) ++ "\""

/-- The text of a double inside JSON. -/
def floatText (x : Binary64) : String :=
  match x.form with
  | .nan => "NaN"
  | .inf neg => if neg then "-Infinity" else "Infinity"
  | _ => x.toText

/-- The text of an integer. -/
def intText (n : Int) : String := if n < 0 then "-" ++ Nat.repr n.natAbs else Nat.repr n.natAbs

/-- What stands before an item: a comma unless it is the first, then a new line and the
indentation when the layout is indented. -/
def separator (l : Layout) (depth : Nat) (first : Bool) : String :=
  match l.indent with
  | none => if first then "" else ", "
  | some n => (if first then "" else ",") ++ "\n" ++ String.ofList (List.replicate (n * depth) ' ')

/-- What stands before a closing bracket. -/
def closing (l : Layout) (depth : Nat) : String :=
  match l.indent with
  | none => ""
  | some n => "\n" ++ String.ofList (List.replicate (n * depth) ' ')

mutual

/-- Writes a value at a nesting depth. -/
def render (l : Layout) (depth : Nat) : Json → String
  | .null => "null"
  | .bool b => if b then "true" else "false"
  | .int n => intText n
  | .float x => floatText x
  | .str s => quote l.asciiOnly s
  | .arr [] => "[]"
  | .arr xs => "[" ++ renderItems l (depth + 1) true xs ++ closing l depth ++ "]"
  | .obj [] => "\x7b\x7d"
  | .obj fs => "\x7b" ++ renderFields l (depth + 1) true fs ++ closing l depth ++ "\x7d"

/-- Writes the items of an array. -/
def renderItems (l : Layout) (depth : Nat) (first : Bool) : List Json → String
  | [] => ""
  | x :: xs => separator l depth first ++ render l depth x ++ renderItems l depth false xs

/-- Writes the entries of an object. -/
def renderFields (l : Layout) (depth : Nat) (first : Bool) : List (String × Json) → String
  | [] => ""
  | (k, v) :: fs =>
    separator l depth first ++ quote l.asciiOnly k ++ ": " ++ render l depth v ++
      renderFields l depth false fs

end

/-- Writes a value in a layout. -/
def write (l : Layout) (j : Json) : String := render l 0 j

end Json

end PracticeForge
