import PracticeForge.Text.Space

/-!
# Text/Words — trimming and splitting on white space

Trimming drops white space at the ends of a text, splitting on white space yields the maximal
runs of other characters, and squeezing joins those runs with single spaces.  "White space"
is `Text.isSpace` throughout.  Lines are split at every line break that text editors know:
line feed, carriage return (alone or before a line feed), the separators `\x0b`, `\x0c`,
`\x1c` to `\x1e`, next line `\x85`, and the Unicode line and paragraph separators.
-/

namespace PracticeForge

namespace Text

/-- Drops white space at the start. -/
def trimStart (s : String) : String := String.ofList (s.toList.dropWhile isSpace)

/-- Drops white space at the end. -/
def trimEnd (s : String) : String := String.ofList (s.toList.reverse.dropWhile isSpace).reverse

/-- Drops white space at both ends. -/
def trim (s : String) : String := trimEnd (trimStart s)

/-- Drops the given characters at both ends. -/
def trimChars (drop : Char → Bool) (s : String) : String :=
  String.ofList ((s.toList.dropWhile drop).reverse.dropWhile drop).reverse

/-- The maximal runs of characters other than white space, in order. -/
def words (s : String) : List String :=
  let step (acc : List (List Char)) (c : Char) : List (List Char) :=
    if isSpace c then (if acc.headD [] = [] then acc else [] :: acc)
    else match acc with
      | [] => [[c]]
      | w :: rest => (c :: w) :: rest
  let runs := s.toList.foldl step [[]]
  (runs.filter (· ≠ [])).reverse.map fun w => String.ofList w.reverse

/-- The words of a text joined by single spaces. -/
def squeeze (s : String) : String := " ".intercalate (words s)

/-- Whether a character ends a line. -/
def isLineBreak (c : Char) : Bool :=
  c == '\n' || c == '\r' || c == '\x0b' || c == '\x0c' || c == '\x1c' || c == '\x1d' ||
    c == '\x1e' || c == '\x85' || c.toNat == 0x2028 || c.toNat == 0x2029

/-- The lines of a text without their line breaks; a text ending in a break has no empty
last line, and the empty text has no lines. -/
def lines (s : String) : List String :=
  let rec go (fuel : Nat) (cur : List Char) (cs : List Char) (acc : List String) : List String :=
    match fuel with
    | 0 => (if cur = [] then acc else String.ofList cur.reverse :: acc).reverse
    | fuel + 1 =>
      match cs with
      | [] => (if cur = [] then acc else String.ofList cur.reverse :: acc).reverse
      | '\r' :: '\n' :: r => go fuel [] r (String.ofList cur.reverse :: acc)
      | c :: r =>
        if isLineBreak c then go fuel [] r (String.ofList cur.reverse :: acc)
        else go fuel (c :: cur) r acc
  go (s.length + 1) [] s.toList []

/-- The first `n` characters. -/
def take (s : String) (n : Nat) : String := String.ofList (s.toList.take n)

/-- All but the first `n` characters. -/
def drop (s : String) (n : Nat) : String := String.ofList (s.toList.drop n)

/-- All but the last `n` characters. -/
def dropLast (s : String) (n : Nat) : String := String.ofList (s.toList.take (s.length - n))

/-- Whether `t` occurs in `s`. -/
def contains (s t : String) : Bool :=
  let tl := t.toList
  let rec go (fuel : Nat) (cs : List Char) : Bool :=
    match fuel with
    | 0 => false
    | fuel + 1 => tl.isPrefixOf cs || (match cs with | [] => false | _ :: r => go fuel r)
  go (s.length + 2) s.toList

/-- The position of the first occurrence of a character, counted in characters. -/
def indexOf? (s : String) (c : Char) : Option Nat := s.toList.idxOf? c

/-- The position of the last occurrence of a character, counted in characters. -/
def lastIndexOf? (s : String) (c : Char) : Option Nat :=
  match s.toList.reverse.idxOf? c with
  | some i => some (s.length - 1 - i)
  | none => none

/-- The characters from position `a` up to but not including `b`. -/
def slice (s : String) (a b : Nat) : String := String.ofList ((s.toList.take b).drop a)

/-- Splits at every occurrence of a separator character. -/
def splitOn (s : String) (sep : Char) : List String :=
  (s.toList.splitOn sep).map String.ofList

end Text

end PracticeForge
