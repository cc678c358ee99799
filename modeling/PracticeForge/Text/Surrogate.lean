/-!
# Text/Surrogate — halves of surrogate pairs that stand alone

A text read from JSON may hold a `\u` escape of one half of a surrogate pair without the other
half.  Such a code unit is no character, yet the text keeps it: it is written back as the same
escape, shown as that escape when the text is quoted, and refused when the text is encoded as
UTF-8.  A character cannot be a surrogate, so each of the 2048 surrogate code units is held by a
stand-in: the last 2048 code points, U+10F800 to U+10FFFF, in the same order.  They are private
use or no characters at all, and no text this library handles holds them otherwise.
-/

namespace PracticeForge

namespace Text

/-- The first surrogate code unit. -/
def firstSurrogate : Nat := 0xD800

/-- The number of surrogate code units. -/
def surrogateCount : Nat := 0x800

/-- The code point of the first stand-in: the last `surrogateCount` code points are the
stand-ins. -/
def firstStandIn : Nat := 0x10F800

/-- Whether a code unit is a surrogate. -/
def isSurrogate (u : Nat) : Bool := firstSurrogate ≤ u && u < firstSurrogate + surrogateCount

/-- The character holding a surrogate code unit. -/
def standIn (u : Nat) : Char := Char.ofNat (firstStandIn + (u - firstSurrogate))

/-- The surrogate code unit a character holds, if it is a stand-in. -/
def surrogateOf? (c : Char) : Option Nat :=
  if firstStandIn ≤ c.toNat then some (c.toNat - firstStandIn + firstSurrogate) else none

/-- Whether a character is a stand-in. -/
def isStandIn (c : Char) : Bool := (surrogateOf? c).isSome

/-- The escape of a code unit below 0x10000: `\u` and four lowercase hex digits. -/
def unitEscape (u : Nat) : String :=
  let d (k : Nat) : Char := (Nat.toDigits 16 (u / Nat.pow 16 k % 16)).headD '0'
  String.ofList ['\\', 'u', d 3, d 2, d 1, d 0]

/-- Why a text cannot be encoded as UTF-8, if it cannot: the encoder stops at the first run of
surrogates and names it, one by its escape, several by the positions of the first and last. -/
def utf8Refusal? (s : String) : Option String :=
  let cs := s.toList
  match cs.findIdx? isStandIn with
  | none => none
  | some i =>
    let run := (cs.drop i).takeWhile isStandIn
    let what := match run with
      | [c] => "character '" ++ unitEscape ((surrogateOf? c).getD 0) ++ "' in position " ++ Nat.repr i
      | _ => "characters in position " ++ Nat.repr i ++ "-" ++ Nat.repr (i + run.length - 1)
    some ("'utf-8' codec can't encode " ++ what ++ ": surrogates not allowed")

end Text

end PracticeForge
