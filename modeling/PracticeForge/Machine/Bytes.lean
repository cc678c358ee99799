/-!
# Machine/Bytes — byte strings as programs see them

Programs and the shell work on bytes, not characters: an argument, a variable or a line of
input is a list of bytes, and only the edge of the machine turns text into bytes (as UTF-8) and
back.  Long streams of data are kept as `ByteArray`; the short byte strings that words and
arguments are made of are kept as `List UInt8`, so that they can be read by pattern matching.
-/

namespace PracticeForge

namespace Machine

/-- A short byte string: a word, an argument, a variable's value. -/
abbrev Bytes := List UInt8

namespace Bytes

/-- The UTF-8 bytes of a text. -/
def ofString (s : String) : Bytes := s.toUTF8.toList

/-- The bytes as an array. -/
def toArray (b : Bytes) : ByteArray := ⟨List.toArray b⟩

/-- The bytes of an array. -/
def ofArray (a : ByteArray) : Bytes := a.data.toList

/-- Whether a byte is an ASCII digit. -/
def isDigit (b : UInt8) : Bool := 48 ≤ b && b ≤ 57

/-- Whether a byte is an ASCII letter. -/
def isAlpha (b : UInt8) : Bool := (65 ≤ b && b ≤ 90) || (97 ≤ b && b ≤ 122)

/-- Whether a byte may stand in a name: a letter, a digit or an underscore. -/
def isNameByte (b : UInt8) : Bool := isAlpha b || isDigit b || b == 95

/-- Whether a byte may start a name: a letter or an underscore. -/
def isNameStart (b : UInt8) : Bool := isAlpha b || b == 95

/-- Whether bytes form a name: a letter or underscore, then letters, digits and underscores. -/
def isName (b : Bytes) : Bool :=
  match b with
  | c :: rest => isNameStart c && rest.all isNameByte
  | [] => false

/-- Whether a byte is a blank: a space or a tab. -/
def isBlank (b : UInt8) : Bool := b == 32 || b == 9

/-- Whether a byte is white space in the C locale: space, tab, new line, vertical tab, form feed or
carriage return. -/
def isSpace (b : UInt8) : Bool := b == 32 || (9 ≤ b && b ≤ 13)

/-- The byte of an ASCII character. -/
def byte (c : Char) : UInt8 := c.toNat.toUInt8

/-- The value of ASCII digits. -/
def digitsValue (ds : Bytes) : Nat := ds.foldl (fun n d => n * 10 + (d.toNat - 48)) 0

/-- The decimal digits of a whole number. -/
def ofNat (n : Nat) : Bytes := ofString (Nat.repr n)

/-- The decimal form of an integer, with a minus sign when negative. -/
def ofInt (n : Int) : Bytes := ofString (toString n)

/-- Splits bytes at every occurrence of a separator byte. -/
def splitOn (sep : UInt8) (b : Bytes) : List Bytes :=
  go b []
where
  go : Bytes → Bytes → List Bytes
    | [], acc => [acc.reverse]
    | c :: rest, acc => if c == sep then acc.reverse :: go rest [] else go rest (c :: acc)

/-- The lines of bytes, each with its new line; the last keeps none when the bytes do not end
with one. -/
def lines (b : Bytes) : List Bytes :=
  go b []
where
  go : Bytes → Bytes → List Bytes
    | [], [] => []
    | [], acc => [acc.reverse]
    | 10 :: rest, acc => (10 :: acc).reverse :: go rest []
    | c :: rest, acc => go rest (c :: acc)

/-- Whether the second byte string starts with the first. -/
def startsWith (b p : Bytes) : Bool := p.isPrefixOf b

/-- Whether a byte continues a UTF-8 sequence. -/
def isContinuation (b : UInt8) : Bool := b &&& 0xC0 == 0x80

/-- Reads the first character of UTF-8 bytes: its code point and the rest, or (for a byte that
starts no valid sequence: a stray, overlong, surrogate or too large one) none and the bytes
after that one byte. -/
def nextChar (b : Bytes) : Option Nat × Bytes :=
  match b with
  | [] => (none, [])
  | c :: rest =>
    let cont (k : Nat) (init : Nat) (lo : Nat) : Option Nat × Bytes :=
      let tail := rest.take k
      if tail.length == k && tail.all isContinuation then
        let v := tail.foldl (fun v x => v * 64 + (x &&& 0x3F).toNat) init
        if v < lo || v > 0x10FFFF || (0xD800 ≤ v && v ≤ 0xDFFF) then (none, rest)
        else (some v, rest.drop k)
      else (none, rest)
    if c < 0x80 then (some c.toNat, rest)
    else if c &&& 0xE0 == 0xC0 then cont 1 (c &&& 0x1F).toNat 0x80
    else if c &&& 0xF0 == 0xE0 then cont 2 (c &&& 0x0F).toNat 0x800
    else if c &&& 0xF8 == 0xF0 then cont 3 (c &&& 0x07).toNat 0x10000
    else (none, rest)

/-- The characters of UTF-8 bytes, a byte that starts no valid sequence read as none. -/
def chars (b : Bytes) : List (Option Nat) :=
  go b.length b
where
  go : Nat → Bytes → List (Option Nat)
    | 0, _ => []
    | _, [] => []
    | fuel + 1, b => let (c, rest) := nextChar b; c :: go fuel rest

end Bytes

end Machine

end PracticeForge
