import PracticeForge.Json.Value
import PracticeForge.Text.Surrogate

/-!
# Json/Read — reading JSON text

The reader takes the format as the model replies of this library are read: blanks are space,
tab, line feed and carriage return; `NaN`, `Infinity` and `-Infinity` are numbers; a string may
hold no raw control character; a `\u` escape takes exactly four hex digits and two escapes of a
surrogate pair make one character (a surrogate that stands alone reads as its stand-in, see
`Text/Surrogate`).  A number
with neither fraction nor exponent is an integer of any size, up to 4300 digits; one with more
digits is refused with its own error.  Anything else is a double, rounded to nearest.  An
object keeps the first place and the last value of a repeated key.

Arrays and objects nest only so deep: the reader is given the number of them that may still be
opened (`room`), and opening one more is refused with its own error, which names the kind of
the one that did not fit.
-/

namespace PracticeForge

namespace Json

/-- Why a text is not read as a value. -/
inductive ReadError where
  /-- The text is not JSON. -/
  | malformed
  /-- An integer has more digits than may be converted. -/
  | tooManyDigits (count : Nat)
  /-- An array (or, when `array` is false, an object) is nested deeper than allowed. -/
  | tooDeep (array : Bool)
  deriving DecidableEq, Repr

/-- The most digits an integer may have. -/
def maxIntDigits : Nat := 4300

/-- The text of a reading error that is not mere malformation. -/
def ReadError.message : ReadError → String
  | .malformed => "malformed JSON"
  | .tooManyDigits n =>
    "Exceeds the limit (4300 digits) for integer string conversion: value has " ++ Nat.repr n ++
      " digits; use sys.set_int_max_str_digits() to increase the limit"
  | .tooDeep array =>
    "maximum recursion depth exceeded while decoding a JSON " ++ (if array then "array" else "object") ++
      " from a unicode string"

/-- A blank between tokens. -/
def isBlank (c : Char) : Bool := c == ' ' || c == '\t' || c == '\n' || c == '\r'

/-- Drops leading blanks. -/
def skipBlanks (cs : List Char) : List Char := cs.dropWhile isBlank

/-- The value of a hex digit. -/
def hexVal? (c : Char) : Option Nat :=
  if '0' ≤ c ∧ c ≤ '9' then some (c.toNat - '0'.toNat)
  else if 'a' ≤ c ∧ c ≤ 'f' then some (c.toNat - 'a'.toNat + 10)
  else if 'A' ≤ c ∧ c ≤ 'F' then some (c.toNat - 'A'.toNat + 10)
  else none

/-- Four hex digits as a code unit. -/
def hex4? : List Char → Option (Nat × List Char)
  | a :: b :: c :: d :: rest => do
    let a ← hexVal? a
    let b ← hexVal? b
    let c ← hexVal? c
    let d ← hexVal? d
    some (((a * 16 + b) * 16 + c) * 16 + d, rest)
  | _ => none

/-- The character of a code point, or the stand-in of a surrogate. -/
def charOfCode (n : Nat) : Char :=
  if n.isValidChar then Char.ofNat n else Text.standIn n

/-- The escape after a backslash inside a string: the characters it stands for and the rest. -/
def escape? : List Char → Option (Char × List Char)
  | '"' :: r => some ('"', r)
  | '\\' :: r => some ('\\', r)
  | '/' :: r => some ('/', r)
  | 'b' :: r => some ('\x08', r)
  | 'f' :: r => some ('\x0c', r)
  | 'n' :: r => some ('\n', r)
  | 'r' :: r => some ('\r', r)
  | 't' :: r => some ('\t', r)
  | 'u' :: r => do
    let (u, r) ← hex4? r
    if 0xD800 ≤ u ∧ u ≤ 0xDBFF then
      match r with
      | '\\' :: 'u' :: r' =>
        match hex4? r' with
        | some (v, r'') =>
          if 0xDC00 ≤ v ∧ v ≤ 0xDFFF then
            some (charOfCode (0x10000 + (u - 0xD800) * 0x400 + (v - 0xDC00)), r'')
          else some (Text.standIn u, r)
        | none => some (Text.standIn u, r)
      | _ => some (Text.standIn u, r)
    else some (charOfCode u, r)
  | _ => none

/-- The body of a string after its opening quote: the text and what follows the closing
quote. -/
def readString (cs : List Char) : Option (String × List Char) :=
  let rec go (fuel : Nat) (acc : List Char) (cs : List Char) : Option (String × List Char) :=
    match fuel with
    | 0 => none
    | fuel + 1 =>
      match cs with
      | [] => none
      | '"' :: r => some (String.ofList acc.reverse, r)
      | '\\' :: r => do
        let (c, r) ← escape? r
        go fuel (c :: acc) r
      | c :: r => if c.toNat < 0x20 then none else go fuel (c :: acc) r
  go (cs.length + 1) [] cs

/-- The decimal value of a run of ASCII digits. -/
def digitsValue (ds : List Char) : Nat := ds.foldl (fun n c => n * 10 + (c.toNat - '0'.toNat)) 0

/-- Whether a character is an ASCII digit. -/
def isDigit (c : Char) : Bool := '0' ≤ c ∧ c ≤ '9'

/-- The double nearest to `m · 10^e`, where `m` has `digits` digits; values certainly beyond
the largest double or below the smallest are settled without building their powers. -/
def nearest (neg : Bool) (m digits : Nat) (e : Int) : Binary64 :=
  if m = 0 then Binary64.zero neg
  else if e + digits > 400 then Binary64.infinity neg
  else if e + digits < -400 then Binary64.zero neg
  else Binary64.ofDecimal neg m e

/-- A number, the optional minus sign already taken: an integer part without leading zeros,
then a fraction and an exponent, each only when digits follow. -/
def readNumber (neg : Bool) (cs : List Char) : Except ReadError (Json × List Char) := do
  let (intDigits, rest) ← match cs with
    | '0' :: r => pure (['0'], r)
    | c :: r =>
      if '1' ≤ c ∧ c ≤ '9' then pure (c :: r.takeWhile isDigit, r.dropWhile isDigit)
      else throw ReadError.malformed
    | [] => throw ReadError.malformed
  let (fracDigits, rest) := match rest with
    | '.' :: d :: r => if isDigit d then (d :: r.takeWhile isDigit, r.dropWhile isDigit) else ([], rest)
    | _ => ([], rest)
  let (expPart, rest) : Option Int × List Char := match rest with
    | e :: r =>
      if e == 'e' || e == 'E' then
        let (sgn, r') := match r with
          | '+' :: r' => (false, r')
          | '-' :: r' => (true, r')
          | _ => (false, r)
        let ds := r'.takeWhile isDigit
        if ds.isEmpty then (none, rest)
        else
          let v : Int := digitsValue ds
          (some (if sgn then -v else v), r'.dropWhile isDigit)
      else (none, rest)
    | [] => (none, rest)
  if fracDigits.isEmpty ∧ expPart.isNone then
    if maxIntDigits < intDigits.length then throw (.tooManyDigits intDigits.length)
    let n : Int := digitsValue intDigits
    pure (.int (if neg then -n else n), rest)
  else
    let ds := intDigits ++ fracDigits
    let m := digitsValue ds
    let e := expPart.getD 0 - fracDigits.length
    pure (.float (nearest neg m (ds.dropWhile (· == '0')).length e), rest)

mutual

/-- A value at the head of the text, and the text after it; `room` arrays and objects may
still be opened. -/
def readValue : Nat → Nat → List Char → Except ReadError (Json × List Char)
  | 0, _, _ => throw .malformed
  | fuel + 1, room, cs =>
    match cs with
    | '"' :: r =>
      match readString r with
      | some (s, r) => pure (.str s, r)
      | none => throw .malformed
    | '{' :: r =>
      match room with
      | 0 => throw (.tooDeep false)
      | room + 1 => readObject fuel room (skipBlanks r)
    | '[' :: r =>
      match room with
      | 0 => throw (.tooDeep true)
      | room + 1 => readArray fuel room (skipBlanks r)
    | 'n' :: 'u' :: 'l' :: 'l' :: r => pure (.null, r)
    | 't' :: 'r' :: 'u' :: 'e' :: r => pure (.bool true, r)
    | 'f' :: 'a' :: 'l' :: 's' :: 'e' :: r => pure (.bool false, r)
    | 'N' :: 'a' :: 'N' :: r => pure (.float Binary64.nan, r)
    | 'I' :: 'n' :: 'f' :: 'i' :: 'n' :: 'i' :: 't' :: 'y' :: r =>
      pure (.float (Binary64.infinity false), r)
    | '-' :: 'I' :: 'n' :: 'f' :: 'i' :: 'n' :: 'i' :: 't' :: 'y' :: r =>
      pure (.float (Binary64.infinity true), r)
    | '-' :: r => readNumber true r
    | r => readNumber false r

/-- The items of an array after its opening bracket and blanks. -/
def readArray : Nat → Nat → List Char → Except ReadError (Json × List Char)
  | 0, _, _ => throw .malformed
  | fuel + 1, room, cs =>
    match cs with
    | ']' :: r => pure (.arr [], r)
    | _ => readItems fuel room cs []

/-- The remaining items of a non-empty array, from the start of an item. -/
def readItems : Nat → Nat → List Char → List Json → Except ReadError (Json × List Char)
  | 0, _, _, _ => throw .malformed
  | fuel + 1, room, cs, acc => do
    let (v, r) ← readValue fuel room cs
    match skipBlanks r with
    | ']' :: r => pure (.arr (acc ++ [v]), r)
    | ',' :: r => readItems fuel room (skipBlanks r) (acc ++ [v])
    | _ => throw .malformed

/-- The entries of an object after its opening brace and blanks. -/
def readObject : Nat → Nat → List Char → Except ReadError (Json × List Char)
  | 0, _, _ => throw .malformed
  | fuel + 1, room, cs =>
    match cs with
    | '}' :: r => pure (.obj [], r)
    | _ => readEntries fuel room cs []

/-- The remaining entries of a non-empty object, from the start of a key. -/
def readEntries : Nat → Nat → List Char → List (String × Json) → Except ReadError (Json × List Char)
  | 0, _, _, _ => throw .malformed
  | fuel + 1, room, cs, acc =>
    match cs with
    | '"' :: r =>
      match readString r with
      | none => throw .malformed
      | some (k, r) =>
        match skipBlanks r with
        | ':' :: r => do
          let (v, r) ← readValue fuel room (skipBlanks r)
          let acc := setEntry acc k v
          match skipBlanks r with
          | '}' :: r => pure (.obj acc, r)
          | ',' :: r => readEntries fuel room (skipBlanks r) acc
          | _ => throw .malformed
        | _ => throw .malformed
    | _ => throw .malformed

end

/-- Reads a whole text as one value, blanks allowed around it, with `room` arrays and objects
allowed inside one another. -/
def parseWithin (room : Nat) (s : String) : Except ReadError Json := do
  let cs := s.toList
  let (v, rest) ← readValue (2 * cs.length + 2) room (skipBlanks cs)
  if (skipBlanks rest).isEmpty then pure v else throw .malformed

/-- How deep arrays and objects may nest in a text that is not read under a tighter bound. -/
def defaultRoom : Nat := 990

/-- Reads a whole text as one value, blanks allowed around it. -/
def parse (s : String) : Except ReadError Json := parseWithin defaultRoom s

/-- Reads a whole text as one value, `none` when it is not JSON. -/
def parse? (s : String) : Option Json :=
  match parse s with
  | .ok v => some v
  | .error _ => none

end Json

end PracticeForge
