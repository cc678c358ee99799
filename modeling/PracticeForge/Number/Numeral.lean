import PracticeForge.Number.Binary64
import PracticeForge.Text.Space
import PracticeForge.Text.Digit
import PracticeForge.Text.Quote

/-!
# Number/Numeral — numbers written as text

Two families of readers turn a text into a number, and they disagree at the edges.

*Arithmetic conversion* (`convertFloat?`, `convertInt`) first rewrites the text to ASCII: a
decimal digit of any script becomes its ASCII digit and any white space a space, while the
first character that is neither ends the text with a `?` (so the text is refused).  Only then
are the six ASCII blanks around the number skipped, and an underscore may stand only between two
digits.  An integer may have at most 4300 digits.

*Record checking* (`checkFloat?`, `checkInt?`) trims the Unicode White_Space characters from
the ends.  An integer text shorter than 19 bytes is read as a 64-bit integer of ASCII digits; a
longer one as arithmetic converts it, so that more than 4300 digits are too many.  Failing
that, underscores among the digits are dropped (none may follow the sign or end the text) and
the result must fit in 64 bits.  A text that is no integer is read again without a trailing
point and zeros (`"3.00"` is 3, but `"3."` is no integer).
A double's underscores are removed as a whole when none leads, trails or doubles.

Both read a double the same way once the text is plain: an optional sign, then `inf`,
`infinity` or `nan` in any case, or digits with an optional point (a digit on at least one
side) and an optional exponent; the result is the double nearest to the value.
-/

namespace PracticeForge

namespace Numeral

/-- The value of decimal digits. -/
def digitsValue (ds : List Char) : Nat := ds.foldl (fun n c => n * 10 + (c.toNat - '0'.toNat)) 0

/-- The double nearest to `m · 10^e`, without building huge powers for values that are
certainly zero or certainly too large; `digits` is the number of digits of `m`. -/
def nearest (neg : Bool) (m : Nat) (digits : Nat) (e : Int) : Binary64 :=
  if m = 0 then Binary64.zero neg
  else if e + digits > 400 then Binary64.infinity neg
  else if e + digits < -400 then Binary64.zero neg
  else Binary64.ofDecimal neg m e

/-- The leading ASCII digits of a text, and the rest. -/
def digitRun (cs : List Char) : List Char × List Char :=
  (cs.takeWhile Char.isDigit, cs.dropWhile Char.isDigit)

/-- The sign that may lead a number, and the rest. -/
def sign (cs : List Char) : Bool × List Char :=
  match cs with
  | '-' :: r => (true, r)
  | '+' :: r => (false, r)
  | r => (false, r)

/-- Reads an unsigned decimal: digits with an optional point, a digit on at least one side of
it, then an optional exponent of at least one digit; nothing may follow. -/
def unsigned? (neg : Bool) (cs : List Char) : Option Binary64 := do
  let (whole, rest) := digitRun cs
  let (frac, rest) := match rest with
    | '.' :: r => digitRun r
    | r => ([], r)
  if whole.isEmpty && frac.isEmpty then none
  let exp ← match rest with
    | [] => some 0
    | c :: r =>
      if c == 'e' || c == 'E' then
        let (eneg, r) := sign r
        let (ds, r) := digitRun r
        if ds.isEmpty || !r.isEmpty then none
        else some (if eneg then -(digitsValue ds : Int) else digitsValue ds)
      else none
  let ds := whole ++ frac
  pure (nearest neg (digitsValue ds) (ds.dropWhile (· == '0')).length (exp - frac.length))

/-- Reads a plain number: an optional sign, then `inf`, `infinity` or `nan` in any case, or an
unsigned decimal.  No blank or underscore is allowed. -/
def plain? (cs : List Char) : Option Binary64 :=
  let (neg, cs) := sign cs
  let word := String.ofList (cs.map Char.toLower)
  if word == "inf" || word == "infinity" then some (Binary64.infinity neg)
  else if word == "nan" then some Binary64.nan
  else unsigned? neg cs

/-- Removes the underscores of a text in which each one stands between two ASCII digits;
`none` when one does not.  `prev` is the character before the text. -/
def dropInnerUnderscores? (prev : Option Char) : List Char → Option (List Char)
  | [] => some []
  | '_' :: rest =>
    match prev, rest with
    | some p, n :: _ =>
      if p.isDigit && n.isDigit then dropInnerUnderscores? (some '_') rest else none
    | _, _ => none
  | c :: rest => (dropInnerUnderscores? (some c) rest).map (c :: ·)

/-- The ASCII form of a text that arithmetic reads: characters below 127 stay, white space
becomes a space, a decimal digit of any script becomes its ASCII digit, and the first other
character becomes `?` and ends the text. -/
def asciiForm : List Char → List Char
  | [] => []
  | c :: rest =>
    if c.toNat < 127 then c :: asciiForm rest
    else if Text.isSpace c then ' ' :: asciiForm rest
    else match Text.decimalValue? c with
      | some d => Char.ofNat ('0'.toNat + d) :: asciiForm rest
      | none => ['?']

/-- The text without the ASCII blanks at its ends. -/
def stripBlanks (cs : List Char) : List Char :=
  ((cs.dropWhile Text.isAsciiBlank).reverse.dropWhile Text.isAsciiBlank).reverse

/-- Converts a text to a double the way arithmetic does. -/
def convertFloat? (s : String) : Option Binary64 := do
  let cs := asciiForm s.toList
  let cs ← if cs.contains '_' then dropInnerUnderscores? none cs else some cs
  let cs := stripBlanks cs
  if cs.isEmpty then none
  plain? cs

/-- The most digits an integer text may have when arithmetic reads it. -/
def maxDigits : Nat := 4300

/-- Why arithmetic could not read an integer text. -/
inductive IntRefusal where
  /-- The text spells no integer. -/
  | invalid
  /-- The text has the given number of digits, more than `maxDigits`. -/
  | tooManyDigits (digits : Nat)
  deriving DecidableEq, Repr

/-- Converts a text to an integer the way arithmetic does: blanks, an optional sign, then
digits with single underscores between them, then blanks. -/
def convertInt (s : String) : Except IntRefusal Int := do
  let cs := (asciiForm s.toList).dropWhile Text.isAsciiBlank
  let (neg, cs) := sign cs
  if cs.head? == some '_' then throw .invalid
  let run := cs.takeWhile fun c => c.isDigit || c == '_'
  let rest := cs.drop run.length
  if (run.zip run.tail).any (fun p => p.1 == '_' && p.2 == '_') then throw .invalid
  if run.getLast? == some '_' then throw .invalid
  let ds := run.filter Char.isDigit
  if ds.length > maxDigits then throw (.tooManyDigits ds.length)
  if ds.isEmpty || !(rest.dropWhile Text.isAsciiBlank).isEmpty then throw .invalid
  let n : Int := digitsValue ds
  pure (if neg then -n else n)

/-- Converts a text to an integer the way arithmetic does, failing with the message
arithmetic gives: the text shown quoted (cut to 200 characters), or the count of its digits. -/
def intOfText (s : String) : Except String Int :=
  match convertInt s with
  | .ok n => .ok n
  | .error .invalid =>
    .error ("invalid literal for int() with base 10: " ++ String.ofList ((Text.quoted s).toList.take 200))
  | .error (.tooManyDigits n) =>
    .error ("Exceeds the limit (4300 digits) for integer string conversion: value has " ++
      Nat.repr n ++ " digits; use sys.set_int_max_str_digits() to increase the limit")

/-- An optional sign and ASCII digits, at least one. -/
def machineInt? (cs : List Char) : Option Int :=
  let (neg, ds) := sign cs
  if ds.isEmpty || !ds.all Char.isDigit then none
  else
    let n : Int := digitsValue ds
    some (if neg then -n else n)

/-- A whole number that fits in 64 bits: an optional sign and ASCII digits, at least one. -/
def int64? (cs : List Char) : Option Int :=
  (machineInt? cs).filter fun n => -(Nat.pow 2 63 : Int) ≤ n ∧ n < (Nat.pow 2 63 : Int)

/-- A 64-bit whole number written with underscores among its digits, none right after the sign
and none last; the underscores are dropped. -/
def spacedInt64? (cs : List Char) : Option Int :=
  let (signPart, ds) := match cs with
    | '-' :: r => (['-'], r)
    | '+' :: r => (['+'], r)
    | r => ([], r)
  if ds.head? == some '_' || ds.getLast? == some '_' then none
  else int64? (signPart ++ ds.filter (· != '_'))

/-- Whether underscores may be removed as a whole: none leads, trails or doubles. -/
def underscoresRemovable (cs : List Char) : Bool :=
  cs.head? != some '_' && cs.getLast? != some '_' &&
    !(cs.zip cs.tail).any (fun p => p.1 == '_' && p.2 == '_')

/-- The text before its last point when one or more zeros, and nothing else, follow it. -/
def withoutZeroFraction? (cs : List Char) : Option (List Char) :=
  let back := cs.reverse
  let zeros := back.takeWhile (· == '0')
  match back.drop zeros.length with
  | '.' :: front => if zeros.isEmpty then none else some front.reverse
  | _ => none

/-- Why record checking could not read an integer text. -/
inductive IntFault where
  /-- The text spells no integer. -/
  | parsing
  /-- The text has more digits than arithmetic converts. -/
  | size
  deriving DecidableEq, Repr

/-- Reads an integer text of `len` bytes as record checking does: a short text as a 64-bit
integer, a long one as arithmetic converts it, and either, when that fails, as a 64-bit integer
with underscores among its digits. -/
def wholeText? (cs : List Char) (len : Nat) : Except IntFault (Option Int) :=
  let first : Except IntFault (Option Int) :=
    if len < 19 then .ok (int64? cs)
    else match convertInt (String.ofList cs) with
      | .ok n => .ok (some n)
      | .error (.tooManyDigits _) => .error .size
      | .error .invalid => .ok none
  match first with
  | .ok none => .ok (if cs.contains '_' then spacedInt64? cs else none)
  | other => other

/-- Reads an integer text as record checking does: trimmed of white space, and read again
without a fraction of zeros when it is not read as it stands. -/
def checkInt? (s : String) : Except IntFault Int :=
  let t := Text.trimWhite s
  let len := t.utf8ByteSize
  let cs := t.toList
  match wholeText? cs len with
  | .error e => .error e
  | .ok (some n) => .ok n
  | .ok none =>
    match withoutZeroFraction? cs with
    | some front =>
      match wholeText? front len with
      | .error e => .error e
      | .ok (some n) => .ok n
      | .ok none => .error .parsing
    | none => .error .parsing

/-- Reads a double text as record checking does: trimmed, or else with its underscores
removed when none leads, trails or doubles. -/
def checkFloat? (s : String) : Option Binary64 :=
  match plain? (Text.trimWhite s).toList with
  | some x => some x
  | none =>
    let cs := s.toList
    if underscoresRemovable cs then plain? (cs.filter (· != '_')) else none

end Numeral

end PracticeForge
