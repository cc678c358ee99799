import PracticeForge.Number.Binary64

/-!
# Schema/Instant — which values name a point in time

A record's time stamp may be written three ways.

* An ISO 8601 date and time: `YYYY-MM-DD`, a separator (`T`, `t`, a space or `_`), `HH:MM`
  with optional `:SS` and a fraction after `.` or `,`, then optionally `Z` or an offset
  `±HH:MM` or `±HHMM` (the minus may be U+2212) of less than a day.  The day must exist in its
  month, leap years counted, and nothing may follow.
* A date alone, meaning its midnight.
* A number of seconds since 1970, as a number or as text.  As text it is a signed whole number,
  or digits around a point followed by an optional exponent.  A number beyond twenty billion
  either way counts milliseconds instead.

A record holds instants from the year 1 to the year 9999.  Text is read from the year 0 on,
so a text of the year 0 is read but refused (`Reading.yearZero`), while one outside the years
0 to 9999 is not read at all.  The text is examined as UTF-8 bytes, which is how the offset's
minus sign is recognized.
-/

namespace PracticeForge

namespace Instant

/-- The value of an ASCII digit byte. -/
def digit? (b : UInt8) : Option Nat :=
  if 48 ≤ b.toNat ∧ b.toNat ≤ 57 then some (b.toNat - 48) else none

/-- The value of two ASCII digit bytes. -/
def twoDigits? (a b : UInt8) : Option Nat := do
  pure ((← digit? a) * 10 + (← digit? b))

/-- Whether a year is a leap year of the Gregorian calendar. -/
def isLeap (y : Nat) : Bool := y % 4 == 0 && (y % 100 != 0 || y % 400 == 0)

/-- The number of days of a month, `none` for a month that does not exist. -/
def monthDays? (y m : Nat) : Option Nat :=
  if m = 2 then some (if isLeap y then 29 else 28)
  else if m = 4 ∨ m = 6 ∨ m = 9 ∨ m = 11 then some 30
  else if 1 ≤ m ∧ m ≤ 12 then some 31
  else none

/-- Reads the date `YYYY-MM-DD` at the start of the bytes, and gives its year and the bytes
after it. -/
def date? (bs : List UInt8) : Option (Nat × List UInt8) :=
  match bs with
  | y1 :: y2 :: y3 :: y4 :: s1 :: m1 :: m2 :: s2 :: d1 :: d2 :: rest => do
    let y ← twoDigits? y1 y2
    let y' ← twoDigits? y3 y4
    if s1 != 45 then none
    let m ← twoDigits? m1 m2
    if s2 != 45 then none
    let d ← twoDigits? d1 d2
    let days ← monthDays? (y * 100 + y') m
    if d < 1 ∨ days < d then none
    pure (y * 100 + y', rest)
  | _ => none

/-- Skips the digits of a fraction; `none` when there is none. -/
def fraction? (bs : List UInt8) : Option (List UInt8) :=
  let rest := bs.dropWhile fun b => (digit? b).isSome
  if rest.length = bs.length then none else some rest

/-- Reads `HH:MM`, optional seconds and fraction, and gives the bytes after them. -/
def clock? (bs : List UInt8) : Option (List UInt8) :=
  match bs with
  | h1 :: h2 :: c :: m1 :: m2 :: rest => do
    let h ← twoDigits? h1 h2
    if c != 58 then none
    let m ← twoDigits? m1 m2
    if 23 < h ∨ 59 < m then none
    match rest with
    | 58 :: rest =>
      match rest with
      | s1 :: s2 :: rest =>
        let s ← twoDigits? s1 s2
        if 59 < s then none
        match rest with
        | 46 :: rest | 44 :: rest => fraction? rest
        | rest => some rest
      | _ => none
    | rest => some rest
  | _ => none

/-- Reads an offset's hours and minutes, with or without a colon between them, and whether
they stay under a day. -/
def offsetOk (bs : List UInt8) : Bool :=
  let value : Option Nat := match bs with
    | h1 :: h2 :: 58 :: m1 :: m2 :: [] | h1 :: h2 :: m1 :: m2 :: [] => do
      let h ← twoDigits? h1 h2
      let m ← twoDigits? m1 m2
      if 59 < m then none
      pure (h * 60 + m)
    | _ => none
  match value with
  | some v => v < 24 * 60
  | none => false

/-- Whether the bytes after the clock time are a valid zone: nothing, `Z`, or an offset. -/
def zoneOk (bs : List UInt8) : Bool :=
  match bs with
  | [] => true
  | [90] | [122] => true
  | 43 :: rest | 45 :: rest | 226 :: 136 :: 146 :: rest => offsetOk rest
  | _ => false

/-- The year of a date and time written in the bytes, when they are one. -/
def dateTimeYear? (bs : List UInt8) : Option Nat :=
  match date? bs with
  | some (year, sep :: rest) =>
    if sep == 84 || sep == 116 || sep == 32 || sep == 95 then
      match clock? rest with
      | some zone => if zoneOk zone then some year else none
      | none => none
    else none
  | _ => none

/-- The first second of the year 1, the earliest instant a record may hold. -/
def firstSecond : Int := -62135596800

/-- The first second of the year 0.  Instants from here to the year 1 are read, but no record
can hold them. -/
def yearZeroSecond : Int := -62167219200

/-- The last second allowed, the end of the year 9999. -/
def lastSecond : Int := 253402300799

/-- Beyond this many seconds either way, a number counts milliseconds. -/
def millisecondsBeyond : Int := 20000000000

/-- The least 64-bit integer. -/
def int64Min : Int := -9223372036854775808

/-- The greatest 64-bit integer. -/
def int64Max : Int := 9223372036854775807

/-- The whole seconds a whole number counts: itself, or its thousandths (rounded down) when it
is beyond twenty billion either way. -/
def toSeconds (t : Int) : Int :=
  if t.natAbs ≤ millisecondsBeyond.toNat then t else t / 1000

/-- Whether a whole number of seconds (or milliseconds, when large) names an allowed instant. -/
def secondsOk (t : Int) : Bool :=
  if t ≤ int64Min ∨ int64Max < t then false
  else
    let s := toSeconds t
    firstSecond ≤ s && s ≤ lastSecond

/-- The greatest integer at most a double, held within the 64-bit range. -/
def floorClamped (x : Binary64) : Option Int :=
  match x.toRatio? with
  | some (neg, num, den) =>
    let q : Int := if neg then -(((num + den - 1) / den : Nat) : Int) else ((num / den : Nat) : Int)
    some (max int64Min (min int64Max q))
  | none => none

/-- Whether a double number of seconds names an allowed instant. -/
def doubleOk (x : Binary64) : Bool :=
  match floorClamped x with
  | some t => secondsOk t
  | none => false

/-- What a text makes of a point in time. -/
inductive Reading where
  /-- The text names an instant a record can hold. -/
  | instant
  /-- The text names an instant of the year 0, which no record can hold. -/
  | yearZero
  /-- The text names no instant. -/
  | unreadable
  deriving DecidableEq, Repr

/-- The value of ASCII digit bytes. -/
def digitsValue (ds : List UInt8) : Nat := ds.foldl (fun n b => n * 10 + (b.toNat - 48)) 0

/-- Whether every byte is an ASCII digit. -/
def allDigits (ds : List UInt8) : Bool := ds.all fun b => (digit? b).isSome

/-- An optional sign and at least one digit, as a whole number. -/
def signedWhole? (bs : List UInt8) : Option Int :=
  let (neg, ds) := match bs with
    | 45 :: r => (true, r)
    | 43 :: r => (false, r)
    | r => (false, r)
  if ds.isEmpty || !allDigits ds then none
  else some (if neg then -(digitsValue ds : Int) else digitsValue ds)

/-- The greatest integer at most `±m · 10^k`, held within the 64-bit range; `digits` bounds the
number of digits of `m`. -/
def scaledFloor (neg : Bool) (m : Nat) (digits : Nat) (k : Int) : Int :=
  if m = 0 then 0
  else if 40 < k then (if neg then int64Min else int64Max)
  else if 0 ≤ k then
    let v : Int := m * Nat.pow 10 k.toNat
    max int64Min (min int64Max (if neg then -v else v))
  else
    let (q, exact) :=
      if digits < (-k).toNat then (0, false)
      else (m / Nat.pow 10 (-k).toNat, m % Nat.pow 10 (-k).toNat == 0)
    max int64Min (if neg then -(q : Int) - (if exact then 0 else 1) else q)

/-- Reads a number of seconds written as text: an optional sign, then digits; or digits around a
point (a digit on at least one side), and after the fraction an optional exponent.  Gives the
greatest whole number at most the value. -/
def numberText? (bs : List UInt8) : Option Int :=
  match signedWhole? bs with
  | some t => some (max int64Min (min int64Max t))
  | none =>
    let (neg, body) := match bs with
      | 45 :: r => (true, r)
      | 43 :: r => (false, r)
      | r => (false, r)
    let whole := body.takeWhile fun b => (digit? b).isSome
    match body.drop whole.length with
    | 46 :: rest =>
      let frac := rest.takeWhile fun b => (digit? b).isSome
      let exp? : Option Int := match rest.drop frac.length with
        | [] => some 0
        | e :: r => if e == 101 || e == 69 then signedWhole? r else none
      match exp? with
      | some e =>
        if whole.isEmpty && frac.isEmpty then none
        else
          let ds := whole ++ frac
          some (scaledFloor neg (digitsValue ds) ds.length (e - frac.length))
      | none => none
    | _ => none

/-- What a number written as text makes of a point in time. -/
def readNumber (t : Int) : Reading :=
  if t ≤ int64Min then .unreadable
  else
    let s := toSeconds t
    if s < yearZeroSecond ∨ lastSecond < s then .unreadable
    else if s < firstSecond then .yearZero
    else .instant

/-- What a year makes of a point in time. -/
def readYear (y : Nat) : Reading := if y = 0 then .yearZero else .instant

/-- What a text makes of a point in time: a date and time, a number of seconds, or a date. -/
def read (s : String) : Reading :=
  let bs := s.toUTF8.toList
  match dateTimeYear? bs with
  | some y => readYear y
  | none =>
    match numberText? bs with
    | some t => readNumber t
    | none =>
      match date? bs with
      | some (y, []) => readYear y
      | _ => .unreadable

end Instant

end PracticeForge
