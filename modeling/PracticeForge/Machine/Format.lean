import PracticeForge.Machine.Bytes

/-!
# Machine/Format — C's formatted numbers

The programs of the machine format numbers as C's `printf` does, and read number arguments as
C's conversions do; this module holds both.

*Reading.*  `readInt` reads an integer as `strtoimax` with base 0: leading white space, a sign,
then `0x` and hexadecimal digits, or `0` and octal digits, or decimal digits; a value out of
range is clamped and reported.  Read as unsigned, a negative value wraps modulo 2^64.
`readFloat` reads as `strtod` (or `strtold`, for the extended width): a sign, then
`inf`/`infinity`/`nan` in any case, a hexadecimal significand with a binary exponent, or a
decimal one with a decimal exponent, rounded to the nearest value of the width; overflow and
underflow are reported.  Both tell how many bytes
they read: a reader checks that all of its argument was read.

*Formatting.*  A conversion has flags (`-` left, `+` sign, space, `#` alternate form, `0` zero
fill), a width and a precision.  Integers take the precision as a least number of digits;
floating conversions round the exact value of the double, a tie going to the even digit: `%f`
with a fixed number of decimals, `%e` with one digit before the point and an exponent of at least
two digits, `%g` choosing between them by the exponent and dropping trailing zeros, `%a` in
hexadecimal.  Infinities and NaN read `inf` and `nan` (upper case for `%F %E %G %A`) and are never
filled with zeros.
-/

namespace PracticeForge

namespace Machine

/-- A conversion's flags, width and precision. -/
structure Spec where
  left : Bool := false
  plus : Bool := false
  space : Bool := false
  alt : Bool := false
  zero : Bool := false
  width : Nat := 0
  prec : Option Nat := none
  deriving Inhabited

namespace Format

/-- The bytes of a text. -/
def b (s : String) : Bytes := Bytes.ofString s

/-- A run of one byte. -/
def fill (c : UInt8) (n : Nat) : Bytes := List.replicate n c

/-- Lays out a field: a prefix (sign, `0x`) and a body, filled to the width with spaces (on the
right when `left`) or, when `zeros`, with zeros between prefix and body. -/
def field (sp : Spec) (pre body : Bytes) (zeros : Bool) : Bytes :=
  let len := pre.length + body.length
  if len ≥ sp.width then pre ++ body
  else if sp.left then pre ++ body ++ fill 32 (sp.width - len)
  else if zeros && sp.zero then pre ++ fill 48 (sp.width - len) ++ body
  else fill 32 (sp.width - len) ++ pre ++ body

/-- The digits of a natural in a base, in lower or upper case. -/
def digits (base : Nat) (upper : Bool) (n : Nat) : Bytes :=
  (Nat.toDigits base n).map fun c =>
    let c := if upper then c.toUpper else c
    c.toNat.toUInt8

/-- The digits of a value with at least `prec` of them; a zero precision and value give none. -/
def withPrecision (prec : Option Nat) (n : Nat) (ds : Bytes) : Bytes :=
  match prec with
  | some 0 => if n == 0 then [] else ds
  | some p => fill 48 (p - ds.length) ++ ds
  | none => ds

/-- `%d` and `%i`. -/
def signedInt (sp : Spec) (v : Int) : Bytes :=
  let ds := withPrecision sp.prec v.natAbs (digits 10 false v.natAbs)
  let sign := if v < 0 then b "-" else if sp.plus then b "+" else if sp.space then b " " else []
  field sp sign ds sp.prec.isNone

/-- `%u`, `%o`, `%x` and `%X`. -/
def unsignedInt (sp : Spec) (conv : Char) (v : Nat) : Bytes :=
  let base := if conv == 'o' then 8 else if conv == 'u' then 10 else 16
  let ds := withPrecision sp.prec v (digits base (conv == 'X') v)
  let ds := if conv == 'o' && sp.alt && ds.head? != some 48 then 48 :: ds else ds
  let pre := if sp.alt && v != 0 && conv == 'x' then b "0x"
    else if sp.alt && v != 0 && conv == 'X' then b "0X" else []
  field sp pre ds sp.prec.isNone

/-- `%s`: the bytes, cut to the precision. -/
def string (sp : Spec) (s : Bytes) : Bytes :=
  let s := match sp.prec with
    | some p => s.take p
    | none => s
  field sp [] s false

/-- Ten to a power. -/
def pow10 (k : Nat) : Nat := Nat.pow 10 k

/-- `num / den` rounded to a natural, a tie going to the even one. -/
def roundDiv (num den : Nat) : Nat :=
  let q := num / den
  let r := num % den
  if 2 * r > den || (2 * r == den && q % 2 == 1) then q + 1 else q

/-- `num / den * 10^k` rounded, for an integer `k` of either sign. -/
def scaled (num den : Nat) (k : Int) : Nat :=
  if 0 ≤ k then roundDiv (num * pow10 k.toNat) den else roundDiv num (den * pow10 (-k).toNat)

/-- The decimal exponent of a positive ratio: the `e` with `10^e ≤ num/den < 10^(e+1)`. -/
def exponent10 (num den : Nat) : Int :=
  let guess : Int := ((Nat.toDigits 10 num).length : Int) - (Nat.toDigits 10 den).length
  -- `num/den ≥ 10^e` as a test on naturals
  let atLeast (e : Int) : Bool :=
    if 0 ≤ e then num ≥ den * pow10 e.toNat else num * pow10 (-e).toNat ≥ den
  if atLeast guess then (if atLeast (guess + 1) then guess + 1 else guess) else guess - 1

/-- Digits with a point put before the last `k` of them (zeros added in front as needed). -/
def pointAt (ds : Bytes) (k : Nat) (alt : Bool) : Bytes :=
  let ds := if ds.length ≤ k then fill 48 (k + 1 - ds.length) ++ ds else ds
  let whole := ds.take (ds.length - k)
  let frac := ds.drop (ds.length - k)
  if k == 0 then (if alt then whole ++ [46] else whole) else whole ++ [46] ++ frac

/-- The fixed form of a non-negative ratio with `p` decimals. -/
def fixed (num den p : Nat) (alt : Bool) : Bytes :=
  pointAt (digits 10 false (scaled num den p)) p alt

/-- The exponent form of a non-negative ratio with `p` decimals: the digits and the exponent. -/
def sciParts (num den p : Nat) : Nat × Int :=
  if num == 0 then (0, 0)
  else
    let e := exponent10 num den
    let m := scaled num den ((p : Int) - e)
    if m ≥ pow10 (p + 1) then (m / 10, e + 1) else (m, e)

/-- The exponent form: digits, then `e`, a sign and at least two exponent digits. -/
def scientific (num den p : Nat) (alt upper : Bool) : Bytes :=
  let (m, e) := sciParts num den p
  let ds := pointAt (fill 48 (p + 1 - (digits 10 false m).length) ++ digits 10 false m) p alt
  let eds := digits 10 false e.natAbs
  ds ++ [if upper then 69 else 101] ++ [if e < 0 then 45 else 43] ++ (if eds.length < 2 then 48 :: eds else eds)

/-- Drops trailing zeros after a point, and the point when nothing follows it. -/
def trimZeros (ds : Bytes) : Bytes :=
  if ds.contains 46 then
    let r := (ds.reverse.dropWhile (· == 48))
    (match r with
      | 46 :: rest => rest
      | _ => r).reverse
  else ds

/-- The general form `%g` with `P` significant digits. -/
def general (num den : Nat) (prec : Nat) (alt upper : Bool) : Bytes :=
  let p := if prec == 0 then 1 else prec
  let (_, x) := sciParts num den (p - 1)
  if x < p && x ≥ -4 then
    let s := fixed num den (p - 1 - x).toNat alt
    if alt then s else trimZeros s
  else
    let s := scientific num den (p - 1) alt upper
    if alt then s
    else
      -- trim the significand's zeros, keeping the exponent
      let cut := s.takeWhile fun c => c != 101 && c != 69
      trimZeros cut ++ s.drop cut.length

/-- A floating value as a program holds it: NaN, an infinity, or an exact finite value
`num / den` with a sign, which is a double or an extended double. -/
inductive FloatVal where
  | nan (neg : Bool)
  | inf (neg : Bool)
  | finite (neg : Bool) (num den : Nat)
  deriving Inhabited

/-- The widths floating values come in: the significand's bits, and the exponent of its lowest
bit for the smallest and the largest finite values. -/
structure FloatWidth where
  bits : Nat
  minExp : Int
  maxExp : Int

/-- C's `double`. -/
def doubleWidth : FloatWidth := ⟨53, -1074, 971⟩

/-- The x87 extended `long double`. -/
def extendedWidth : FloatWidth := ⟨64, -16445, 16320⟩

/-- `num / (den * 2^e)` as a quotient, a remainder and the divisor. -/
def divPow2 (num den : Nat) (e : Int) : Nat × Nat × Nat :=
  if 0 ≤ e then (num / (den * Nat.pow 2 e.toNat), num % (den * Nat.pow 2 e.toNat), den * Nat.pow 2 e.toNat)
  else ((num * Nat.pow 2 (-e).toNat) / den, (num * Nat.pow 2 (-e).toNat) % den, den)

/-- The nearest value of a width to a positive ratio, a tie going to the even significand: the
significand and the exponent of its lowest bit; none past the largest finite value. -/
def roundTo (fw : FloatWidth) (num den : Nat) : Option (Nat × Int) :=
  if num == 0 then some (0, fw.minExp)
  else
    let e0 : Int := (num.log2 : Int) - den.log2 - fw.bits
    let e1 := if (divPow2 num den e0).1 < Nat.pow 2 fw.bits then e0 else e0 + 1
    let e := if e1 < fw.minExp then fw.minExp else e1
    let (q, r, d) := divPow2 num den e
    let sig := roundDiv (q * d + r) d
    let (sig, e) := if sig == Nat.pow 2 fw.bits then (Nat.pow 2 (fw.bits - 1), e + 1) else (sig, e)
    if e > fw.maxExp then none else some (sig, e)

/-- The exact value of a significand and exponent. -/
def ofSigExp (neg : Bool) (sig : Nat) (e : Int) : FloatVal :=
  if e ≥ 0 then .finite neg (sig * Nat.pow 2 e.toNat) 1 else .finite neg sig (Nat.pow 2 (-e).toNat)

/-- The significand and exponent of a finite value of a width. -/
def sigExp (fw : FloatWidth) (num den : Nat) : Nat × Int := (roundTo fw num den).getD (0, 0)

/-- The hexadecimal form `%a` of a finite value's magnitude.  A double shows a leading `1` (a
`0` below the normal range) and up to 13 digits; an extended double shows its top four bits as
the leading digit and up to 15 digits. -/
def hexFloat (fw : FloatWidth) (num den : Nat) (prec : Option Nat) (alt upper : Bool) : Bytes :=
  let hd (n : Nat) : Bytes := digits 16 upper n
  let (sig, e) := sigExp fw num den
  -- the leading digit, the fraction digits' count and value, the exponent
  let (lead, fracDigits, frac, ex) : Nat × Nat × Nat × Int :=
    if fw.bits == 53 then
      if sig == 0 then (0, 13, 0, 0)
      else if sig < Nat.pow 2 52 then (0, 13, sig, -1022)
      else (1, 13, sig - Nat.pow 2 52, e + 52)
    else
      if sig == 0 then (0, 15, 0, 0)
      else (sig / Nat.pow 2 60, 15, sig % Nat.pow 2 60, e + 60)
  let (lead, fracDs, ex) : Nat × Bytes × Int :=
    match prec with
    | none =>
      let ds := hd frac
      let ds := fill 48 (fracDigits - ds.length) ++ ds
      (lead, (ds.reverse.dropWhile (· == 48)).reverse, ex)
    | some p =>
      if p ≥ fracDigits then
        let ds := hd frac
        (lead, fill 48 (fracDigits - ds.length) ++ ds ++ fill 48 (p - fracDigits), ex)
      else
        let total := lead * Nat.pow 16 fracDigits + frac
        let r := roundDiv total (Nat.pow 16 (fracDigits - p))
        let newLead := r / Nat.pow 16 p
        let rest := r % Nat.pow 16 p
        -- an extended double carried past its leading digit starts again at 1
        let (newLead, rest, ex) := if fw.bits != 53 && newLead ≥ 16 then (newLead / 16, 0, ex + 4)
          else (newLead, rest, ex)
        let ds := if p == 0 then [] else hd rest
        (newLead, fill 48 (p - ds.length) ++ ds, ex)
  let point := if fracDs.isEmpty && !alt then [] else [46]
  b (if upper then "0X" else "0x") ++ hd lead ++ point ++ fracDs ++ [if upper then 80 else 112] ++
    [if ex < 0 then 45 else 43] ++ digits 10 false ex.natAbs

/-- A floating conversion (`f F e E g G a A`) of a value of a width. -/
def float (fw : FloatWidth) (sp : Spec) (conv : Char) (v : FloatVal) : Bytes :=
  let upper := conv == 'F' || conv == 'E' || conv == 'G' || conv == 'A'
  let signOf (neg : Bool) : Bytes :=
    if neg then b "-" else if sp.plus then b "+" else if sp.space then b " " else []
  let word (s : String) : Bytes := b (if upper then s.toUpper else s)
  match v with
  | .nan neg => field { sp with zero := false } (signOf neg) (word "nan") false
  | .inf neg => field { sp with zero := false } (signOf neg) (word "inf") false
  | .finite neg num den =>
    let p := sp.prec.getD 6
    if conv == 'a' || conv == 'A' then
      let body := hexFloat fw num den sp.prec sp.alt upper
      -- the `0x` stays in front of any zero fill
      field sp (signOf neg ++ body.take 2) (body.drop 2) true
    else
      let body : Bytes :=
        if conv == 'f' || conv == 'F' then fixed num den p sp.alt
        else if conv == 'e' || conv == 'E' then scientific num den p sp.alt upper
        else general num den p sp.alt upper
      field sp (signOf neg) body true

end Format

/-- What reading a number argument found: the value, how many bytes were read (0 when no
number starts the text), and whether the value was out of range. -/
structure Reading (α : Type) where
  value : α
  used : Nat
  outOfRange : Bool

namespace Format

/-- Skips leading white space and a sign: the bytes skipped, whether the sign was minus, and the
rest. -/
def signPart (s : Bytes) : Nat × Bool × Bytes :=
  let ws := (s.takeWhile Bytes.isSpace).length
  let t := s.drop ws
  match t with
  | 45 :: r => (ws + 1, true, r)
  | 43 :: r => (ws + 1, false, r)
  | r => (ws, false, r)

/-- The value of a hexadecimal digit. -/
def hexValue (c : UInt8) : Option Nat :=
  if Bytes.isDigit c then some (c.toNat - 48)
  else if 97 ≤ c && c ≤ 102 then some (c.toNat - 87)
  else if 65 ≤ c && c ≤ 70 then some (c.toNat - 55)
  else none

/-- Reads an unsigned magnitude with base 0: its value and length; none when no digit. -/
def magnitude (t : Bytes) : Option (Nat × Nat) :=
  let run (base : Nat) (cs : Bytes) : Nat × Nat :=
    let ds := cs.takeWhile fun c => match hexValue c with
      | some v => v < base
      | none => false
    (ds.foldl (fun n c => n * base + (hexValue c).getD 0) 0, ds.length)
  match t with
  | 48 :: x :: rest =>
    if (x == 120 || x == 88) && (rest.head?.bind hexValue).isSome then
      let (v, n) := run 16 rest
      some (v, n + 2)
    else
      let (v, n) := run 8 (x :: rest)
      some (v, n + 1)
  | [48] => some (0, 1)
  | c :: _ => if Bytes.isDigit c then some (run 10 t) else none
  | [] => none

/-- Two to the 64th. -/
def twoTo64 : Nat := Nat.pow 2 64

/-- Reads a signed integer as `strtoimax` with base 0. -/
def readInt (s : Bytes) : Reading Int :=
  let (pre, neg, t) := signPart s
  match magnitude t with
  | none => ⟨0, 0, false⟩
  | some (v, n) =>
    let x : Int := if neg then -(v : Int) else v
    let hi : Int := 9223372036854775807
    let lo : Int := -9223372036854775808
    if x > hi then ⟨hi, pre + n, true⟩ else if x < lo then ⟨lo, pre + n, true⟩ else ⟨x, pre + n, false⟩

/-- Reads an unsigned integer as `strtoumax` with base 0: a negative value wraps. -/
def readUnsigned (s : Bytes) : Reading Nat :=
  let (pre, neg, t) := signPart s
  match magnitude t with
  | none => ⟨0, 0, false⟩
  | some (v, n) =>
    if v ≥ twoTo64 then ⟨twoTo64 - 1, pre + n, true⟩
    else if neg && v != 0 then ⟨twoTo64 - v, pre + n, false⟩
    else ⟨v, pre + n, false⟩

/-- Whether bytes start with a word, in any case. -/
def startsWithWord (s : Bytes) (w : String) : Bool :=
  let wb := b w
  s.length ≥ wb.length && (s.take wb.length).map (fun c => if 65 ≤ c && c ≤ 90 then c + 32 else c) == wb

/-- Reads a floating value of a width as `strtod` (or `strtold`) does. -/
def readFloat (fw : FloatWidth) (s : Bytes) : Reading FloatVal :=
  let (pre, neg, t) := signPart s
  let finish (num den : Nat) (used : Nat) : Reading FloatVal :=
    match roundTo fw num den with
    | none => ⟨.inf neg, pre + used, true⟩
    | some (sig, e) =>
      let tiny := num != 0 && sig < Nat.pow 2 (fw.bits - 1)
      ⟨ofSigExp neg sig e, pre + used, tiny⟩
  if startsWithWord t "infinity" then ⟨.inf neg, pre + 8, false⟩
  else if startsWithWord t "inf" then ⟨.inf neg, pre + 3, false⟩
  else if startsWithWord t "nan" then
    let after := t.drop 3
    let extra := match after with
      | 40 :: r =>
        let body := r.takeWhile fun c => Bytes.isAlpha c || Bytes.isDigit c || c == 95
        if (r.drop body.length).head? == some 41 then body.length + 2 else 0
      | _ => 0
    ⟨.nan neg, pre + 3 + extra, false⟩
  else
    match hexPart t with
    | some (num, den, used) => finish num den used
    | none =>
      match decimalPart t with
      | some (num, den, used) => finish num den used
      | none => ⟨.finite false 0 1, 0, false⟩
where
  /-- An exponent after a significand: its value and length, or nothing when no digit follows
  the letter. -/
  exponentPart (letters : List UInt8) (t : Bytes) : Int × Nat :=
    match t with
    | p :: r =>
      if letters.contains p then
        let (sgn, r') : Int × Bytes := match r with
          | 45 :: r'' => (-1, r'')
          | 43 :: r'' => (1, r'')
          | _ => (1, r)
        let eds := r'.takeWhile Bytes.isDigit
        -- very large exponents are clamped: the value is then surely infinite or zero
        let v := Nat.min (Bytes.digitsValue (eds.take 12)) 100000
        if eds.isEmpty then (0, 0) else (sgn * (v : Int), 1 + (r.length - r'.length) + eds.length)
      else (0, 0)
    | [] => (0, 0)
  /-- A hexadecimal significand `0x...` with a binary exponent. -/
  hexPart (t : Bytes) : Option (Nat × Nat × Nat) :=
    match t with
    | 48 :: x :: rest =>
      if x == 120 || x == 88 then
        let intDs := rest.takeWhile fun c => (hexValue c).isSome
        let afterInt := rest.drop intDs.length
        let (fracDs, afterFrac, hasPoint) := match afterInt with
          | 46 :: r => let f := r.takeWhile fun c => (hexValue c).isSome; (f, r.drop f.length, true)
          | _ => ([], afterInt, false)
        if intDs.isEmpty && fracDs.isEmpty then none
        else
          let mant := (intDs ++ fracDs).foldl (fun n c => n * 16 + (hexValue c).getD 0) 0
          let (ex, exLen) := exponentPart [112, 80] afterFrac
          let e2 : Int := ex - 4 * (fracDs.length : Int)
          let (num, den) := if e2 ≥ 0 then (mant * Nat.pow 2 e2.toNat, 1) else (mant, Nat.pow 2 (-e2).toNat)
          some (num, den, 2 + intDs.length + (if hasPoint then 1 + fracDs.length else 0) + exLen)
      else none
    | _ => none
  /-- A decimal significand with a decimal exponent. -/
  decimalPart (t : Bytes) : Option (Nat × Nat × Nat) :=
    let intDs := t.takeWhile Bytes.isDigit
    let afterInt := t.drop intDs.length
    let (fracDs, afterFrac, hasPoint) := match afterInt with
      | 46 :: r => let f := r.takeWhile Bytes.isDigit; (f, r.drop f.length, true)
      | _ => ([], afterInt, false)
    if intDs.isEmpty && fracDs.isEmpty then none
    else
      let mant := Bytes.digitsValue (intDs ++ fracDs)
      let (ex, exLen) := exponentPart [101, 69] afterFrac
      let e10 : Int := ex - fracDs.length
      let (num, den) := if e10 ≥ 0 then (mant * pow10 e10.toNat, 1) else (mant, pow10 (-e10).toNat)
      some (num, den, intDs.length + (if hasPoint then 1 + fracDs.length else 0) + exLen)

end Format

end Machine

end PracticeForge
