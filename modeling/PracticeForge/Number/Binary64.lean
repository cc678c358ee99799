/-!
# Number/Binary64 — double precision values, kept exactly

A double is kept as its 64-bit pattern.  `Binary64.form` reads the pattern as a sign, a
significand and a power of two, and `Binary64.ofRatio?` rounds an exact non-negative ratio of
naturals to the nearest double, a tie going to the even significand.  Every way this library
arrives at a double goes through that one rounding: reading a decimal, a true division of two
integers, turning an integer into a double, a product.  Nothing here uses the machine's float
unit, so each answer is a function of the bits that a proof can unfold.
-/

namespace PracticeForge

/-- A double precision value, as its IEEE 754 bit pattern. -/
structure Binary64 where
  bits : UInt64
  deriving DecidableEq, Inhabited, Repr

namespace Binary64

/-- What a bit pattern denotes: a finite value is `(-1)^neg * sig * 2^exp`. -/
inductive Form where
  | nan
  | inf (neg : Bool)
  | finite (neg : Bool) (sig : Nat) (exp : Int)
  deriving DecidableEq, Repr

/-- Significands of normal values lie in `[2^52, 2^53)`. -/
def sigLow : Nat := Nat.pow 2 52

/-- The smallest exponent: the subnormals are `sig * 2^(-1074)` with `sig < 2^52`. -/
def minExp : Int := -1074

/-- The largest exponent of a finite value. -/
def maxExp : Int := 971

/-- Reads a bit pattern. -/
def form (x : Binary64) : Form :=
  let b : Nat := x.bits.toNat
  let neg := b / Nat.pow 2 63 % 2 == 1
  let biased : Nat := b / Nat.pow 2 52 % Nat.pow 2 11
  let frac : Nat := b % Nat.pow 2 52
  if biased = 2047 then
    if frac = 0 then .inf neg else .nan
  else if biased = 0 then .finite neg frac minExp
  else .finite neg (frac + sigLow) ((biased : Int) - 1075)

/-- Builds a bit pattern from a sign, a biased exponent and a fraction field. -/
def ofFields (neg : Bool) (biased frac : Nat) : Binary64 :=
  ⟨UInt64.ofNat ((if neg then Nat.pow 2 63 else 0) + biased * Nat.pow 2 52 + frac)⟩

/-- Zero with the given sign. -/
def zero (neg : Bool) : Binary64 := ofFields neg 0 0

/-- Infinity with the given sign. -/
def infinity (neg : Bool) : Binary64 := ofFields neg 2047 0

/-- The quiet NaN that arithmetic produces. -/
def nan : Binary64 := ofFields false 2047 (Nat.pow 2 51)

/-- `num / (den * 2^e)` as a quotient and a remainder over a divisor. -/
def divPow2 (num den : Nat) (e : Int) : Nat × Nat × Nat :=
  if 0 ≤ e then
    let d := den * Nat.pow 2 e.toNat
    (num / d, num % d, d)
  else
    let n := num * Nat.pow 2 (-e).toNat
    (n / den, n % den, den)

/-- Rounds `sig + rem / div` to a natural, a half going to the even neighbour. -/
def roundHalfEven (q r d : Nat) : Nat :=
  if 2 * r > d ∨ (2 * r = d ∧ q % 2 = 1) then q + 1 else q

/-- Encodes a rounded significand and exponent, or `none` past the largest finite value. -/
def encode? (neg : Bool) (sig : Nat) (e : Int) : Option Binary64 :=
  if sig = 0 then some (zero neg)
  else if maxExp < e then none
  else if sig < sigLow then some (ofFields neg 0 sig)
  else some (ofFields neg (e + 1075).toNat (sig - sigLow))

/-- The double nearest to `num / den`, with the given sign, a tie going to the even
significand; `none` when the nearest is beyond the largest finite double.  A zero `den`
is read as one, so the result is total. -/
def ofRatio? (neg : Bool) (num den : Nat) : Option Binary64 :=
  let den := if den = 0 then 1 else den
  if num = 0 then some (zero neg)
  else
    -- an exponent that leaves the quotient in [2^52, 2^54)
    let e0 : Int := (num.log2 : Int) - den.log2 - 53
    let e1 := if (divPow2 num den e0).1 < Nat.pow 2 53 then e0 else e0 + 1
    let e := max e1 minExp
    let (q, r, d) := divPow2 num den e
    let s := roundHalfEven q r d
    if s = Nat.pow 2 53 then encode? neg sigLow (e + 1) else encode? neg s e

/-- Like `ofRatio?`, with infinity past the largest finite double. -/
def ofRatio (neg : Bool) (num den : Nat) : Binary64 :=
  (ofRatio? neg num den).getD (infinity neg)

/-- The double nearest to an integer, or `none` when it is too large. -/
def ofInt? (n : Int) : Option Binary64 :=
  ofRatio? (n < 0) n.natAbs 1

/-- The double nearest to `m * 10^e`, infinity past the largest finite double. -/
def ofDecimal (neg : Bool) (m : Nat) (e : Int) : Binary64 :=
  if 0 ≤ e then ofRatio neg (m * Nat.pow 10 e.toNat) 1 else ofRatio neg m (Nat.pow 10 (-e).toNat)

/-- Whether the value is NaN. -/
def isNaN (x : Binary64) : Bool :=
  match x.form with
  | .nan => true
  | _ => false

/-- The exact value of a finite double as a signed ratio `(neg, num, den)`. -/
def toRatio? (x : Binary64) : Option (Bool × Nat × Nat) :=
  match x.form with
  | .finite neg sig e =>
    if 0 ≤ e then some (neg, sig * Nat.pow 2 e.toNat, 1) else some (neg, sig, Nat.pow 2 (-e).toNat)
  | _ => none

/-- The integer part of a finite double, rounding toward zero. -/
def truncate? (x : Binary64) : Option Int :=
  match x.toRatio? with
  | some (neg, num, den) => some (if neg then -((num / den : Nat) : Int) else (num / den : Nat))
  | none => none

/-- Whether the value is finite and has no fractional part. -/
def isInteger (x : Binary64) : Bool :=
  match x.toRatio? with
  | some (_, num, den) => num % den == 0
  | none => false

/-- The exact product, rounded once; an infinity times a zero is NaN. -/
def mul (x y : Binary64) : Binary64 :=
  match x.form, y.form with
  | .nan, _ => nan
  | _, .nan => nan
  | .inf a, .inf b => infinity (a != b)
  | .inf a, .finite b s _ => if s = 0 then nan else infinity (a != b)
  | .finite a s _, .inf b => if s = 0 then nan else infinity (a != b)
  | .finite a s e, .finite b t f =>
    let g := e + f
    if 0 ≤ g then ofRatio (a != b) (s * t * Nat.pow 2 g.toNat) 1
    else ofRatio (a != b) (s * t) (Nat.pow 2 (-g).toNat)

/-- `x < y` on the real line; every comparison with NaN is false. -/
def lt (x y : Binary64) : Bool :=
  match x.form, y.form with
  | .nan, _ => false
  | _, .nan => false
  | .inf a, .inf b => a && !b
  | .inf a, .finite .. => a
  | .finite .., .inf b => !b
  | .finite a s e, .finite b t f =>
    -- compare (-1)^a s 2^e with (-1)^b t 2^f
    let g := min e f
    let u := s * Nat.pow 2 (e - g).toNat
    let v := t * Nat.pow 2 (f - g).toNat
    let l : Int := if a then -(u : Int) else u
    let r : Int := if b then -(v : Int) else v
    decide (l < r)

/-- The smaller of two values, keeping the first unless the second is below it. -/
def minKeepFirst (x y : Binary64) : Binary64 :=
  if lt y x then y else x

end Binary64

end PracticeForge
