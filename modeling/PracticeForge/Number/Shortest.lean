import PracticeForge.Number.Binary64

/-!
# Number/Shortest — the shortest decimal that reads back as a given double

A finite double stands for the interval of reals that round to it: half a unit in the last
place on each side, a half unit below shrinking to a quarter at the bottom of a binade, and the
ends belonging to it exactly when the significand is even (a tie is read to the even one).
`Binary64.shortest` looks at the decimal grids of 1, 2, … 17 significant digits in turn; on each
grid only the two neighbours of the value can lie in the interval, the first grid with such a
neighbour wins, of two the nearer, and of two equally near the one with the even last digit.
Everything is exact arithmetic on naturals.  `Binary64.toText` writes the digits in the usual
form of this library's output: positional from `1e-4` up to `1e16`, and with an exponent
outside that range.
-/

namespace PracticeForge

namespace Binary64

/-- The decimal digits of a natural, most significant first. -/
def digitsOf (n : Nat) : List Char := (Nat.repr n).toList

/-- Digits `c` at scale `10^k` with the value `c * 10^k`; the digits carry no trailing zero. -/
structure Decimal where
  digits : Nat
  scale : Int
  deriving DecidableEq, Repr

/-- Removes trailing zeros from the digits, moving them into the scale. -/
def Decimal.trim (d : Decimal) : Decimal :=
  let rec go (fuel : Nat) (c : Nat) (k : Int) : Decimal :=
    match fuel with
    | 0 => ⟨c, k⟩
    | fuel + 1 => if c ≠ 0 ∧ c % 10 = 0 then go fuel (c / 10) (k + 1) else ⟨c, k⟩
  go (digitsOf d.digits).length d.digits d.scale

/-- The rounding interval of a positive finite double `sig * 2^e` as three integers
`lo ≤ mid ≤ hi` with a common decimal scale `10^s`, and whether the ends belong to it. -/
structure Interval where
  lo : Nat
  mid : Nat
  hi : Nat
  scale : Int
  closed : Bool

/-- The interval of reals that round to `sig * 2^e` (for `sig > 0`). -/
def interval (sig : Nat) (e : Int) : Interval :=
  -- in units of 2^(e-2): the value is 4 sig, the ends 4 sig ± 2, or 4 sig - 1 at a binade bottom
  let lowGap := if sig = sigLow ∧ minExp < e then 1 else 2
  let lo := 4 * sig - lowGap
  let mid := 4 * sig
  let hi := 4 * sig + 2
  let f := e - 2
  if 0 ≤ f then
    let w := Nat.pow 2 f.toNat
    ⟨lo * w, mid * w, hi * w, 0, sig % 2 == 0⟩
  else
    let w := Nat.pow 5 (-f).toNat
    ⟨lo * w, mid * w, hi * w, f, sig % 2 == 0⟩

/-- Whether `x` lies in the interval. -/
def Interval.holds (i : Interval) (x : Nat) : Bool :=
  if i.closed then i.lo ≤ x ∧ x ≤ i.hi else i.lo < x ∧ x < i.hi

/-- The best decimal of `n` significant digits in the interval, if there is one. -/
def Interval.onGrid? (i : Interval) (n : Nat) : Option Decimal :=
  let len := (digitsOf i.mid).length
  if len ≤ n then some ⟨i.mid, i.scale⟩
  else
    let k := len - n
    let unit := Nat.pow 10 k
    let c := i.mid / unit
    let down := c * unit
    let up := (c + 1) * unit
    match i.holds down, i.holds up with
    | true, true =>
      let dd := i.mid - down
      let du := up - i.mid
      if dd < du ∨ (dd = du ∧ c % 2 = 0) then some ⟨c, i.scale + k⟩
      else some ⟨c + 1, i.scale + k⟩
    | true, false => some ⟨c, i.scale + k⟩
    | false, true => some ⟨c + 1, i.scale + k⟩
    | false, false => none

/-- The shortest decimal in the interval of a positive double `sig * 2^e`. -/
def shortestOf (sig : Nat) (e : Int) : Decimal :=
  let i := interval sig e
  let found := (List.range 17).findSome? fun n => i.onGrid? (n + 1)
  (found.getD ⟨i.mid, i.scale⟩).trim

/-- The exponent of a decimal written in the form `d.ddd * 10^x`. -/
def Decimal.leadExp (d : Decimal) : Int := (digitsOf d.digits).length + d.scale - 1

/-- Writes digits and an exponent the way this library prints a double: `1e-05`, `0.0001`,
`1000000000000000.0`, `1e+16`; an exponent has a sign and at least two digits. -/
def Decimal.render (d : Decimal) : String :=
  let ds := digitsOf d.digits
  let point : Int := ds.length + d.scale
  if point ≤ -4 ∨ 16 < point then
    let x := point - 1
    let mant := match ds with
      | [] => "0"
      | [c] => String.singleton c
      | c :: rest => String.singleton c ++ "." ++ String.ofList rest
    let xs := digitsOf x.natAbs
    let xs := if xs.length < 2 then '0' :: xs else xs
    mant ++ "e" ++ (if x < 0 then "-" else "+") ++ String.ofList xs
  else if point ≤ 0 then
    "0." ++ String.ofList (List.replicate (-point).toNat '0') ++ String.ofList ds
  else if ds.length ≤ point.toNat then
    String.ofList ds ++ String.ofList (List.replicate (point.toNat - ds.length) '0') ++ ".0"
  else
    String.ofList (ds.take point.toNat) ++ "." ++ String.ofList (ds.drop point.toNat)

/-- The text of a double: the shortest digits that read back, `inf`, `-inf` or `nan` for the
values that have none. -/
def toText (x : Binary64) : String :=
  match x.form with
  | .nan => "nan"
  | .inf neg => if neg then "-inf" else "inf"
  | .finite neg sig e =>
    let body := if sig = 0 then "0.0" else (shortestOf sig e).render
    if neg then "-" ++ body else body

end Binary64

end PracticeForge
