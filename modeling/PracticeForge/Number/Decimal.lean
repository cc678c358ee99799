import PracticeForge.Json.Show
import PracticeForge.Failure
import PracticeForge.Number.Numeral
import PracticeForge.Text.Words

/-!
# Number/Decimal — any value as a number, the way arithmetic takes it

Any value converts to a double the way numbers are taken in arithmetic: a double is itself, an
integer its nearest double (one too large is refused), a boolean 0 or 1, a text as
`Numeral.convertFloat?` reads it; other values are refused by kind.  Likewise any value converts
to an integer: a double is cut toward zero (infinities and NaN refused), a text is read by
`Numeral.convertInt`.

`Decimal.read?` is the looser reader of command arguments: blanks of any kind around the
number, and underscores between digits.
-/

namespace PracticeForge

namespace Decimal

/-- Reads a decimal text as a double, ignoring blanks around it and underscores between
digits. -/
def read? (s : String) : Option Binary64 := do
  let cs ← Numeral.dropInnerUnderscores? none (Text.trim s).toList
  Numeral.plain? cs

end Decimal

/-- A value as a double, the way arithmetic takes numbers. -/
def Json.toDouble (j : Json) : Except Failure Binary64 :=
  match j with
  | .float x => pure x
  | .int n =>
    match Binary64.ofInt? n with
    | some x => pure x
    | none => throw (.overflow "int too large to convert to float")
  | .bool b => pure (Binary64.ofRatio false (if b then 1 else 0) 1)
  | .str s =>
    match Numeral.convertFloat? s with
    | some x => pure x
    | none => throw (.badValue ("could not convert string to float: " ++ j.quotedForm))
  | _ => throw (.badType ("float() argument must be a string or a real number, not " ++
      (Json.str j.kindName).quotedForm))

/-- A value as an integer, a double cut toward zero. -/
def Json.toInteger (j : Json) : Except Failure Int :=
  match j with
  | .int n => pure n
  | .bool b => pure (if b then 1 else 0)
  | .float x =>
    match x.form with
    | .nan => throw (.badValue "cannot convert float NaN to integer")
    | .inf _ => throw (.overflow "cannot convert float infinity to integer")
    | _ => pure (x.truncate?.getD 0)
  | .str s =>
    match Numeral.intOfText s with
    | .ok n => pure n
    | .error m => throw (.badValue m)
  | _ => throw (.badType ("int() argument must be a string, a bytes-like object or a real number, not " ++
      (Json.str j.kindName).quotedForm))

end PracticeForge
