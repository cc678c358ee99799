import PracticeForge.Text.Printable
import PracticeForge.Text.Surrogate

/-!
# Text/Quote — a text as it appears quoted in a message

A quoted text stands between single quotes, or between double quotes when it holds a single
quote and no double quote.  Inside, the backslash and the chosen quote take a backslash, tab,
line feed and carriage return are written `\t`, `\n`, `\r`, and a character that is not
printable is written as a hex escape of two, four or eight digits, whichever fits; a surrogate
standing alone as the escape of four.
-/

namespace PracticeForge

namespace Text

/-- `n` as `width` lowercase hex digits. -/
def hexDigits (width n : Nat) : String :=
  String.ofList ((List.range width).reverse.map fun k =>
    (Nat.toDigits 16 (n / Nat.pow 16 k % 16)).headD '0')

/-- One character inside a quoted text with the given quote. -/
def quoteChar (q : Char) (c : Char) : String :=
  if c == q || c == '\\' then String.ofList ['\\', c]
  else if c == '\t' then "\\t"
  else if c == '\n' then "\\n"
  else if c == '\r' then "\\r"
  else if c.toNat < 0x20 || c.toNat == 0x7F then "\\x" ++ hexDigits 2 c.toNat
  else if c.toNat < 0x7F then String.singleton c
  else if let some u := surrogateOf? c then unitEscape u
  else if isPrintable c then String.singleton c
  else if c.toNat ≤ 0xFF then "\\x" ++ hexDigits 2 c.toNat
  else if c.toNat ≤ 0xFFFF then "\\u" ++ hexDigits 4 c.toNat
  else "\\U" ++ hexDigits 8 c.toNat

/-- A text in quotes, as messages show it. -/
def quoted (s : String) : String :=
  let q := if s.toList.contains '\'' && !s.toList.contains '"' then '"' else '\''
  String.singleton q ++ String.join (s.toList.map (quoteChar q)) ++ String.singleton q

end Text

end PracticeForge
