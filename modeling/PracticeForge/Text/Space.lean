import PracticeForge.Text.RangeTable

/-!
# Text/Space — white space

The characters that separate words when a text is split on blanks or trimmed: the ASCII
controls tab to carriage return, the four separators `\x1c` to `\x1f`, the space, and the
Unicode spaces and line breaks (Unicode 14).  Two narrower sets serve readers of numbers: the
Unicode White_Space property, and the six ASCII blanks.
-/

namespace PracticeForge

namespace Text

/-- Characters that count as white space. -/
def spaceTable : RangeTable := ⟨#[
    (0x9, 0xd), (0x1c, 0x20), (0x85, 0x85), (0xa0, 0xa0), (0x1680, 0x1680), (0x2000, 0x200a),
    (0x2028, 0x2029), (0x202f, 0x202f), (0x205f, 0x205f), (0x3000, 0x3000)]⟩

/-- Whether a character is white space. -/
def isSpace (c : Char) : Bool := spaceTable.contains c

/-- Whether a character has the Unicode property White_Space: the white space above except the
four separators `\x1c` to `\x1f`, which are controls to Unicode. -/
def isWhiteSpace (c : Char) : Bool := isSpace c && !(0x1c ≤ c.toNat && c.toNat ≤ 0x1f)

/-- Whether a character is one of the six ASCII blanks: tab, line feed, vertical tab, form
feed, carriage return and space. -/
def isAsciiBlank (c : Char) : Bool := c == ' ' || (0x9 ≤ c.toNat && c.toNat ≤ 0xd)

/-- A text without the White_Space characters at its ends. -/
def trimWhite (s : String) : String :=
  String.ofList ((s.toList.dropWhile isWhiteSpace).reverse.dropWhile isWhiteSpace).reverse

end Text

end PracticeForge
