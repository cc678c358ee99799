import PracticeForge.Text.CharName.FromA
import PracticeForge.Text.CharName.FromC
import PracticeForge.Text.CharName.FromD
import PracticeForge.Text.CharName.FromL
import PracticeForge.Text.CharName.FromN

/-!
# Text/CharName — whether a text names a character

An escape `\N{...}` in a string literal names a character.  A name is looked up among the
names and aliases of Unicode 14, ignoring the case of ASCII letters (`Text/CharName/From*`).
Two families of characters are named by rule instead, and the prefix of their names must be
written in capitals:

* `HANGUL SYLLABLE ` followed by the romanized leading consonant, vowel and trailing consonant
  of a syllable, each read as the longest that fits, with nothing left over;
* `CJK UNIFIED IDEOGRAPH-` followed by four or five hexadecimal digits, in capitals, of a
  unified ideograph.

Named sequences of several characters are no character names.
-/

namespace PracticeForge

namespace Text

/-- The marks that start the entries of a front-coded list: the `k`-th shares `k` leading
characters with the entry before it. -/
def frontCodeMarks : List Char := "abcdefghijklmnopqrstuvwxyz!$%&+,.:;<=>?@[]^_|~".toList

/-- Whether a character may stand in a name: capitals, digits, the space and the hyphen. -/
def isNameLetter (c : Char) : Bool :=
  ('A' ≤ c && c ≤ 'Z') || ('0' ≤ c && c ≤ '9') || c == ' ' || c == '-'

/-- The entries of a front-coded list; `cur` is the entry being read, if `started`. -/
def frontDecode : List Char → Array Char → Bool → Array String → Array String
  | [], cur, started, acc => if started then acc.push (String.ofList cur.toList) else acc
  | c :: rest, cur, started, acc =>
    if isNameLetter c then frontDecode rest (cur.push c) started acc
    else
      frontDecode rest (cur.extract 0 (frontCodeMarks.idxOf c)) true
        (if started then acc.push (String.ofList cur.toList) else acc)

/-- Every name and alias, sorted. -/
def characterNames : Array String :=
  [namesFromA, namesFromC, namesFromD, namesFromL, namesFromN].foldl
    (fun acc part => frontDecode (String.join part).toList #[] false acc) #[]

/-- Whether a sorted array holds a text, searching `[lo, hi)`. -/
def sortedHas (t : Array String) (x : String) : Nat → Nat → Nat → Bool
  | 0, _, _ => false
  | fuel + 1, lo, hi =>
    if hi ≤ lo then false
    else
      let mid := (lo + hi) / 2
      match t[mid]? with
      | some y =>
        if y == x then true
        else if y < x then sortedHas t x fuel (mid + 1) hi
        else sortedHas t x fuel lo mid
      | none => false

/-- The romanized leading consonants of Hangul. -/
def hangulLeads : List String :=
  ["G", "GG", "N", "D", "DD", "R", "M", "B", "BB", "S", "SS", "", "J", "JJ", "C", "K", "T", "P", "H"]

/-- The romanized vowels of Hangul. -/
def hangulVowels : List String :=
  ["A", "AE", "YA", "YAE", "EO", "E", "YEO", "YE", "O", "WA", "WAE", "OE", "YO", "U", "WEO", "WE",
    "WI", "YU", "EU", "YI", "I"]

/-- The romanized trailing consonants of Hangul, the first being none. -/
def hangulTrails : List String :=
  ["", "G", "GG", "GS", "N", "NJ", "NH", "D", "L", "LG", "LM", "LB", "LS", "LT", "LP", "LH", "M",
    "B", "BS", "S", "SS", "NG", "J", "C", "K", "T", "P", "H"]

/-- The length of the longest of some texts that starts a text. -/
def longestStart (options : List String) (cs : List Char) : Option Nat :=
  options.foldl (fun best o =>
    if o.toList.isPrefixOf cs then
      match best with
      | some b => if o.length > b then some o.length else best
      | none => some o.length
    else best) none

/-- Whether a text is the romanization of a Hangul syllable. -/
def isSyllableName (cs : List Char) : Bool :=
  match longestStart hangulLeads cs with
  | none => false
  | some l =>
    let cs := cs.drop l
    match longestStart hangulVowels cs with
    | none => false
    | some v =>
      let cs := cs.drop v
      match longestStart hangulTrails cs with
      | none => false
      | some t => cs.length = t

/-- Whether a code point is a unified ideograph. -/
def isUnifiedIdeograph (n : Nat) : Bool :=
  (0x3400 ≤ n && n ≤ 0x4DBF) || (0x4E00 ≤ n && n ≤ 0x9FFF) || (0x20000 ≤ n && n ≤ 0x2A6DF) ||
    (0x2A700 ≤ n && n ≤ 0x2B738) || (0x2B740 ≤ n && n ≤ 0x2B81D) || (0x2B820 ≤ n && n ≤ 0x2CEA1) ||
    (0x2CEB0 ≤ n && n ≤ 0x2EBE0) || (0x30000 ≤ n && n ≤ 0x3134A)

/-- The value of a capital hexadecimal digit. -/
def capitalHexValue? (c : Char) : Option Nat :=
  if '0' ≤ c && c ≤ '9' then some (c.toNat - '0'.toNat)
  else if 'A' ≤ c && c ≤ 'F' then some (c.toNat - 'A'.toNat + 10)
  else none

/-- Whether a text is four or five capital hexadecimal digits of a unified ideograph. -/
def isIdeographCode (cs : List Char) : Bool :=
  (cs.length = 4 || cs.length = 5) &&
    match cs.mapM capitalHexValue? with
    | some ds => isUnifiedIdeograph (ds.foldl (fun n d => n * 16 + d) 0)
    | none => false

/-- The prefix of the names of Hangul syllables. -/
def syllablePrefix : List Char := "HANGUL SYLLABLE ".toList

/-- The prefix of the names of unified ideographs. -/
def ideographPrefix : List Char := "CJK UNIFIED IDEOGRAPH-".toList

/-- Whether a text names a character. -/
def isCharacterName (name : List Char) : Bool :=
  if syllablePrefix.isPrefixOf name then isSyllableName (name.drop syllablePrefix.length)
  else if ideographPrefix.isPrefixOf name then isIdeographCode (name.drop ideographPrefix.length)
  else
    sortedHas characterNames (String.ofList (name.map Char.toUpper)) 64 0 characterNames.size

end Text

end PracticeForge
