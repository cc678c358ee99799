import PracticeForge.Text.Alnum
import PracticeForge.Text.Digit
import PracticeForge.Text.Space
import PracticeForge.Text.Case

/-!
# Text/Pattern — regular patterns over Unicode text

A `Pattern` is a regular expression with the parts this library reads text with: characters
and character sets, alternation, repetition greedy or lazy, numbered groups, anchors at the ends
of the text or of lines, word boundaries, a look-ahead that must fail, and a look-behind at one
character that must fail.  Word characters are letters, numbers and the underscore of Unicode,
digits are the decimal digits of every script, and blanks are `Text.isSpace`.

Matching may ignore case.  It then compares characters by `Pattern.fold`: the simple lower case,
with the characters that share one lower case in all but spelling joined (`i` and dotless `ı`,
`s` and long `ſ`, and the Greek letter variants), so `K` (the Kelvin sign) matches `k` and `ſ`
matches `S`.
-/

namespace PracticeForge

namespace Pattern

/-- One member of a character set. -/
inductive Item where
  | char (c : Char)
  | range (lo hi : Char)
  | word
  | digit
  | space
  deriving Repr, Inhabited

/-- A set of characters, or its complement. -/
structure CharSet where
  items : List Item
  negated : Bool
  deriving Repr, Inhabited

/-- Zero-width conditions on a position. -/
inductive Anchor where
  /-- The start of the text. -/
  | textStart
  /-- The start of the text or of a line. -/
  | lineStart
  /-- The end of the text, or just before a line feed that ends it. -/
  | textEnd
  /-- The end of the text or of a line. -/
  | lineEnd
  /-- Between a word character and another character, or an end of a non-empty text. -/
  | boundary
  deriving Repr, Inhabited

end Pattern

/-- A regular pattern. -/
inductive Pattern where
  | empty
  | lit (c : Char)
  | set (s : Pattern.CharSet)
  /-- Any character; a line feed only when `dotAll` is on. -/
  | dot
  | cat (a b : Pattern)
  | alt (a b : Pattern)
  | star (p : Pattern) (greedy : Bool)
  | group (p : Pattern)
  | anchor (a : Pattern.Anchor)
  /-- The pattern must not match at this position. -/
  | notAhead (p : Pattern)
  /-- The character before this position, if any, must not be in the set. -/
  | notBehind (s : Pattern.CharSet)
  deriving Repr, Inhabited

namespace Pattern

/-- The classes of characters that ignore case joins beyond their lower case. -/
def foldClasses : List (List Nat) :=
  [[0x69, 0x131], [0x73, 0x17F], [0xB5, 0x3BC], [0x345, 0x3B9, 0x1FBE], [0x390, 0x1FD3],
   [0x3B0, 0x1FE3], [0x3B2, 0x3D0], [0x3B5, 0x3F5], [0x3B8, 0x3D1], [0x3BA, 0x3F0],
   [0x3C0, 0x3D6], [0x3C1, 0x3F1], [0x3C2, 0x3C3], [0x3C6, 0x3D5], [0x1E61, 0x1E9B],
   [0xFB05, 0xFB06]]

/-- The simple lower case of a character: the first character of its lower case. -/
def simpleLower (c : Char) : Char := (Text.lowerChar c).headD c

/-- The form in which characters are compared when case is ignored. -/
def fold (c : Char) : Char :=
  let l := simpleLower c
  match foldClasses.find? (·.contains l.toNat) with
  | some (first :: _) => Char.ofNat first
  | _ => l

/-- Whether an item is a letter of some case, so that ignoring case changes it. -/
def Item.isCased : Item → Bool
  | .char c => fold c != c || (Text.upperChar c) != [c]
  | .range .. => true
  | _ => false

/-- Whether an item holds a character, the case of letters aside when `ic` is on. -/
def Item.holds (ic : Bool) (c : Char) : Item → Bool
  | .char d => if ic then fold c == fold d else c == d
  | .range lo hi =>
    if lo ≤ c ∧ c ≤ hi then true
    else if ic ∧ hi.toNat - lo.toNat ≤ 512 then
      (List.range (hi.toNat - lo.toNat + 1)).any fun k => fold (Char.ofNat (lo.toNat + k)) == fold c
    else false
  | .word => Text.isWordChar c
  | .digit => Text.isDecimal c
  | .space => Text.isSpace c

/-- Whether a set holds a character.  Ignoring case applies only to sets that name a letter. -/
def CharSet.holds (ic : Bool) (s : CharSet) (c : Char) : Bool :=
  let ic := ic && s.items.any Item.isCased
  let inside := s.items.any (Item.holds ic c)
  if s.negated then !inside else inside

/-! ## Building patterns -/

/-- A sequence of patterns. -/
def seq : List Pattern → Pattern
  | [] => .empty
  | [p] => p
  | p :: ps => .cat p (seq ps)

/-- A choice between patterns, the first preferred. -/
def oneOf : List Pattern → Pattern
  | [] => .empty
  | [p] => p
  | p :: ps => .alt p (oneOf ps)

/-- A literal text. -/
def text (s : String) : Pattern := seq (s.toList.map .lit)

/-- One of the literal texts, the first preferred. -/
def texts (ss : List String) : Pattern := oneOf (ss.map text)

/-- One or more, greedy. -/
def plus (p : Pattern) : Pattern := .cat p (.star p true)

/-- One or more, lazy. -/
def plusLazy (p : Pattern) : Pattern := .cat p (.star p false)

/-- Zero or more, greedy. -/
def many (p : Pattern) : Pattern := .star p true

/-- Zero or one, greedy. -/
def opt (p : Pattern) : Pattern := .alt p .empty

/-- Zero or one, lazy. -/
def optLazy (p : Pattern) : Pattern := .alt .empty p

/-- Between zero and `n` times, greedy or lazy. -/
def upTo (p : Pattern) (greedy : Bool) : Nat → Pattern
  | 0 => .empty
  | n + 1 =>
    let rest := .cat p (upTo p greedy n)
    if greedy then .alt rest .empty else .alt .empty rest

/-- A set of the given items. -/
def anyOf (items : List Item) : Pattern := .set ⟨items, false⟩

/-- A character outside the given items. -/
def noneOf (items : List Item) : Pattern := .set ⟨items, true⟩

/-- A word character. -/
def wordChar : Pattern := anyOf [.word]

/-- A decimal digit. -/
def digitChar : Pattern := anyOf [.digit]

/-- A blank. -/
def spaceChar : Pattern := anyOf [.space]

/-- A word boundary. -/
def boundary : Pattern := .anchor .boundary

/-- ASCII letters, digits and the underscore. -/
def identItems : List Item := [.range 'A' 'Z', .range 'a' 'z', .range '0' '9', .char '_']

/-- A word of the given texts standing alone: word boundaries on both sides. -/
def wordOf (ss : List String) : Pattern := seq [boundary, .group (texts ss), boundary]

end Pattern

end PracticeForge
