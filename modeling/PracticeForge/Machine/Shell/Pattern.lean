import PracticeForge.Machine.Bytes

/-!
# Machine/Shell/Pattern — matching words against shell patterns

A pattern is bytes in which a backslash makes the next byte literal (quoted parts of a word are
written that way), `?` matches any one byte, `*` any run of bytes, and `[...]` one byte of a set:
single bytes, ranges `a-z` (bytes compared as signed chars), classes such as `[:digit:]`, and
`!` first for the complement.  A `[` with no closing `]` is a literal byte.  Bytes are matched as
bytes: a character of several bytes is several `?`.
-/

namespace PracticeForge

namespace Machine

namespace Shell

/-- A byte as a signed char, for ranges. -/
def signedByte (b : UInt8) : Int := if b < 128 then b.toNat else (b.toNat : Int) - 256

/-- The classes a bracket may name, each with its closing `:]`. -/
def charClasses : List (String × (UInt8 → Bool)) :=
  [(":alnum:]", fun b => Bytes.isAlpha b || Bytes.isDigit b),
   (":cntrl:]", fun b => b < 32 || b == 127),
   (":lower:]", fun b => 97 ≤ b && b ≤ 122),
   (":space:]", Bytes.isSpace),
   (":alpha:]", Bytes.isAlpha),
   (":digit:]", Bytes.isDigit),
   (":print:]", fun b => 32 ≤ b && b < 127),
   (":upper:]", fun b => 65 ≤ b && b ≤ 90),
   (":blank:]", Bytes.isBlank),
   (":graph:]", fun b => 33 ≤ b && b < 127),
   (":punct:]", fun b => 33 ≤ b && b < 127 && !(Bytes.isAlpha b || Bytes.isDigit b)),
   (":xdigit:]", fun b => Bytes.isDigit b || (65 ≤ b && b ≤ 70) || (97 ≤ b && b ≤ 102))]

/-- A class named at the start of a bracket's rest (after its `[`): whether the byte is in it,
and the pattern after the class. -/
def classAt (p : Bytes) (b : UInt8) : Option (Bool × Bytes) :=
  charClasses.findSome? fun (name, test) =>
    let n := Bytes.ofString name
    if n.isPrefixOf p then some (test b, p.drop n.length) else none

/-- Reads the members of a bracket after its `[` (and `!`), for one byte: whether the byte is a
member, and the pattern after the closing `]`; none when the bracket does not close. -/
def bracket (fuel : Nat) (p : Bytes) (b : UInt8) (found : Bool) (first : Bool) : Option (Bool × Bytes) :=
  match fuel with
  | 0 => none
  | fuel + 1 =>
    match p with
    | [] => none
    | c :: rest =>
      if c == 93 && !first then some (found, rest)
      else if c == 91 && (classAt rest b).isSome then
        match classAt rest b with
        | some (inClass, after) => bracket fuel after b (found || inClass) false
        | none => none
      else
        let (c, rest) := if c == 92 then
            match rest with
            | d :: r => (d, r)
            | [] => (c, rest)
          else (c, rest)
        match rest with
        | 45 :: hi :: after =>
          if hi != 93 then
            let (hi, after) := if hi == 92 then
                match after with
                | d :: r => (d, r)
                | [] => (hi, after)
              else (hi, after)
            let inRange := signedByte c ≤ signedByte b && signedByte b ≤ signedByte hi
            bracket fuel after b (found || inRange) false
          else bracket fuel rest b (found || b == c) false
        | _ => bracket fuel rest b (found || b == c) false

/-- Whether a pattern matches all of a byte string. -/
def patternMatches (fuel : Nat) (p : Bytes) (s : Bytes) : Bool :=
  match fuel with
  | 0 => false
  | fuel + 1 =>
    let literal (c : UInt8) (rest : Bytes) : Bool :=
      match s with
      | d :: s' => d == c && patternMatches fuel rest s'
      | [] => false
    match p with
    | [] => s.isEmpty
    | 92 :: rest =>
      match rest with
      | c :: rest' => literal c rest'
      | [] => literal 92 []
    | 63 :: rest =>
      match s with
      | _ :: s' => patternMatches fuel rest s'
      | [] => false
    | 42 :: rest =>
      let rest := rest.dropWhile (· == 42)
      (List.range (s.length + 1)).any fun i => patternMatches fuel rest (s.drop i)
    | 91 :: rest =>
      match s with
      | [] => false
      | b :: s' =>
        let (invert, body) := match rest with
          | 33 :: r => (true, r)
          | r => (false, r)
        match bracket (body.length + 1) body b false true with
        | some (found, after) => found != invert && patternMatches fuel after s'
        | none => literal 91 rest
    | c :: rest => literal c rest

/-- Whether a pattern matches a byte string. -/
def Pattern.test (p : Bytes) (s : Bytes) : Bool := patternMatches (p.length + 1) p s

/-- Whether a pattern holds a byte that makes it more than a literal: an unescaped `*`, `?` or
`[`. -/
def Pattern.isMagic (p : Bytes) : Bool :=
  go p
where
  go : Bytes → Bool
    | [] => false
    | 92 :: _ :: rest => go rest
    | c :: rest => c == 42 || c == 63 || c == 91 || go rest

/-- The bytes a pattern stands for when taken literally: its escapes removed. -/
def Pattern.unescape (p : Bytes) : Bytes :=
  go p
where
  go : Bytes → Bytes
    | [] => []
    | 92 :: c :: rest => c :: go rest
    | c :: rest => c :: go rest

end Shell

end Machine

end PracticeForge
