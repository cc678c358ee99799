import PracticeForge.Text.Alnum
import PracticeForge.Text.Digit
import PracticeForge.Text.Identifier

/-!
# Outline/Token — the tokens of a Python source

Reading the outline of a Python solution goes in two stages:

    source ──tokens──▶ Array Token ──Outline.read──▶ statements with their places

This module is the first stage.  Line ends are made uniform first (`\r\n` and a lone `\r`
become `\n`, and a final `\n` is added), so lines are counted by `\n` alone.  A token knows its
first line, its column counted in UTF-8 bytes, and its last line.  Indentation becomes
`indent` and `dedent` tokens; a line with only blanks or a comment, and any line break inside
brackets, gives no token.  Indentation is measured twice, a tab counting up to the next multiple
of eight and counting as one, and the two measures must agree on every indent and dedent, so
that tabs and spaces cannot be mixed ambiguously.

Anything the language's lexical rules refuse is an error: a character that belongs to no token,
an unterminated string, an unbalanced bracket, a malformed number, a dedent to a level that was
never indented to.
-/

namespace PracticeForge

namespace Outline

/-- The kinds of token. -/
inductive TokenKind where
  | name
  | number
  | string
  | op
  | newline
  | indent
  | dedent
  | endmarker
  deriving DecidableEq, Repr, Inhabited

/-- A token with its place: first line (from 1), column in UTF-8 bytes, last line. -/
structure Token where
  kind : TokenKind
  text : String
  line : Nat
  col : Nat
  endLine : Nat
  deriving Repr

instance : Inhabited Token := ⟨⟨.endmarker, "", 0, 0, 0⟩⟩

/-- The characters of a source with uniform line ends: `\r\n` and a lone `\r` read as `\n`,
and a final `\n` added when missing.  A byte-order mark is an ordinary character here, and so
starts a name that is not one. -/
def uniformLines (s : String) : Array Char :=
  let rec go : List Char → List Char
    | '\r' :: '\n' :: rest => '\n' :: go rest
    | '\r' :: rest => '\n' :: go rest
    | c :: rest => c :: go rest
    | [] => []
  let cs := go s.toList
  (if cs.getLast? == some '\n' then cs else cs ++ ['\n']).toArray

/-- The line (from 1) and the byte column of every position, the end included. -/
structure Places where
  lines : Array Nat
  cols : Array Nat

/-- Computes the places of a text. -/
def places (cs : Array Char) : Places :=
  let (ls, cols, l, b) := cs.foldl (fun (acc : Array Nat × Array Nat × Nat × Nat) c =>
    let (ls, cols, l, b) := acc
    if c == '\n' then (ls.push l, cols.push b, l + 1, 0) else (ls.push l, cols.push b, l, b + c.utf8Size))
    (#[], #[], 1, 0)
  ⟨ls.push l, cols.push b⟩

/-- An ASCII digit. -/
def isDigit (c : Char) : Bool := '0' ≤ c && c ≤ '9'

/-- An ASCII hexadecimal digit. -/
def isHexDigit (c : Char) : Bool := isDigit c || ('a' ≤ c && c ≤ 'f') || ('A' ≤ c && c ≤ 'F')

/-- A character that may stand in a name before the name is checked: ASCII letters and digits,
the underscore, and every character beyond ASCII. -/
def isNameChar (c : Char) : Bool := c.isAlpha || isDigit c || c == '_' || c.toNat ≥ 128

/-- Whether a name is well formed: an XID_Start character or underscore, then XID_Continue
characters (`Text/Identifier`). -/
def isIdentifier (s : List Char) : Bool := Text.isName s

/-- The string prefixes, in lower case. -/
def stringPrefixes : List String := ["b", "r", "u", "f", "br", "rb", "fr", "rf"]

/-- Operators of three characters. -/
def ops3 : List String := ["**=", "//=", ">>=", "<<="]

/-- Characters that are no operator yet make a token of their own, one the grammar takes
nowhere. -/
def strayChars : List Char := ['$', '?', '!', '\x60']

/-- Operators of two characters. -/
def ops2 : List String :=
  ["!=", "%=", "&=", "**", "*=", "+=", "-=", "->", "//", "/=", ":=", "<<", "<=", "==", ">=", ">>",
    "@=", "^=", "|="]

/-- Operators of one character, brackets included. -/
def ops1 : List Char :=
  ['%', '&', '(', ')', '*', '+', ',', '-', '/', ':', ';', '<', '=', '>', '@', '[', ']', '^', '{', '|',
    '}', '~']

/-- The deepest indentation a source may have. -/
def maxIndent : Nat := 100

/-- The deepest nesting of brackets a source may have. -/
def maxNesting : Nat := 200

section Scan

variable (cs : Array Char)

/-- The first position from `j` on whose character fails `p`. -/
def skipWhile (p : Char → Bool) (j : Nat) : Nat :=
  if h : j < cs.size then
    if p cs[j] then skipWhile p (j + 1) else j
  else j
termination_by cs.size - j

/-- The character at a position; a line end past the text. -/
def charAt (j : Nat) : Char := cs.getD j '\n'

/-- Whether the characters from `j` on spell `s`. -/
def spells (j : Nat) (s : String) : Bool :=
  (s.toList.zip (List.range s.length)).all fun (c, k) => charAt cs (j + k) == c

/-- Whether a number may end before position `j`: the next character starts no name, or
starts one of the words that may follow a number (`and`, `else`, `for`, `if`, `in`, `is`,
`not`, `or`). -/
def numberEnds (j : Nat) : Bool :=
  let follows := match charAt cs j with
    | 'a' => spells cs (j + 1) "nd"
    | 'e' => spells cs (j + 1) "lse"
    | 'f' => spells cs (j + 1) "or"
    | 'i' => "fns".toList.contains (charAt cs (j + 1))
    | 'o' => spells cs (j + 1) "r"
    | 'n' => spells cs (j + 1) "ot"
    | _ => false
  follows || !isNameChar (charAt cs j)

/-- Ends a number before `j`, if it may end there. -/
def endNumber (j : Nat) (kind : String) : Except String Nat :=
  if numberEnds cs j then pure j else throw ("invalid " ++ kind ++ " literal")

/-- The end of a run of digits parted by single underscores, from just after its first digit. -/
def digitRun (fuel j : Nat) : Except String Nat :=
  match fuel with
  | 0 => throw "invalid decimal literal"
  | fuel + 1 =>
    let j := skipWhile cs isDigit j
    if charAt cs j == '_' then
      if isDigit (charAt cs (j + 1)) then digitRun fuel (j + 2) else throw "invalid decimal literal"
    else pure j

/-- The end of the digits of a prefixed literal (hexadecimal, octal, binary), from just after
the prefix. -/
def radixRun (isDig : Char → Bool) (kind : String) (fuel j : Nat) : Except String Nat :=
  match fuel with
  | 0 => throw ("invalid " ++ kind ++ " literal")
  | fuel + 1 =>
    let j := if charAt cs j == '_' then j + 1 else j
    if !isDig (charAt cs j) then throw ("invalid " ++ kind ++ " literal")
    else
      let j := skipWhile cs isDig j
      if charAt cs j == '_' then radixRun isDig kind fuel j else pure j

/-- The end of a number from its exponent mark on, or before the mark when it starts a word. -/
def exponentEnd (j : Nat) : Except String Nat :=
  let c := charAt cs (j + 1)
  let digits : Option (Except String Nat) :=
    if c == '+' || c == '-' then
      some (if isDigit (charAt cs (j + 2)) then digitRun cs cs.size (j + 3)
        else throw "invalid decimal literal")
    else if isDigit c then some (digitRun cs cs.size (j + 2))
    else none
  match digits with
  | none => endNumber cs j "decimal"
  | some k => do
    let k ← k
    if charAt cs k == 'j' || charAt cs k == 'J' then endNumber cs (k + 1) "imaginary"
    else endNumber cs k "decimal"

/-- The end of a number after its integer part and point: a fraction, an exponent, an
imaginary mark. -/
def fractionEnd (j : Nat) : Except String Nat := do
  let j ← if isDigit (charAt cs j) then digitRun cs cs.size (j + 1) else pure j
  let c := charAt cs j
  if c == 'e' || c == 'E' then exponentEnd cs j
  else if c == 'j' || c == 'J' then endNumber cs (j + 1) "imaginary"
  else endNumber cs j "decimal"

/-- Skips the zeros (and single underscores) of a literal that starts with `0`. -/
def zeroRun (fuel j : Nat) : Except String Nat :=
  match fuel with
  | 0 => pure j
  | fuel + 1 => do
    let j ← if charAt cs j == '_' then
        if isDigit (charAt cs (j + 1)) then pure (j + 1) else throw "invalid decimal literal"
      else pure j
    if charAt cs j == '0' then zeroRun fuel (j + 1) else pure j

/-- The end of the number that starts at `p` (a digit, or a point before a digit). -/
def numberEnd (p : Nat) : Except String Nat :=
  let c := charAt cs p
  if c == '.' then fractionEnd cs (p + 1)
  else if c == '0' then
    let c1 := charAt cs (p + 1)
    if c1 == 'x' || c1 == 'X' then do
      let j ← radixRun cs isHexDigit "hexadecimal" cs.size (p + 2)
      endNumber cs j "hexadecimal"
    else if c1 == 'o' || c1 == 'O' then do
      let j ← radixRun cs (fun d => '0' ≤ d && d ≤ '7') "octal" cs.size (p + 2)
      if isDigit (charAt cs j) then throw "invalid digit in octal literal" else endNumber cs j "octal"
    else if c1 == 'b' || c1 == 'B' then do
      let j ← radixRun cs (fun d => d == '0' || d == '1') "binary" cs.size (p + 2)
      if isDigit (charAt cs j) then throw "invalid digit in binary literal" else endNumber cs j "binary"
    else do
      let j ← zeroRun cs cs.size (p + 1)
      let (nonzero, j) ← if isDigit (charAt cs j) then do pure (true, ← digitRun cs cs.size (j + 1))
        else pure (false, j)
      let c := charAt cs j
      if c == '.' then fractionEnd cs (j + 1)
      else if c == 'e' || c == 'E' then exponentEnd cs j
      else if c == 'j' || c == 'J' then endNumber cs (j + 1) "imaginary"
      else if nonzero then throw "leading zeros in decimal integer literals are not permitted"
      else endNumber cs j "decimal"
  else do
    let j ← digitRun cs cs.size (p + 1)
    if charAt cs j == '.' then fractionEnd cs (j + 1) else fractionEnd cs j

/-- The end of the body of a string whose quotes are `size` long, from position `j`; `run` is
the number of closing quotes already seen. -/
def stringBodyEnd (q : Char) (size : Nat) (fuel j run : Nat) : Except String Nat :=
  match fuel with
  | 0 => throw "unterminated string literal"
  | fuel + 1 =>
    if j ≥ cs.size then throw "unterminated string literal"
    else
      let c := charAt cs j
      if size == 1 && c == '\n' then throw "unterminated string literal"
      else if c == q then
        if run + 1 == size then pure (j + 1) else stringBodyEnd q size fuel (j + 1) (run + 1)
      else if c == '\\' then stringBodyEnd q size fuel (j + 2) 0
      else stringBodyEnd q size fuel (j + 1) 0

/-- The end of the string whose opening quote is at `q`. -/
def stringEnd (q : Nat) : Except String Nat :=
  let c := charAt cs q
  if charAt cs (q + 1) == c && charAt cs (q + 2) == c then stringBodyEnd cs c 3 cs.size (q + 3) 0
  else if charAt cs (q + 1) == c then pure (q + 2)
  else stringBodyEnd cs c 1 cs.size (q + 1) 0

/-- The position of the opening quote when a string prefix starts at `p`. -/
def quoteAfterPrefix? (p : Nat) : Option Nat :=
  let isQuote (c : Char) : Bool := c == '\'' || c == '"'
  let ok (pre : List Char) : Bool := stringPrefixes.contains (String.ofList (pre.map Char.toLower))
  if isQuote (charAt cs (p + 1)) && ok [charAt cs p] then some (p + 1)
  else if isQuote (charAt cs (p + 2)) && ok [charAt cs p, charAt cs (p + 1)] then some (p + 2)
  else none

/-- Measures the indentation from `j`: the column with tabs to multiples of eight, the column
with tabs as one, the column where a continued line began (0 for none), and where the
indentation ends. -/
def measure (j col alt cont : Nat) : Except String (Nat × Nat × Nat × Nat) :=
  if h : j < cs.size then
    match cs[j] with
    | ' ' => measure (j + 1) (col + 1) (alt + 1) cont
    | '\t' => measure (j + 1) ((col / 8 + 1) * 8) (alt + 1) cont
    | '\x0c' => measure (j + 1) 0 0 cont
    | '\\' =>
      if charAt cs (j + 1) != '\n' then throw "unexpected character after line continuation character"
      else if j + 2 ≥ cs.size then throw "unexpected EOF while parsing"
      else measure (j + 2) col alt (if cont == 0 then col else cont)
    | _ => pure (col, alt, cont, j)
  else pure (col, alt, cont, j)
termination_by cs.size - j

end Scan

/-- The state of the lexer between tokens. -/
structure Lexer where
  pos : Nat
  atLineStart : Bool
  /-- The current line holds only blanks or a comment. -/
  blank : Bool
  /-- Indentation levels, innermost first, each measured both ways; the outermost is `(0, 0)`. -/
  indents : List (Nat × Nat)
  /-- Open brackets, innermost first. -/
  brackets : List Char
  tokens : Array Token

namespace Lexer

/-- Adds a token spanning positions `p` to `q` (exclusive). -/
def emit (st : Lexer) (cs : Array Char) (pl : Places) (kind : TokenKind) (p q : Nat) : Lexer :=
  { st with tokens := st.tokens.push ⟨kind, String.ofList ((cs.extract p q).toList),
      pl.lines.getD p 0, pl.cols.getD p 0, pl.lines.getD (q - 1) 0⟩ }

/-- Adds a token without text or extent. -/
def mark (st : Lexer) (pl : Places) (kind : TokenKind) (p : Nat) : Lexer :=
  { st with tokens := st.tokens.push ⟨kind, "", pl.lines.getD p 0, pl.cols.getD p 0, pl.lines.getD p 0⟩ }

/-- Handles the indentation of a new line that starts a statement. -/
def indentLine (st : Lexer) (pl : Places) (col alt : Nat) : Except String Lexer :=
  let (top, altTop) := st.indents.headD (0, 0)
  if col == top then
    if alt != altTop then throw "inconsistent use of tabs and spaces in indentation" else pure st
  else if col > top then
    if st.indents.length ≥ maxIndent then throw "too many levels of indentation"
    else if alt ≤ altTop then throw "inconsistent use of tabs and spaces in indentation"
    else pure { st.mark pl .indent st.pos with indents := (col, alt) :: st.indents }
  else
    let kept := st.indents.dropWhile fun (c, _) => col < c && c != 0
    let dropped := st.indents.length - kept.length
    let (top, altTop) := kept.headD (0, 0)
    if col != top then throw "unindent does not match any outer indentation level"
    else if alt != altTop then throw "inconsistent use of tabs and spaces in indentation"
    else pure ((List.replicate dropped ()).foldl (fun s _ => s.mark pl .dedent st.pos)
      { st with indents := kept })

end Lexer

/-- Where the lexer stopped on a source the lexical rules refuse: why, and its state there,
which holds the tokens before the refusal and the brackets still open. -/
structure LexStop where
  message : String
  state : Lexer

/-- A step of the lexer that may refuse, refusing at a state. -/
def Lexer.stop {α : Type} (st : Lexer) (r : Except String α) : Except LexStop α :=
  r.mapError fun m => ⟨m, st⟩

/-- Runs the lexer until the end of the text. -/
def lexFrom (cs : Array Char) (pl : Places) : Nat → Lexer → Except LexStop (Array Token)
  | 0, st => throw ⟨"source too long", st⟩
  | fuel + 1, st =>
    if st.atLineStart then do
      let (col, alt, cont, j) ← st.stop (measure cs st.pos 0 0 0)
      let c := charAt cs j
      let blank := j < cs.size && (c == '#' || c == '\n')
      let st := { st with pos := j, atLineStart := false, blank }
      if !blank && st.brackets.isEmpty then
        let (col, alt) := if cont != 0 then (cont, cont) else (col, alt)
        lexFrom cs pl fuel (← st.stop (st.indentLine pl col alt))
      else lexFrom cs pl fuel st
    else
      let p := skipWhile cs (fun c => c == ' ' || c == '\t' || c == '\x0c') st.pos
      let st := { st with pos := p }
      if p ≥ cs.size then
        if st.brackets.isEmpty then pure (st.mark pl .endmarker p).tokens
        else throw ⟨"unexpected EOF while parsing", st⟩
      else
        let c := charAt cs p
        if c == '#' then lexFrom cs pl fuel { st with pos := skipWhile cs (· != '\n') p }
        else if c == '\n' then
          let st := { st with pos := p + 1, atLineStart := true }
          if st.blank || !st.brackets.isEmpty then lexFrom cs pl fuel st
          else lexFrom cs pl fuel { st.mark pl .newline p with pos := p + 1 }
        else if c == '\\' then
          if charAt cs (p + 1) != '\n' then throw ⟨"unexpected character after line continuation character", st⟩
          else if p + 2 ≥ cs.size then throw ⟨"unexpected EOF while parsing", st⟩
          else lexFrom cs pl fuel { st with pos := p + 2 }
        else if c == '\'' || c == '"' then do
          let q ← st.stop (stringEnd cs p)
          lexFrom cs pl fuel { st.emit cs pl .string p q with pos := q }
        else if c.isAlpha || c == '_' || c.toNat ≥ 128 then
          match quoteAfterPrefix? cs p with
          | some qp => do
            let q ← st.stop (stringEnd cs qp)
            lexFrom cs pl fuel { st.emit cs pl .string p q with pos := q }
          | none =>
            let q := skipWhile cs isNameChar p
            let word := (cs.extract p q).toList
            if word.any (·.toNat ≥ 128) && !isIdentifier word then throw ⟨"invalid character in identifier", st⟩
            else lexFrom cs pl fuel { st.emit cs pl .name p q with pos := q }
        else if isDigit c || (c == '.' && isDigit (charAt cs (p + 1))) then do
          let q ← st.stop (numberEnd cs p)
          lexFrom cs pl fuel { st.emit cs pl .number p q with pos := q }
        else if c == '.' then
          let q := if spells cs p "..." then p + 3 else p + 1
          lexFrom cs pl fuel { st.emit cs pl .op p q with pos := q }
        else
          let q := if ops3.any (spells cs p ·) then p + 3
            else if ops2.any (spells cs p ·) then p + 2
            else if ops1.contains c || strayChars.contains c then p + 1
            else p
          if q == p then throw ⟨"invalid character", st⟩
          else
            let st := { st.emit cs pl .op p q with pos := q }
            if c == '(' || c == '[' || c == '{' then
              if st.brackets.length ≥ maxNesting then throw ⟨"too many nested parentheses", { st with tokens := st.tokens.pop }⟩
              else lexFrom cs pl fuel { st with brackets := c :: st.brackets }
            else if c == ')' || c == ']' || c == '}' then
              match st.brackets with
              | o :: rest =>
                if (o == '(' && c == ')') || (o == '[' && c == ']') || (o == '{' && c == '}') then
                  lexFrom cs pl fuel { st with brackets := rest }
                else throw ⟨"closing parenthesis does not match opening parenthesis", { st with tokens := st.tokens.pop }⟩
              | [] => throw ⟨"unmatched closing parenthesis", { st with tokens := st.tokens.pop }⟩
            else lexFrom cs pl fuel st

/-- The tokens of a source, ending with `endmarker`, or where the lexical rules refuse it. -/
def scan (source : String) : Except LexStop (Array Token) :=
  let cs := uniformLines source
  lexFrom cs (places cs) (2 * cs.size + 4) ⟨0, true, false, [(0, 0)], [], #[]⟩

/-- The tokens of a source, ending with `endmarker`; an error names what the lexical rules
refuse. -/
def tokens (source : String) : Except String (Array Token) := (scan source).mapError (·.message)

end Outline

end PracticeForge
