import PracticeForge.Outline.Token
import PracticeForge.Text.CharName

/-!
# Outline/Literal — what a string literal may hold

A string token is a prefix (any of `b`, `r`, `u`, `f`, `br`, `rb`, `fr`, `rf`, in either case),
quotes, a body and the same quotes.  Beyond what the lexer checks, a literal is refused when:

* a bytes literal holds a character beyond ASCII;
* outside a raw literal, an escape is cut short: `\x` wants two hexadecimal digits, and in text
  literals `\u` four, `\U` eight (naming a code point), and `\N` a braced name that names a
  character (`Text/CharName`);
* a formatted literal's replacement fields are malformed: a lone `}`, a field that is empty, holds
  a backslash or a `#`, has unbalanced brackets or an unterminated string, a conversion other
  than `!s`, `!r`, `!a`, or fields nested more than two deep.

The texts of the replacement fields (of all levels) are handed back, for the reader to check that
each is an expression.
-/

namespace PracticeForge

namespace Outline

/-- A string literal taken apart. -/
structure Literal where
  /-- The prefix, in lower case. -/
  pre : List Char
  /-- The characters between the quotes. -/
  body : Array Char

namespace Literal

/-- Takes a string token apart. -/
def ofToken (text : String) : Literal :=
  let cs := text.toList
  let pre := cs.takeWhile fun c => c != '\'' && c != '"'
  let rest := cs.drop pre.length
  let q := rest.headD '"'
  let size := if rest.length ≥ 6 && rest.take 3 == [q, q, q] then 3 else 1
  ⟨pre.map Char.toLower, ((rest.drop size).take (rest.length - 2 * size)).toArray⟩

/-- Whether the literal is of bytes. -/
def isBytes (l : Literal) : Bool := l.pre.contains 'b'

/-- Whether escapes are left as written. -/
def isRaw (l : Literal) : Bool := l.pre.contains 'r'

/-- Whether the literal is formatted. -/
def isFormatted (l : Literal) : Bool := l.pre.contains 'f'

end Literal

/-- Whether the `n` characters from `j` on are hexadecimal digits. -/
def hexRun (b : Array Char) (j n : Nat) : Bool :=
  (List.range n).all fun k => isHexDigit (b.getD (j + k) ' ')

/-- The value of `n` hexadecimal digits from `j` on. -/
def hexValue (b : Array Char) (j n : Nat) : Nat :=
  (List.range n).foldl (fun acc k =>
    let c := b.getD (j + k) '0'
    let d := if isDigit c then c.toNat - '0'.toNat
      else if 'a' ≤ c && c ≤ 'f' then c.toNat - 'a'.toNat + 10 else c.toNat - 'A'.toNat + 10
    acc * 16 + d) 0

/-- Whether every escape from position `j` to `stop` is complete, for a text literal or (with
`bytes`) a bytes literal. -/
def escapesOk (b : Array Char) (bytes : Bool) (stop j : Nat) : Bool :=
  if h : j < stop then
    if b.getD j ' ' == '\\' && j + 1 < stop then
      let next := match b.getD (j + 1) ' ' with
        | 'x' => if hexRun b (j + 2) 2 && j + 4 ≤ stop then some (j + 4) else none
        | 'u' => if bytes then some (j + 2)
          else if hexRun b (j + 2) 4 && j + 6 ≤ stop then some (j + 6) else none
        | 'U' => if bytes then some (j + 2)
          else if hexRun b (j + 2) 8 && j + 10 ≤ stop && hexValue b (j + 2) 8 ≤ 0x10FFFF then some (j + 10)
          else none
        | 'N' =>
          if bytes then some (j + 2)
          else if b.getD (j + 2) ' ' != '{' then none
          else
            let close := skipWhile b (· != '}') (j + 3)
            if close < stop && close > j + 3 &&
                Text.isCharacterName (b.extract (j + 3) close).toList then some (close + 1)
            else none
        | _ => some (j + 2)
      match next with
      | some k => if k > j then escapesOk b bytes stop k else false
      | none => false
    else escapesOk b bytes stop (j + 1)
  else true
termination_by stop - j

/-- A blank as formatted fields count blanks. -/
def isFieldBlank (c : Char) : Bool :=
  c == ' ' || c == '\t' || c == '\n' || c == '\r' || c == '\x0b' || c == '\x0c'

/-- Scans the literal text of a formatted literal from `j`.  It stops at a brace that opens a
field or closes a format spec, or at the end; at the top level a doubled brace is literal text,
and the scan then stops just after it (the flag says so).  A `\N{...}` escape is skipped whole. -/
def literalPart (b : Array Char) (raw top : Bool) : Nat → Nat → Except String (Nat × Bool)
  | 0, j => pure (j, false)
  | fuel + 1, j =>
    let brace (k : Nat) : Except String (Nat × Bool) :=
      let c := b.getD k ' '
      if top && b.getD (k + 1) ' ' == c && k + 1 < b.size then pure (k + 2, true)
      else if top && c == '}' then throw "f-string: single '\x7d' is not allowed"
      else pure (k, false)
    if j ≥ b.size then pure (j, false)
    else
      let ch := b.getD j ' '
      if !raw && ch == '\\' && j + 1 < b.size then
        let ch2 := b.getD (j + 1) ' '
        if ch2 == 'N' then
          if j + 2 < b.size then
            if b.getD (j + 2) ' ' == '{' then
              let close := skipWhile b (· != '}') (j + 3)
              literalPart b raw top fuel (min (close + 1) b.size)
            else literalPart b raw top fuel (j + 3)
          else literalPart b raw top fuel (j + 2)
        else if ch2 == '{' || ch2 == '}' then brace (j + 1)
        else literalPart b raw top fuel (j + 2)
      else if ch == '{' || ch == '}' then brace j
      else literalPart b raw top fuel (j + 1)

/-- Scans the expression of a replacement field from `j` (just after its `{`) to where it ends:
a `!`, `:`, `=` or `}` outside brackets and strings (`!=`, `==`, `<=`, `>=`, `<`, `>` go on). -/
def fieldExprEnd (b : Array Char) : Nat → Nat → Option (Char × Nat) → List Char → Except String Nat
  | 0, _, _, _ => throw "f-string: expression too long"
  | fuel + 1, j, quote, stack =>
    if j ≥ b.size then
      if quote.isSome then throw "f-string: unterminated string"
      else if !stack.isEmpty then throw "f-string: unmatched bracket"
      else throw "f-string: expecting '\x7d'"
    else
      let ch := b.getD j ' '
      let chAt (k : Nat) : Char := b.getD k ' '
      if ch == '\\' then throw "f-string expression part cannot include a backslash"
      else match quote with
      | some (q, n) =>
        if ch == q then
          if n == 3 then
            if j + 2 < b.size && chAt (j + 1) == ch && chAt (j + 2) == ch then fieldExprEnd b fuel (j + 3) none stack
            else fieldExprEnd b fuel (j + 1) quote stack
          else fieldExprEnd b fuel (j + 1) none stack
        else fieldExprEnd b fuel (j + 1) quote stack
      | none =>
        if ch == '\'' || ch == '"' then
          if j + 2 < b.size && chAt (j + 1) == ch && chAt (j + 2) == ch then
            fieldExprEnd b fuel (j + 3) (some (ch, 3)) stack
          else fieldExprEnd b fuel (j + 1) (some (ch, 1)) stack
        else if ch == '[' || ch == '{' || ch == '(' then
          if stack.length ≥ maxNesting then throw "f-string: too many nested parenthesis"
          else fieldExprEnd b fuel (j + 1) none (ch :: stack)
        else if ch == '#' then throw "f-string expression part cannot include '#'"
        else if stack.isEmpty && "!:\x7d=<>".toList.contains ch then
          let next := chAt (j + 1)
          if j + 1 < b.size && next == '=' && "!=<>".toList.contains ch then
            fieldExprEnd b fuel (j + 2) none stack
          else if ch == '<' || ch == '>' then fieldExprEnd b fuel (j + 1) none stack
          else pure j
        else if ch == ']' || ch == '}' || ch == ')' then
          match stack with
          | o :: rest =>
            if (o == '(' && ch == ')') || (o == '[' && ch == ']') || (o == '{' && ch == '}') then
              fieldExprEnd b fuel (j + 1) none rest
            else throw "f-string: closing parenthesis does not match opening parenthesis"
          | [] => throw "f-string: unmatched bracket"
        else fieldExprEnd b fuel (j + 1) none stack

mutual

/-- The replacement fields of a formatted literal from `j` on, at nesting level `lvl`: their
expression texts, and where the scan stopped (the end, or a `}` closing a format spec). -/
def fieldsFrom (b : Array Char) (raw : Bool) (lvl : Nat) : Nat → Nat → Except String (List String × Nat)
  | 0, _ => throw "f-string: too long"
  | fuel + 1, j => do
    let (k, doubled) ← literalPart b raw (lvl == 0) b.size j
    let segEnd := if doubled then k - 1 else k
    if !raw && !escapesOk b false segEnd j then throw "(unicode error) malformed escape"
    else if doubled then fieldsFrom b raw lvl fuel k
    else if k ≥ b.size || b.getD k ' ' == '}' then pure ([], k)
    else
      let (texts, k) ← field b raw lvl fuel k
      let (rest, m) ← fieldsFrom b raw lvl fuel k
      pure (texts ++ rest, m)

/-- One replacement field, from its `{`: the texts of its expression and of the fields of its
format spec, and the position after its `}`. -/
def field (b : Array Char) (raw : Bool) (lvl : Nat) : Nat → Nat → Except String (List String × Nat)
  | 0, _ => throw "f-string: too long"
  | fuel + 1, j => do
    if lvl ≥ 2 then throw "f-string: expressions nested too deeply"
    let e ← fieldExprEnd b b.size (j + 1) none []
    let text := (b.extract (j + 1) e).toList
    if text.all fun c => c == ' ' || c == '\t' || c == '\n' || c == '\x0c' then
      throw "f-string: empty expression not allowed"
    let k := if b.getD e ' ' == '=' then skipWhile b isFieldBlank (e + 1) else e
    if k ≥ b.size then throw "f-string: expecting '\x7d'"
    let k ← if b.getD k ' ' == '!' then
        if k + 1 ≥ b.size then throw "f-string: expecting '\x7d'"
        else if "sra".toList.contains (b.getD (k + 1) ' ') then pure (k + 2)
        else throw "f-string: invalid conversion character: expected 's', 'r', or 'a'"
      else pure k
    let (spec, k) ← if k < b.size && b.getD k ' ' == ':' then
        if k + 1 ≥ b.size then throw "f-string: expecting '\x7d'"
        else fieldsFrom b raw (lvl + 1) fuel (k + 1)
      else pure ([], k)
    if k ≥ b.size || b.getD k ' ' != '}' then throw "f-string: expecting '\x7d'"
    pure (String.ofList text :: spec, k + 1)

end

/-- Checks a literal; for a formatted one, gives the texts of its replacement fields. -/
def Literal.check (l : Literal) : Except String (List String) :=
  if l.isBytes && l.body.any (·.toNat ≥ 128) then throw "bytes can only contain ASCII literal characters"
  else if l.isFormatted then do
    let (texts, k) ← fieldsFrom l.body l.isRaw 0 (l.body.size + 1) 0
    if k < l.body.size then throw "f-string: unexpected end of string" else pure texts
  else if !l.isRaw && !escapesOk l.body l.isBytes l.body.size 0 then throw "(unicode error) malformed escape"
  else pure []

end Outline

end PracticeForge
