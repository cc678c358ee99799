import PracticeForge.Machine.Shell.Syntax

/-!
# Machine/Shell/Read — reading a shell script into commands

The reader takes the script the way the POSIX shell `dash` does, one complete command (up to the
end of its line) at a time, so that a syntax error on a later line leaves the earlier lines run.

*Tokens.*  Blanks part tokens, `#` starts a comment where a token may start, and a backslash
before a new line joins the lines everywhere but inside single quotes.  The operators are new
line, `;`, `;;`, `&`, `&&`, `|`, `||`, `(` and `)`; a redirection is `<`, `>`, `>>`, `>|`, `<&`,
`>&`, `<>`, `<<` or `<<-`, with a single digit written right before it naming the descriptor.
The reserved words (`if`, `then`, `for`, `{`, `!` ...) are recognised only where a command may
start, and only when written without quoting.

*Words.*  Single quotes keep everything; double quotes keep everything but `$`, backquotes and
the backslash before `$`, a backquote, `"` or a backslash.  `$name`, `${...}`, `$(...)`,
backquotes and `$((...))` are kept as expansions.  Inside `${...}` blanks do not end the word.

*Commands.*  A list is and-or chains parted by `;`, `&` or new lines; an and-or chain is
pipelines joined by `&&` and `||`; a pipeline is commands joined by `|`, maybe after `!`.
Here-documents are read after the new line that ends their line, and kept in a table the
redirections point into.

A syntax error gives the line it was found on and the message the shell prints after
`Syntax error: `, such as `"fi" unexpected (expecting "then")`.
-/

namespace PracticeForge

namespace Machine

namespace Shell

/-- The tokens of a script. -/
inductive Tok where
  | eof
  | newline
  | semi
  | amp
  | andIf
  | orIf
  | pipe
  | lparen
  | rparen
  | dsemi
  | redir
  | word
  | bang
  | kwCase
  | kwDo
  | kwDone
  | kwElif
  | kwElse
  | kwEsac
  | kwFi
  | kwFor
  | kwIf
  | kwIn
  | kwThen
  | kwUntil
  | kwWhile
  | lbrace
  | rbrace
  deriving BEq, Repr, Inhabited

/-- How a syntax error names a token. -/
def Tok.name : Tok → String
  | .eof => "end of file"
  | .newline => "newline"
  | .semi => "\";\""
  | .amp => "\"&\""
  | .andIf => "\"&&\""
  | .orIf => "\"||\""
  | .pipe => "\"|\""
  | .lparen => "\"(\""
  | .rparen => "\")\""
  | .dsemi => "\";;\""
  | .redir => "redirection"
  | .word => "word"
  | .bang => "\"!\""
  | .kwCase => "\"case\""
  | .kwDo => "\"do\""
  | .kwDone => "\"done\""
  | .kwElif => "\"elif\""
  | .kwElse => "\"else\""
  | .kwEsac => "\"esac\""
  | .kwFi => "\"fi\""
  | .kwFor => "\"for\""
  | .kwIf => "\"if\""
  | .kwIn => "\"in\""
  | .kwThen => "\"then\""
  | .kwUntil => "\"until\""
  | .kwWhile => "\"while\""
  | .lbrace => "\"\x7b\""
  | .rbrace => "\"\x7d\""

/-- Whether a token ends a list of commands. -/
def Tok.endsList : Tok → Bool
  | .eof | .rparen | .dsemi | .kwDo | .kwDone | .kwElif | .kwElse | .kwEsac | .kwFi | .kwThen
  | .rbrace => true
  | _ => false

/-- The reserved word a word spells, if any. -/
def keyword? (w : Bytes) : Option Tok :=
  match String.fromUTF8? (Bytes.toArray w) with
  | some "!" => some .bang
  | some "case" => some .kwCase
  | some "do" => some .kwDo
  | some "done" => some .kwDone
  | some "elif" => some .kwElif
  | some "else" => some .kwElse
  | some "esac" => some .kwEsac
  | some "fi" => some .kwFi
  | some "for" => some .kwFor
  | some "if" => some .kwIf
  | some "in" => some .kwIn
  | some "then" => some .kwThen
  | some "until" => some .kwUntil
  | some "while" => some .kwWhile
  | some "\x7b" => some .lbrace
  | some "\x7d" => some .rbrace
  | _ => none

/-- A here-document whose body is still to be read. -/
structure HereMark where
  index : Nat
  mark : Bytes
  strip : Bool
  literal : Bool
  deriving Inhabited

/-- A syntax error: the line it was found on and its message. -/
structure ReadError where
  line : Nat
  message : String
  deriving Inhabited

/-- The state of a reading. -/
structure Reader where
  /-- The bytes not read yet. -/
  input : Bytes
  /-- The line being read. -/
  line : Nat
  /-- The last token read, read again when `pushed`. -/
  last : Tok := .eof
  pushed : Bool := false
  /-- The parts of the last word, and whether any of it was quoted. -/
  word : Word := []
  quoted : Bool := false
  /-- The last redirection read, its target still empty. -/
  redir : Redirect := default
  /-- Here-documents waiting for the end of their line. -/
  marks : List HereMark := []
  /-- The bodies of the here-documents read so far. -/
  bodies : Array Word := #[]
  deriving Inhabited

/-- A reading step: a result and the reader after it, or a syntax error. -/
abbrev ReadM (α : Type) := Except ReadError (α × Reader)

namespace Reader

/-- A syntax error at the reader's line. -/
def fail {α : Type} (r : Reader) (message : String) : ReadM α :=
  .error ⟨r.line, message⟩

/-- The error of an unexpected token, naming what was expected when known. -/
def unexpectedError (r : Reader) (expecting : Option Tok) : ReadError :=
  match expecting with
  | some t => ⟨r.line, r.last.name ++ " unexpected (expecting " ++ t.name ++ ")"⟩
  | none => ⟨r.line, r.last.name ++ " unexpected"⟩

/-- Fails on an unexpected token. -/
def unexpected {α : Type} (r : Reader) (expecting : Option Tok) : ReadM α :=
  .error (r.unexpectedError expecting)

/-- Skips joined lines: a backslash right before a new line. -/
def eatJoins (r : Reader) : Reader :=
  go r.input.length r
where
  go : Nat → Reader → Reader
    | 0, r => r
    | fuel + 1, r =>
      match r.input with
      | 92 :: 10 :: rest => go fuel { r with input := rest, line := r.line + 1 }
      | _ => r

/-- The next byte after joined lines, if any. -/
def peek (r : Reader) : Option UInt8 := (r.eatJoins).input.head?

/-- Drops one byte. -/
def drop1 (r : Reader) : Reader := { r with input := r.input.drop 1 }

end Reader

/-- Adds bytes to a word, joining them to a last literal part of the same quoting. -/
def pushLit (w : Word) (bs : Bytes) (quoted : Bool) : Word :=
  if bs.isEmpty then w
  else
    match w.reverse with
    | .lit prev q :: rest => if q == quoted then (.lit (prev ++ bs) q :: rest).reverse else w ++ [.lit bs quoted]
    | _ => w ++ [.lit bs quoted]

/-- Whether a byte is one of the special parameters `! # $ * - ? @` or a digit. -/
def isSpecialParam (b : UInt8) : Bool :=
  b == 33 || b == 35 || b == 36 || b == 42 || b == 45 || b == 63 || b == 64 || Bytes.isDigit b

/-- Whether a byte ends an unquoted word: a blank, a new line, or an operator byte. -/
def endsWord (b : UInt8) : Bool :=
  b == 32 || b == 9 || b == 10 || b == 59 || b == 38 || b == 124 || b == 60 || b == 62 ||
    b == 40 || b == 41

/-- The context a piece of a word is read in. -/
inductive Ctx where
  /-- Unquoted; `inVar` inside `${...}`, where blanks and operators do not end the word. -/
  | base (inVar : Bool)
  /-- Inside double quotes, or the word of `${...}` within them. -/
  | double (inVar : Bool)
  /-- An unquoted here-document body. -/
  | here
  deriving BEq

/-- Whether parts read in a context are quoted. -/
def Ctx.quoted : Ctx → Bool
  | .base _ => false
  | _ => true

/-- Whether a context is inside `${...}`. -/
def Ctx.inVar : Ctx → Bool
  | .base v | .double v => v
  | .here => false

/-- Reads the rest of a single-quoted piece: its bytes, the rest after the closing quote and the
line reached. -/
def singleQuoted : Bytes → Bytes → Nat → Option (Bytes × Bytes × Nat)
  | [], _, _ => none
  | 39 :: rest, acc, line => some (acc.reverse, rest, line)
  | c :: rest, acc, line => singleQuoted rest (c :: acc) (if c == 10 then line + 1 else line)

/-- Reads a name, continuing the bytes already taken. -/
def readName (r : Reader) (acc : Bytes) : Bytes × Reader :=
  go r.input.length r acc
where
  go : Nat → Reader → Bytes → Bytes × Reader
    | 0, r, acc => (acc, r)
    | fuel + 1, r, acc =>
      let r := r.eatJoins
      match r.input with
      | c :: rest => if Bytes.isNameByte c then go fuel { r with input := rest } (acc ++ [c]) else (acc, r)
      | [] => (acc, r)

/-- Reads digits, continuing the ones already taken. -/
def readDigits (r : Reader) (acc : Bytes) : Bytes × Reader :=
  go r.input.length r acc
where
  go : Nat → Reader → Bytes → Bytes × Reader
    | 0, r, acc => (acc, r)
    | fuel + 1, r, acc =>
      let r := r.eatJoins
      match r.input with
      | c :: rest => if Bytes.isDigit c then go fuel { r with input := rest } (acc ++ [c]) else (acc, r)
      | [] => (acc, r)

/-- The text of a backquoted command up to the closing backquote, its backslashes read; the
rest after it and the line reached. -/
def backquoted : Nat → Bool → Bytes → Bytes → Nat → Option (Bytes × Bytes × Nat)
  | 0, _, _, _, _ => none
  | fuel + 1, dq, input, acc, line =>
    match input with
    | [] => none
    | 92 :: 10 :: rest => backquoted fuel dq rest acc (line + 1)
    | 96 :: rest => some (acc.reverse, rest, line)
    | 92 :: c :: rest =>
      if c == 92 || c == 96 || c == 36 || (dq && c == 34) then backquoted fuel dq rest (c :: acc) line
      else backquoted fuel dq rest (c :: 92 :: acc) (if c == 10 then line + 1 else line)
    | c :: rest => backquoted fuel dq rest (c :: acc) (if c == 10 then line + 1 else line)

/-- The body of a here-document from the reader's position: its lines up to the one that is
the mark (leading tabs dropped first when `strip`), and the reader after that line. -/
def hereBody : Nat → HereMark → Reader → Bytes → Bytes × Reader
  | 0, _, r, acc => (acc, r)
  | fuel + 1, m, r, acc =>
    match r.input with
    | [] => (acc, r)
    | _ =>
      let lineBytes := r.input.takeWhile (· != 10)
      let rest := r.input.drop (lineBytes.length + 1)
      let hasNewline := r.input.length > lineBytes.length
      let shown := if m.strip then lineBytes.dropWhile (· == 9) else lineBytes
      let r2 := { r with input := rest, line := r.line + 1 }
      if shown == m.mark then (acc, r2)
      else hereBody fuel m r2 (acc ++ shown ++ (if hasNewline then [10] else []))

/-- Whether a word is an assignment: a name, then `=`, written without quoting. -/
def isAssignment (w : Word) : Bool :=
  match w with
  | .lit bs false :: _ =>
    let name := bs.takeWhile (· != 61)
    name.length < bs.length && Bytes.isName name
  | _ => false

/-- The builtins a function may not be named after. -/
def isSpecialBuiltin (name : Bytes) : Bool :=
  ["break", ":", "continue", ".", "eval", "exec", "exit", "export", "readonly", "return", "set",
    "shift", "times", "trap", "unset"].any fun n => Bytes.ofString n == name

mutual

/-- Reads the parts of a word, or of a piece of one, in a context: unquoted up to a byte that
ends it; inside `${...}` up to the closing brace (consumed); inside double quotes up to the
closing quote (consumed); in a here-document to the end of the input. -/
def readParts (fuel : Nat) (ctx : Ctx) (eofMark : Bool) (acc : Word) (quoted : Bool) (r : Reader) :
    Except ReadError (Word × Bool × Reader) :=
  match fuel with
  | 0 => .error ⟨r.line, "script too complex"⟩
  | fuel + 1 =>
    let r := r.eatJoins
    match r.input with
    | [] =>
      match ctx with
      | .base false | .here => .ok (acc, quoted, r)
      | .base true => .error ⟨r.line, "Missing '\x7d'"⟩
      | .double _ => .error ⟨r.line, "Unterminated quoted string"⟩
    | c :: rest =>
      let r1 := { r with input := rest }
      -- the end of the piece
      if ctx == .base false && endsWord c then .ok (acc, quoted, r)
      else if ctx.inVar && c == 125 then .ok (acc, quoted, r1)
      else if (ctx == .double false || ctx == .double true) && c == 34 then
        if ctx.inVar then
          -- a quote inside `${...}` within quotes opens a quoted piece of the word
          match readParts fuel (.double false) false acc true r1 with
          | .ok (w, _, r2) => readParts fuel ctx eofMark w true r2
          | .error e => .error e
        else .ok (acc, true, r1)
      else if c == 10 then
        readParts fuel ctx eofMark (pushLit acc [10] ctx.quoted) quoted { r1 with line := r.line + 1 }
      else if c == 92 then
        match rest with
        | [] => .ok (pushLit acc [92] true, true, r1)
        | d :: rest' =>
          let r2 := { r with input := rest' }
          match ctx with
          | .base _ => readParts fuel ctx eofMark (pushLit acc [d] true) true (if d == 10 then { r2 with line := r.line + 1 } else r2)
          | .double inVar =>
            if d == 92 || d == 96 || d == 36 || d == 34 || (inVar && d == 125) then
              readParts fuel ctx eofMark (pushLit acc [d] true) true r2
            else readParts fuel ctx eofMark (pushLit acc [92] true) true r1
          | .here =>
            if d == 92 || d == 96 || d == 36 then readParts fuel ctx eofMark (pushLit acc [d] true) true r2
            else readParts fuel ctx eofMark (pushLit acc [92] true) true r1
      else if c == 39 && (match ctx with | .base _ => true | _ => false) then
        match singleQuoted rest [] r.line with
        | some (bs, rest', line) =>
          let acc := if bs.isEmpty then acc ++ [.emptyQuote] else pushLit acc bs true
          readParts fuel ctx eofMark acc true { r with input := rest', line := line }
        | none => .error ⟨r.line, "Unterminated quoted string"⟩
      else if c == 34 && (match ctx with | .base _ => true | _ => false) then
        match readParts fuel (.double false) false [] true r1 with
        | .ok (inner, _, r2) =>
          let acc := if inner.isEmpty then acc ++ [.emptyQuote] else acc ++ inner
          readParts fuel ctx eofMark acc true r2
        | .error e => .error e
      else if c == 36 && !eofMark then
        match readDollar fuel ctx.quoted r1 with
        | .ok (parts, r2) => readParts fuel ctx eofMark (acc ++ parts) quoted r2
        | .error e => .error e
      else if c == 96 && !eofMark then
        match readBackquote fuel ctx.quoted r1 with
        | .ok (part, r2) => readParts fuel ctx eofMark (acc ++ [part]) quoted r2
        | .error e => .error e
      else readParts fuel ctx eofMark (pushLit acc [c] ctx.quoted) quoted r1

/-- Reads what follows a `$`: a parameter, a command substitution or an arithmetic expansion;
a `$` before anything else stands for itself. -/
def readDollar (fuel : Nat) (quoted : Bool) (r : Reader) : Except ReadError (Word × Reader) :=
  match fuel with
  | 0 => .error ⟨r.line, "script too complex"⟩
  | fuel + 1 =>
    let r := r.eatJoins
    match r.input with
    | 40 :: rest =>
      let r1 := ({ r with input := rest } : Reader).eatJoins
      match r1.input with
      | 40 :: rest' =>
        match readArith fuel 0 [] { r1 with input := rest' } with
        | .ok (expr, r2) => .ok ([.arith expr quoted], r2)
        | .error e => .error e
      | _ =>
        match readSubstitution fuel r1 with
        | .ok (src, r2) => .ok ([.command src r.line quoted], r2)
        | .error e => .error e
    | 123 :: rest => readBraced fuel quoted { r with input := rest }
    | c :: rest =>
      if Bytes.isNameStart c then
        let (name, r2) := readName { r with input := rest } [c]
        .ok ([.param name .plain [] quoted], r2)
      else if isSpecialParam c then .ok ([.param [c] .plain [] quoted], { r with input := rest })
      else .ok ([.lit [36] quoted], r)
    | [] => .ok ([.lit [36] quoted], r)

/-- Reads `${...}` after the brace: the name, the operator and the word up to the closing
brace. -/
def readBraced (fuel : Nat) (quoted : Bool) (r : Reader) : Except ReadError (Word × Reader) :=
  match fuel with
  | 0 => .error ⟨r.line, "script too complex"⟩
  | fuel + 1 =>
    let r := r.eatJoins
    -- the name, and whether `#` asked for the length
    let named : Option (Bytes × Bool × Reader) :=
      match r.input with
      | c :: rest =>
        if Bytes.isNameStart c then
          let (n, r2) := readName { r with input := rest } [c]
          some (n, false, r2)
        else if Bytes.isDigit c then
          let (n, r2) := readDigits { r with input := rest } [c]
          some (n, false, r2)
        else if c == 35 then
          let r2 := ({ r with input := rest } : Reader).eatJoins
          match r2.input with
          | d :: rest2 =>
            if Bytes.isNameStart d then
              let (n, r3) := readName { r2 with input := rest2 } [d]
              some (n, true, r3)
            else if Bytes.isDigit d then
              let (n, r3) := readDigits { r2 with input := rest2 } [d]
              some (n, true, r3)
            else
              -- `${#}` is the count; `${#x}` for a special `x` is its length
              let r3 := ({ r2 with input := rest2 } : Reader).eatJoins
              if d != 125 && r3.input.head? == some 125 && isSpecialParam d then some ([d], true, r3)
              else some ([35], false, r2)
          | [] => some ([35], false, r2)
        else if c != 125 && isSpecialParam c then some ([c], false, { r with input := rest })
        else none
      | [] => none
    match named with
    | none =>
      -- a bad substitution: its text up to the closing brace is skipped
      match readParts fuel (.base true) false [] false r with
      | .ok (_, _, r2) => .ok ([.param [] .bad [] quoted], r2)
      | .error e => .error e
    | some (name, true, r2) =>
      match (r2.eatJoins).input with
      | 125 :: rest => .ok ([.param name .length [] quoted], { r2.eatJoins with input := rest })
      | _ =>
        match readParts fuel (.base true) false [] false r2 with
        | .ok (_, _, r3) => .ok ([.param name .bad [] quoted], r3)
        | .error e => .error e
    | some (name, false, r2) =>
      let r2 := r2.eatJoins
      match r2.input with
      | 125 :: rest => .ok ([.param name .plain [] quoted], { r2 with input := rest })
      | c :: rest =>
        let r3 : Reader := { r2 with input := rest }
        let (colon, c', r4) : Bool × Option UInt8 × Reader :=
          if c == 58 then
            let r4 := r3.eatJoins
            (true, r4.input.head?, r4.drop1)
          else (false, some c, r3)
        let op : Option ParamOp :=
          match c' with
          | some 45 => some (.orDefault colon)
          | some 61 => some (.orAssign colon)
          | some 63 => some (.orFail colon)
          | some 43 => some (.ifSet colon)
          | some 37 => if colon then none else some .dropSuffix
          | some 35 => if colon then none else some .dropPrefix
          | some 125 => if colon then none else some .plain
          | _ => none
        match op with
        | some .dropSuffix | some .dropPrefix =>
          let r5 := r4.eatJoins
          let (op, r5) := match op, r5.input with
            | some .dropSuffix, 37 :: rest' => (ParamOp.dropLongSuffix, { r5 with input := rest' })
            | some .dropPrefix, 35 :: rest' => (ParamOp.dropLongPrefix, { r5 with input := rest' })
            | some o, _ => (o, r5)
            | none, _ => (ParamOp.bad, r5)
          match readParts fuel (.base true) false [] false r5 with
          | .ok (w, _, r6) => .ok ([.param name op w quoted], r6)
          | .error e => .error e
        | some op =>
          match readParts fuel (if quoted then .double true else .base true) false [] false r4 with
          | .ok (w, _, r6) => .ok ([.param name op w quoted], r6)
          | .error e => .error e
        | none =>
          match readParts fuel (.base true) false [] false (if colon then r4 else r4) with
          | .ok (_, _, r6) => .ok ([.param name .bad [] quoted], r6)
          | .error e => .error e
      | [] => .error ⟨r2.line, "Missing '\x7d'"⟩

/-- Reads the expression of `$((...))` up to the closing `))`, counting parentheses. -/
def readArith (fuel : Nat) (depth : Nat) (acc : Word) (r : Reader) : Except ReadError (Word × Reader) :=
  match fuel with
  | 0 => .error ⟨r.line, "script too complex"⟩
  | fuel + 1 =>
    let r := r.eatJoins
    match r.input with
    | [] => .error ⟨r.line, "Missing '))'"⟩
    | c :: rest =>
      let r1 : Reader := { r with input := rest }
      if c == 40 then readArith fuel (depth + 1) (pushLit acc [40] false) r1
      else if c == 41 then
        if depth > 0 then readArith fuel (depth - 1) (pushLit acc [41] false) r1
        else
          match (r1.eatJoins).input with
          | 41 :: rest' => .ok (acc, { r1.eatJoins with input := rest' })
          | _ => readArith fuel depth (pushLit acc [41] false) r1
      else if c == 10 then readArith fuel depth (pushLit acc [10] false) { r1 with line := r.line + 1 }
      else if c == 92 then
        match rest with
        | d :: rest' => readArith fuel depth (pushLit acc [d] true) { r with input := rest' }
        | [] => readArith fuel depth (pushLit acc [92] false) r1
      else if c == 36 then
        match readDollar fuel false r1 with
        | .ok (parts, r2) => readArith fuel depth (acc ++ parts) r2
        | .error e => .error e
      else if c == 96 then
        match readBackquote fuel false r1 with
        | .ok (part, r2) => readArith fuel depth (acc ++ [part]) r2
        | .error e => .error e
      else readArith fuel depth (pushLit acc [c] false) r1

/-- Reads `$(...)` after its parenthesis: a list of commands and the closing parenthesis.
Gives the source between them. -/
def readSubstitution (fuel : Nat) (r : Reader) : Except ReadError (Bytes × Reader) :=
  match fuel with
  | 0 => .error ⟨r.line, "script too complex"⟩
  | fuel + 1 =>
    let inner : Reader := { r with pushed := false, marks := [], bodies := #[] }
    match listFrom fuel 2 none inner with
    | .ok (_, r2) =>
      match readToken fuel false false r2 with
      | .ok (.rparen, r3) =>
        let consumed := r.input.length - r3.input.length
        .ok (r.input.take (consumed - 1), { r3 with marks := r.marks, bodies := r.bodies, pushed := false })
      | .ok (_, r3) => .error (r3.unexpectedError (some .rparen))
      | .error e => .error e
    | .error e => .error e

/-- Reads a backquoted command after the opening backquote, up to the closing one: a backslash
keeps its meaning only before `$`, a backquote, another backslash, or (within double quotes)
`"`.  The command must read as a script. -/
def readBackquote (fuel : Nat) (quoted : Bool) (r : Reader) : Except ReadError (Part × Reader) :=
  match fuel with
  | 0 => .error ⟨r.line, "script too complex"⟩
  | fuel + 1 =>
    match backquoted r.input.length quoted r.input [] r.line with
    | none => .error ⟨r.line, "EOF in backquote substitution"⟩
    | some (src, rest, line) =>
      match checkScript fuel { input := src, line := r.line } with
      | .ok _ => .ok (.command src r.line quoted, { r with input := rest, line := line })
      | .error e => .error e

/-- Whether a whole text reads as commands, line after line. -/
def checkScript (fuel : Nat) (r : Reader) : Except ReadError Unit :=
  match fuel with
  | 0 => .error ⟨r.line, "script too complex"⟩
  | fuel + 1 =>
    match listFrom fuel 1 none r with
    | .ok (_, r2) =>
      match readToken fuel false false r2 with
      | .ok (.eof, _) => .ok ()
      | .ok (.newline, r3) => checkScript fuel { r3 with pushed := false }
      | .ok (_, r3) => .error (r3.unexpectedError none)
      | .error e => .error e
    | .error e => .error e

/-- Reads the next token, skipping new lines first when `skipLines`, and recognising reserved
words when `keywords`. -/
def readToken (fuel : Nat) (keywords skipLines : Bool) (r : Reader) : ReadM Tok :=
  match fuel with
  | 0 => .error ⟨r.line, "script too complex"⟩
  | fuel + 1 =>
    match rawToken fuel false r with
    | .error e => .error e
    | .ok (t, r) =>
      if skipLines && t == .newline then
        match hereBodies fuel r with
        | .ok r => readToken fuel keywords skipLines { r with pushed := false }
        | .error e => .error e
      else if t == .word && keywords && !r.quoted then
        match r.word with
        | [.lit bs false] =>
          match keyword? bs with
          | some k => .ok (k, { r with last := k })
          | none => .ok (t, r)
        | _ => .ok (t, r)
      else .ok (t, r)

/-- Reads a token without looking for reserved words; `eofMark` keeps `$` and backquotes
literal, as in the mark of a here-document. -/
def rawToken (fuel : Nat) (eofMark : Bool) (r : Reader) : ReadM Tok :=
  match fuel with
  | 0 => .error ⟨r.line, "script too complex"⟩
  | fuel + 1 =>
    if r.pushed then .ok (r.last, { r with pushed := false })
    else
      let r := r.eatJoins
      let tok (t : Tok) (r : Reader) : ReadM Tok := .ok (t, { r with last := t })
      match r.input with
      | [] => tok .eof r
      | 32 :: rest | 9 :: rest => rawToken fuel eofMark { r with input := rest }
      | 35 :: rest => rawToken fuel eofMark { r with input := rest.dropWhile (· != 10) }
      | 10 :: rest => tok .newline { r with input := rest, line := r.line + 1 }
      | 38 :: rest =>
        let r1 := ({ r with input := rest } : Reader).eatJoins
        match r1.input with
        | 38 :: rest' => tok .andIf { r1 with input := rest' }
        | _ => tok .amp r1
      | 124 :: rest =>
        let r1 := ({ r with input := rest } : Reader).eatJoins
        match r1.input with
        | 124 :: rest' => tok .orIf { r1 with input := rest' }
        | _ => tok .pipe r1
      | 59 :: rest =>
        let r1 := ({ r with input := rest } : Reader).eatJoins
        match r1.input with
        | 59 :: rest' => tok .dsemi { r1 with input := rest' }
        | _ => tok .semi r1
      | 40 :: rest => tok .lparen { r with input := rest }
      | 41 :: rest => tok .rparen { r with input := rest }
      | _ =>
        match readParts fuel (.base false) eofMark [] false r with
        | .error e => .error e
        | .ok (w, quoted, r2) =>
          let r2 := r2.eatJoins
          let fd? : Option (Option Nat) :=
            if quoted then none
            else match w with
              | [] => some none
              | [.lit [d] false] => if Bytes.isDigit d then some (some (d.toNat - 48)) else none
              | _ => none
          match fd?, r2.input with
          | some fd, 62 :: rest =>
            let r3 := ({ r2 with input := rest } : Reader).eatJoins
            let (kind, r4) : RedirKind × Reader := match r3.input with
              | 62 :: rest' => (.append, { r3 with input := rest' })
              | 124 :: rest' => (.clobber, { r3 with input := rest' })
              | 38 :: rest' => (.dupOut, { r3 with input := rest' })
              | _ => (.output, r3)
            tok .redir { r4 with redir := ⟨fd.getD 1, kind, []⟩ }
          | some fd, 60 :: rest =>
            let r3 := ({ r2 with input := rest } : Reader).eatJoins
            let (kind, r4) : RedirKind × Reader := match r3.input with
              | 60 :: rest' =>
                let r5 := ({ r3 with input := rest' } : Reader).eatJoins
                match r5.input with
                | 45 :: rest'' => (.here true, { r5 with input := rest'' })
                | _ => (.here false, r5)
              | 38 :: rest' => (.dupIn, { r3 with input := rest' })
              | 62 :: rest' => (.readWrite, { r3 with input := rest' })
              | _ => (.input, r3)
            tok .redir { r4 with redir := ⟨fd.getD 0, kind, []⟩ }
          | _, _ => tok .word { r2 with word := w, quoted := quoted }

/-- Reads the bodies of the here-documents waiting for the end of their line. -/
def hereBodies (fuel : Nat) (r : Reader) : Except ReadError Reader :=
  match fuel with
  | 0 => .error ⟨r.line, "script too complex"⟩
  | fuel + 1 =>
    match r.marks with
    | [] => .ok r
    | m :: more =>
      let (body, r2) := hereBody r.input.length m r []
      let parts : Except ReadError Word :=
        if m.literal then .ok (if body.isEmpty then [] else [.lit body true])
        else
          match readParts fuel .here false [] true { r2 with input := body, line := r.line } with
          | .ok (w, _, _) => .ok w
          | .error e => .error e
      match parts with
      | .ok w =>
        let bodies := if m.index < r2.bodies.size then r2.bodies.set! m.index w else r2.bodies.push w
        hereBodies fuel { r2 with marks := more, bodies := bodies }
      | .error e => .error e

/-- The rest of a list of commands parted by `;`, `&` or new lines, after the commands `acc`.
`nlFlag` is 1 at the top of a script, where a new line ends the list; 2 where an ending token
may come at once; 0 elsewhere. -/
def listFrom : Nat → Nat → Option Command → Reader → ReadM (Option Command)
  | 0, _, _, r => .error ⟨r.line, "script too complex"⟩
  | fuel + 1, nlFlag, acc, r =>
    let skipLines := nlFlag % 2 == 0
    match readToken fuel true skipLines r with
    | .error e => .error e
    | .ok (.newline, r1) =>
      match hereBodies fuel r1 with
      | .ok r2 => .ok (acc, r2)
      | .error e => .error e
    | .ok (.eof, r1) =>
      match hereBodies fuel r1 with
      | .ok r2 => .ok (acc, { r2 with pushed := true, last := .eof })
      | .error e => .error e
    | .ok (t, r1) =>
      let r1 := { r1 with pushed := true }
      if nlFlag == 2 && t.endsList then .ok (acc, r1)
      else
        match andOr fuel r1 with
        | .error e => .error e
        | .ok (c, r2) =>
          match readToken fuel false false r2 with
          | .error e => .error e
          | .ok (t2, r3) =>
            let c := if t2 == .amp then Command.background c else c
            let acc := some (match acc with
              | some a => Command.seq a c
              | none => c)
            match t2 with
            | .eof =>
              match hereBodies fuel r3 with
              | .ok r4 => .ok (acc, { r4 with pushed := true, last := .eof })
              | .error e => .error e
            | .newline => listFrom fuel (nlFlag ||| 2) acc { r3 with pushed := true }
            | .amp | .semi => listFrom fuel (nlFlag ||| 2) acc r3
            | _ =>
              if nlFlag % 2 == 1 then r3.unexpected none
              else .ok (acc, { r3 with pushed := true })

/-- Pipelines joined by `&&` and `||`. -/
def andOr (fuel : Nat) (r : Reader) : ReadM Command :=
  match fuel with
  | 0 => .error ⟨r.line, "script too complex"⟩
  | fuel + 1 =>
    match pipeline fuel r with
    | .error e => .error e
    | .ok (first, r1) => andOrTail fuel first r1

/-- The rest of an and-or chain after its first pipeline. -/
def andOrTail (fuel : Nat) (acc : Command) (r : Reader) : ReadM Command :=
  match fuel with
  | 0 => .error ⟨r.line, "script too complex"⟩
  | fuel + 1 =>
    match readToken fuel false false r with
    | .error e => .error e
    | .ok (t, r1) =>
      if t == .andIf || t == .orIf then
        match readToken fuel true true r1 with
        | .error e => .error e
        | .ok (_, r2) =>
          match pipeline fuel { r2 with pushed := true } with
          | .error e => .error e
          | .ok (next, r3) =>
            andOrTail fuel (if t == .andIf then .andThen acc next else .orElse acc next) r3
      else .ok (acc, { r1 with pushed := true })

/-- Commands joined by `|`, maybe after `!`. -/
def pipeline (fuel : Nat) (r : Reader) : ReadM Command :=
  match fuel with
  | 0 => .error ⟨r.line, "script too complex"⟩
  | fuel + 1 =>
    match readToken fuel true false r with
    | .error e => .error e
    | .ok (t, r1) =>
      let (negated, r1) := if t == .bang then (true, r1) else (false, { r1 with pushed := true })
      let r1 := if negated then r1 else r1
      match (if negated then readToken fuel true false r1 else .ok (t, { r1 with pushed := false })) with
      | .error e => .error e
      | .ok (_, r2) =>
        match command fuel { r2 with pushed := true } with
        | .error e => .error e
        | .ok (first, r3) =>
          match pipeTail fuel [first] r3 with
          | .error e => .error e
          | .ok (cmds, r4) =>
            match cmds, negated with
            | [c], false => .ok (c, r4)
            | cs, n => .ok (.pipeline n cs, r4)

/-- The commands after the first of a pipeline. -/
def pipeTail (fuel : Nat) (acc : List Command) (r : Reader) : ReadM (List Command) :=
  match fuel with
  | 0 => .error ⟨r.line, "script too complex"⟩
  | fuel + 1 =>
    match readToken fuel false false r with
    | .error e => .error e
    | .ok (.pipe, r1) =>
      match readToken fuel true true r1 with
      | .error e => .error e
      | .ok (_, r2) =>
        match command fuel { r2 with pushed := true } with
        | .error e => .error e
        | .ok (c, r3) => pipeTail fuel (acc ++ [c]) r3
    | .ok (_, r1) => .ok (acc, { r1 with pushed := true })

/-- One command: a compound command with its redirections, a function definition, or a simple
command. -/
def command (fuel : Nat) (r : Reader) : ReadM Command :=
  match fuel with
  | 0 => .error ⟨r.line, "script too complex"⟩
  | fuel + 1 =>
    let line := r.line
    match readToken fuel true false r with
    | .error e => .error e
    | .ok (t, r1) =>
      let closing (c : Command) (closer : Tok) (r : Reader) : ReadM Command :=
        match readToken fuel true false r with
        | .error e => .error e
        | .ok (t, r2) => if t == closer then redirects fuel c r2 else r2.unexpected (some closer)
      match t with
      | .kwIf =>
        match ifTail fuel r1 with
        | .error e => .error e
        | .ok (c, r2) => closing c .kwFi r2
      | .kwWhile | .kwUntil =>
        match listFrom fuel 0 none r1 with
        | .error e => .error e
        | .ok (cond, r2) =>
          match readToken fuel true false r2 with
          | .error e => .error e
          | .ok (.kwDo, r3) =>
            match listFrom fuel 0 none r3 with
            | .error e => .error e
            | .ok (body, r4) =>
              closing (.loop (t == .kwUntil) (cond.getD .empty) (body.getD .empty)) .kwDone r4
          | .ok (_, r3) => r3.unexpected (some .kwDo)
      | .kwFor =>
        match readToken fuel false false r1 with
        | .error e => .error e
        | .ok (t2, r2) =>
          let name := match r2.word with
            | [.lit bs false] => if Bytes.isName bs then some bs else none
            | _ => none
          match t2, name with
          | .word, some name =>
            match readToken fuel true true r2 with
            | .error e => .error e
            | .ok (.kwIn, r3) =>
              match forWords fuel [] r3 with
              | .error e => .error e
              | .ok (ws, r4) =>
                if r4.last != .newline && r4.last != .semi then r4.unexpected none
                else forBody fuel line name (some ws) r4
            | .ok (t3, r3) =>
              forBody fuel line name none (if t3 == .semi then r3 else { r3 with pushed := true })
          | _, _ => r2.fail "Bad for loop variable"
      | .kwCase =>
        match readToken fuel false false r1 with
        | .error e => .error e
        | .ok (.word, r2) =>
          let subject := r2.word
          match readToken fuel true true r2 with
          | .error e => .error e
          | .ok (.kwIn, r3) =>
            match caseArms fuel [] r3 with
            | .error e => .error e
            | .ok (arms, r4) => redirects fuel (.caseOf line subject arms) r4
          | .ok (_, r3) => r3.unexpected (some .kwIn)
        | .ok (_, r2) => r2.unexpected (some .word)
      | .lparen =>
        match listFrom fuel 0 none r1 with
        | .error e => .error e
        | .ok (body, r2) => closing (.subshell line (body.getD .empty)) .rparen r2
      | .lbrace =>
        match listFrom fuel 0 none r1 with
        | .error e => .error e
        | .ok (body, r2) => closing (body.getD .empty) .rbrace r2
      | .word | .redir => simple fuel line [] [] [] { r1 with pushed := true }
      | _ => r1.unexpected none

/-- The redirections after a compound command. -/
def redirects (fuel : Nat) (c : Command) (r : Reader) : ReadM Command :=
  match fuel with
  | 0 => .error ⟨r.line, "script too complex"⟩
  | fuel + 1 =>
    match redirList fuel [] r with
    | .error e => .error e
    | .ok (rs, r1) => .ok ((if rs.isEmpty then c else .redirected c rs), r1)

/-- Redirections as long as they come. -/
def redirList (fuel : Nat) (acc : List Redirect) (r : Reader) : ReadM (List Redirect) :=
  match fuel with
  | 0 => .error ⟨r.line, "script too complex"⟩
  | fuel + 1 =>
    match readToken fuel true false r with
    | .error e => .error e
    | .ok (.redir, r1) =>
      match fileName fuel r1 with
      | .error e => .error e
      | .ok (rd, r2) => redirList fuel (acc ++ [rd]) r2
    | .ok (_, r1) => .ok (acc, { r1 with pushed := true })

/-- The target of the redirection just read: a word, or the mark of a here-document. -/
def fileName (fuel : Nat) (r : Reader) : ReadM Redirect :=
  match fuel with
  | 0 => .error ⟨r.line, "script too complex"⟩
  | fuel + 1 =>
    let rd := r.redir
    let isHere := match rd.kind with
      | .here _ => true
      | _ => false
    match (if isHere then rawToken fuel true r else readToken fuel false false r) with
    | .error e => .error e
    | .ok (.word, r1) =>
      match rd.kind with
      | .here strip =>
        let mark := r1.word.foldl (fun acc p => match p with
          | .lit bs _ => acc ++ bs
          | _ => acc) []
        let index := r1.bodies.size + r1.marks.length
        let hm : HereMark := ⟨index, mark, strip, r1.quoted⟩
        .ok ({ rd with kind := .here strip, target := [.lit (Bytes.ofNat index) false] ++
          (if r1.quoted then [.emptyQuote] else []) }, { r1 with marks := r1.marks ++ [hm] })
      | _ => .ok ({ rd with target := r1.word }, r1)
    | .ok (_, r1) => r1.unexpected none

/-- The rest of an `if` after the keyword: the condition, `then` and its list, and any `elif`
and `else` parts; the closing `fi` is left to read. -/
def ifTail (fuel : Nat) (r : Reader) : ReadM Command :=
  match fuel with
  | 0 => .error ⟨r.line, "script too complex"⟩
  | fuel + 1 =>
    match listFrom fuel 0 none r with
    | .error e => .error e
    | .ok (cond, r1) =>
      match readToken fuel true false r1 with
      | .error e => .error e
      | .ok (.kwThen, r2) =>
        match listFrom fuel 0 none r2 with
        | .error e => .error e
        | .ok (thenPart, r3) =>
          match readToken fuel true false r3 with
          | .error e => .error e
          | .ok (.kwElif, r4) =>
            match ifTail fuel r4 with
            | .error e => .error e
            | .ok (inner, r5) => .ok (.ifThen (cond.getD .empty) (thenPart.getD .empty) (some inner), r5)
          | .ok (.kwElse, r4) =>
            match listFrom fuel 0 none r4 with
            | .error e => .error e
            | .ok (elsePart, r5) =>
              .ok (.ifThen (cond.getD .empty) (thenPart.getD .empty) (some (elsePart.getD .empty)), r5)
          | .ok (_, r4) => .ok (.ifThen (cond.getD .empty) (thenPart.getD .empty) none, { r4 with pushed := true })
      | .ok (_, r2) => r2.unexpected (some .kwThen)

/-- The words after `for name in`, up to the token that ends them. -/
def forWords (fuel : Nat) (acc : List Word) (r : Reader) : ReadM (List Word) :=
  match fuel with
  | 0 => .error ⟨r.line, "script too complex"⟩
  | fuel + 1 =>
    match readToken fuel false false r with
    | .error e => .error e
    | .ok (.word, r1) => forWords fuel (acc ++ [r1.word]) r1
    | .ok (_, r1) => .ok (acc, r1)

/-- The `do ... done` of a `for`. -/
def forBody (fuel : Nat) (line : Nat) (name : Bytes) (ws : Option (List Word)) (r : Reader) : ReadM Command :=
  match fuel with
  | 0 => .error ⟨r.line, "script too complex"⟩
  | fuel + 1 =>
    match readToken fuel true true r with
    | .error e => .error e
    | .ok (.kwDo, r1) =>
      match listFrom fuel 0 none r1 with
      | .error e => .error e
      | .ok (body, r2) =>
        match readToken fuel true false r2 with
        | .error e => .error e
        | .ok (.kwDone, r3) => redirects fuel (.forIn line name ws (body.getD .empty)) r3
        | .ok (_, r3) => r3.unexpected (some .kwDone)
    | .ok (_, r1) => r1.unexpected (some .kwDo)

/-- The arms of a `case` after `in`, through `esac`. -/
def caseArms (fuel : Nat) (acc : List (List Word × Command)) (r : Reader) :
    ReadM (List (List Word × Command)) :=
  match fuel with
  | 0 => .error ⟨r.line, "script too complex"⟩
  | fuel + 1 =>
    match readToken fuel true true r with
    | .error e => .error e
    | .ok (.kwEsac, r1) => .ok (acc, r1)
    | .ok (t, r1) =>
      let start : ReadM Tok := if t == .lparen then readToken fuel false false r1 else .ok (t, r1)
      match start with
      | .error e => .error e
      | .ok (_, r2) =>
        match casePatterns fuel [r2.word] r2 with
        | .error e => .error e
        | .ok (pats, r3) =>
          if r3.last != .rparen then r3.unexpected (some .rparen)
          else
            match listFrom fuel 2 none r3 with
            | .error e => .error e
            | .ok (body, r4) =>
              let acc := acc ++ [(pats, body.getD .empty)]
              match readToken fuel true true r4 with
              | .error e => .error e
              | .ok (.kwEsac, r5) => .ok (acc, r5)
              | .ok (.dsemi, r5) => caseArms fuel acc r5
              | .ok (_, r5) => r5.unexpected (some .dsemi)

/-- The patterns of a `case` arm after the first, parted by `|`; the token after them is left
as the last one read. -/
def casePatterns (fuel : Nat) (acc : List Word) (r : Reader) : ReadM (List Word) :=
  match fuel with
  | 0 => .error ⟨r.line, "script too complex"⟩
  | fuel + 1 =>
    match readToken fuel false false r with
    | .error e => .error e
    | .ok (.pipe, r1) =>
      match readToken fuel false false r1 with
      | .error e => .error e
      | .ok (_, r2) => casePatterns fuel (acc ++ [r2.word]) r2
    | .ok (_, r1) => .ok (acc, r1)

/-- A simple command: assignments while they lead, words and redirections; or a function
definition `name ( ) command`. -/
def simple (fuel : Nat) (line : Nat) (assigns words : List Word) (rds : List Redirect) (r : Reader) :
    ReadM Command :=
  match fuel with
  | 0 => .error ⟨r.line, "script too complex"⟩
  | fuel + 1 =>
    match readToken fuel false false r with
    | .error e => .error e
    | .ok (.word, r1) =>
      if words.isEmpty && isAssignment r1.word then simple fuel line (assigns ++ [r1.word]) words rds r1
      else simple fuel line assigns (words ++ [r1.word]) rds r1
    | .ok (.redir, r1) =>
      match fileName fuel r1 with
      | .error e => .error e
      | .ok (rd, r2) => simple fuel line assigns words (rds ++ [rd]) r2
    | .ok (.lparen, r1) =>
      match words, assigns, rds with
      | [w], [], [] =>
        match readToken fuel false false r1 with
        | .error e => .error e
        | .ok (.rparen, r2) =>
          match w with
          | [.lit name false] =>
            if !Bytes.isName name || isSpecialBuiltin name then r2.fail "Bad function name"
            else
              match readToken fuel true true r2 with
              | .error e => .error e
              | .ok (_, r3) =>
                match command fuel { r3 with pushed := true } with
                | .error e => .error e
                | .ok (body, r4) => .ok (.function name body, r4)
          | _ => r2.fail "Bad function name"
        | .ok (_, r2) => r2.unexpected (some .rparen)
      | _, _, _ => .ok (.simple line assigns words rds, { r1 with pushed := true })
    | .ok (_, r1) => .ok (.simple line assigns words rds, { r1 with pushed := true })

end

/-- A list of commands parted by `;`, `&` or new lines. -/
def list (fuel : Nat) (nlFlag : Nat) (r : Reader) : ReadM (Option Command) :=
  listFrom fuel nlFlag none r

/-- The next complete command of a script: `none` at its end, `some none` for an empty line. -/
def nextCommand (fuel : Nat) (r : Reader) : Except ReadError (Option (Option Command) × Reader) :=
  match listFrom fuel 1 none { r with pushed := false, marks := [] } with
  | .error e => .error e
  | .ok (c, r1) =>
    if r1.pushed && r1.last == .eof && c.isNone then .ok (none, r1)
    else .ok (some c, { r1 with pushed := r1.pushed && r1.last == .eof })

end Shell

end Machine

end PracticeForge
