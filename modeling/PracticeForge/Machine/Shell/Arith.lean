import PracticeForge.Machine.Bytes

/-!
# Machine/Shell/Arith — the shell's arithmetic

`$((expr))` evaluates an expression of 64-bit signed integers, wrapping on overflow, as C does:

* numbers in decimal, octal (leading `0`) or hexadecimal (`0x`), a number too large reading as
  the largest (or smallest) integer;
* variables, whose values must read as a number (blanks around it allowed, empty reading 0), else
  `Illegal number: value`;
* unary `+ - ! ~`; binary `* / %`, `+ -`, `<< >>` (the count taken modulo 64), `< <= > >=`,
  `== !=`, `&`, `^`, `|`, from the tightest; then `&&`, `||`, `?:`, and the assignments `=` and
  `*= /= %= += -= <<= >>= &= ^= |=` to a variable.

The right side of `&&`, `||` and the branch of `?:` not taken are read but not evaluated: they
neither fail nor assign.  A malformed expression fails with `arithmetic expression: REASON:
"expr"`, the reason being `expecting primary`, `expecting EOF`, `expecting ')'`, `expecting ':'`
or `division by zero`.
-/

namespace PracticeForge

namespace Machine

namespace Shell

/-- The tokens of an arithmetic expression. -/
inductive ArithTok where
  | num (v : Int64)
  | var (name : Bytes)
  | bin (op : Nat)
  | assign (op : Option Nat)
  | andAnd
  | orOr
  | not
  | bnot
  | lparen
  | rparen
  | qmark
  | colon
  | bad
  | eof
  deriving BEq, Inhabited

/-- The binary operators, numbered by their place in `binaryOps`. -/
def binaryOps : List String := ["*", "/", "%", "+", "-", "<<", ">>", "<", "<=", ">", ">=", "==", "!=",
  "&", "^", "|"]

/-- How tightly a binary operator binds: 0 is tightest. -/
def precedence (op : Nat) : Nat :=
  if op < 3 then 0 else if op < 5 then 1 else if op < 7 then 2 else if op < 11 then 3
  else if op < 13 then 4 else if op == 13 then 5 else if op == 14 then 6 else 7

/-- A reason an arithmetic expression fails. -/
inductive ArithError where
  | malformed (reason : String)
  | divisionByZero
  | illegalNumber (text : Bytes)
  deriving Inhabited

/-- The largest and smallest 64-bit integers. -/
def int64Max : Int := 9223372036854775807
def int64Min : Int := -9223372036854775808

/-- An integer pressed into 64 bits, as a conversion that saturates does. -/
def saturate (n : Int) : Int64 :=
  Int64.ofInt (if n > int64Max then int64Max else if n < int64Min then int64Min else n)

/-- The value of a digit in a base, if it is one. -/
def digitIn (base : Nat) (b : UInt8) : Option Nat :=
  let v := if Bytes.isDigit b then some (b.toNat - 48)
    else if 97 ≤ b && b ≤ 122 then some (b.toNat - 87)
    else if 65 ≤ b && b ≤ 90 then some (b.toNat - 55)
    else none
  v.bind fun d => if d < base then some d else none

/-- Reads an unsigned number as C's conversion with base 0 does: `0x` hexadecimal, a leading
`0` octal, else decimal.  The value and the bytes after it; none when no digit starts it. -/
def readNumber (bs : Bytes) : Option (Nat × Bytes) :=
  let digits (base : Nat) (cs : Bytes) : Nat × Bytes :=
    let ds := cs.takeWhile fun c => (digitIn base c).isSome
    (ds.foldl (fun n c => n * base + (digitIn base c).getD 0) 0, cs.drop ds.length)
  match bs with
  | 48 :: x :: rest =>
    if (x == 120 || x == 88) && (rest.head?.bind (digitIn 16)).isSome then some (digits 16 rest)
    else some (digits 8 (x :: rest))
  | [48] => some (0, [])
  | c :: _ => if Bytes.isDigit c then some (digits 10 bs) else none
  | [] => none

/-- The value of a variable in arithmetic: blanks, an optional sign, a number, blanks; empty
reads as 0. -/
def varValue (s : Bytes) : Except ArithError Int64 :=
  let t := s.dropWhile Bytes.isSpace
  let (neg, t) := match t with
    | 45 :: r => (true, r)
    | 43 :: r => (false, r)
    | r => (false, r)
  match readNumber t with
  | some (n, rest) =>
    let v : Int := if neg then -(n : Int) else n
    if v > int64Max || v < int64Min then .error (.illegalNumber s)
    else if (rest.dropWhile Bytes.isSpace).isEmpty then .ok (Int64.ofInt v)
    else .error (.illegalNumber s)
  | none => if s.all Bytes.isSpace then .ok 0 else .error (.illegalNumber s)

/-- The tokens of an expression, up to the end or the first byte that starts none. -/
def lexArith (fuel : Nat) (bs : Bytes) (acc : Array ArithTok) : Array ArithTok :=
  match fuel with
  | 0 => acc.push .eof
  | fuel + 1 =>
    match bs with
    | [] => acc.push .eof
    | c :: rest =>
      if c == 32 || c == 9 || c == 10 then lexArith fuel rest acc
      else if Bytes.isDigit c then
        match readNumber bs with
        | some (n, r) => lexArith fuel r (acc.push (.num (saturate n)))
        | none => acc.push .bad
      else if Bytes.isNameStart c then
        let name := bs.takeWhile Bytes.isNameByte
        lexArith fuel (bs.drop name.length) (acc.push (.var name))
      else
        -- an operator, maybe followed by `=` for its assignment form
        let withEq (op : Nat) (r : Bytes) : ArithTok × Bytes :=
          match r with
          | 61 :: r' => (.assign (some op), r')
          | _ => (.bin op, r)
        let (t, r) : ArithTok × Bytes := match c, rest with
          | 61, 61 :: r => (.bin 11, r)
          | 61, r => (.assign none, r)
          | 62, 61 :: r => (.bin 10, r)
          | 62, 62 :: r => withEq 6 r
          | 62, r => (.bin 9, r)
          | 60, 61 :: r => (.bin 8, r)
          | 60, 60 :: r => withEq 5 r
          | 60, r => (.bin 7, r)
          | 124, 124 :: r => (.orOr, r)
          | 124, r => withEq 15 r
          | 38, 38 :: r => (.andAnd, r)
          | 38, r => withEq 13 r
          | 33, 61 :: r => (.bin 12, r)
          | 33, r => (.not, r)
          | 40, r => (.lparen, r)
          | 41, r => (.rparen, r)
          | 42, r => withEq 0 r
          | 47, r => withEq 1 r
          | 37, r => withEq 2 r
          | 43, r => withEq 3 r
          | 45, r => withEq 4 r
          | 126, r => (.bnot, r)
          | 94, r => withEq 14 r
          | 63, r => (.qmark, r)
          | 58, r => (.colon, r)
          | _, r => (.bad, r)
        if t == .bad then acc.push .bad else lexArith fuel r (acc.push t)

/-- Applies a binary operator. -/
def applyBinary (op : Nat) (a b : Int64) : Except ArithError Int64 :=
  let truth (p : Bool) : Int64 := if p then 1 else 0
  match op with
  | 0 => .ok (a * b)
  | 1 => if b == 0 then .error .divisionByZero else .ok (a / b)
  | 2 => if b == 0 then .error .divisionByZero else .ok (a % b)
  | 3 => .ok (a + b)
  | 4 => .ok (a - b)
  | 5 => .ok (a <<< b)
  | 6 => .ok (a >>> b)
  | 7 => .ok (truth (a < b))
  | 8 => .ok (truth (a ≤ b))
  | 9 => .ok (truth (a > b))
  | 10 => .ok (truth (a ≥ b))
  | 11 => .ok (truth (a == b))
  | 12 => .ok (truth (a != b))
  | 13 => .ok (a &&& b)
  | 14 => .ok (a ^^^ b)
  | _ => .ok (a ||| b)

/-- The state of an evaluation: the tokens left, and the variables assigned so far (latest
first). -/
structure ArithState where
  toks : List ArithTok
  assigned : List (Bytes × Int64)

/-- An evaluation step. -/
abbrev ArithM := StateT ArithState (Except ArithError)

/-- The next token, without taking it. -/
def peekTok : ArithM ArithTok := do
  return ((← get).toks.head?).getD .eof

/-- Takes the next token. -/
def nextTok : ArithM ArithTok := do
  let s ← get
  set { s with toks := s.toks.drop 1 }
  return (s.toks.head?).getD .eof

/-- Fails with a syntax reason. -/
def arithFail {α : Type} (reason : String) : ArithM α := throw (.malformed reason)

/-- The value of a variable: its last assignment here, else its value in the shell. -/
def lookupVar (env : Bytes → Option Bytes) (name : Bytes) : ArithM Int64 := do
  match ((← get).assigned.find? (·.1 == name)) with
  | some (_, v) => return v
  | none =>
    match varValue ((env name).getD []) with
    | .ok v => return v
    | .error e => throw e

mutual

/-- An assignment to a variable, or a conditional expression. -/
def assignment (fuel : Nat) (env : Bytes → Option Bytes) (noeval : Bool) : ArithM Int64 :=
  match fuel with
  | 0 => arithFail "expression too deep"
  | fuel + 1 => do
    let s ← get
    match s.toks with
    | .var name :: .assign op :: _ =>
      let _ ← nextTok
      let _ ← nextTok
      let v ← assignment fuel env noeval
      if noeval then return v
      let v ← match op with
        | some o => do
          let old ← lookupVar env name
          match applyBinary o old v with
          | .ok r => pure r
          | .error e => throw e
        | none => pure v
      modify fun s => { s with assigned := (name, v) :: s.assigned }
      return v
    | _ => conditional fuel env noeval

/-- `a ? b : c`, or an or-expression. -/
def conditional (fuel : Nat) (env : Bytes → Option Bytes) (noeval : Bool) : ArithM Int64 :=
  match fuel with
  | 0 => arithFail "expression too deep"
  | fuel + 1 => do
    let a ← orExpr fuel env noeval
    if (← peekTok) != .qmark then return a
    let _ ← nextTok
    let b ← assignment fuel env (noeval || a == 0)
    if (← peekTok) != .colon then arithFail "expecting ':'"
    let _ ← nextTok
    let c ← conditional fuel env (noeval || a != 0)
    return if a != 0 then b else c

/-- `a || b`. -/
def orExpr (fuel : Nat) (env : Bytes → Option Bytes) (noeval : Bool) : ArithM Int64 :=
  match fuel with
  | 0 => arithFail "expression too deep"
  | fuel + 1 => do
    let a ← andExpr fuel env noeval
    if (← peekTok) != .orOr then return a
    let _ ← nextTok
    let b ← orExpr fuel env (noeval || a != 0)
    return if a != 0 || b != 0 then 1 else 0

/-- `a && b`. -/
def andExpr (fuel : Nat) (env : Bytes → Option Bytes) (noeval : Bool) : ArithM Int64 :=
  match fuel with
  | 0 => arithFail "expression too deep"
  | fuel + 1 => do
    let a ← binary fuel env noeval 8
    if (← peekTok) != .andAnd then return a
    let _ ← nextTok
    let b ← andExpr fuel env (noeval || a == 0)
    return if a != 0 && b != 0 then 1 else 0

/-- Binary operators binding tighter than a level, from the left. -/
def binary (fuel : Nat) (env : Bytes → Option Bytes) (noeval : Bool) (level : Nat) : ArithM Int64 :=
  match fuel with
  | 0 => arithFail "expression too deep"
  | fuel + 1 => do
    let a ← primary fuel env noeval
    binaryTail fuel env noeval level a

/-- The operators after a left operand, binding tighter than a level. -/
def binaryTail (fuel : Nat) (env : Bytes → Option Bytes) (noeval : Bool) (level : Nat) (a : Int64) :
    ArithM Int64 :=
  match fuel with
  | 0 => arithFail "expression too deep"
  | fuel + 1 => do
    match (← peekTok) with
    | .bin op =>
      if precedence op < level then
        let _ ← nextTok
        let b ← binary fuel env noeval (precedence op)
        let r ← if noeval then pure b else
          match applyBinary op a b with
          | .ok r => pure r
          | .error e => throw e
        binaryTail fuel env noeval level r
      else return a
    | _ => return a

/-- A number, a variable, a parenthesised expression, or a unary operator before a primary. -/
def primary (fuel : Nat) (env : Bytes → Option Bytes) (noeval : Bool) : ArithM Int64 :=
  match fuel with
  | 0 => arithFail "expression too deep"
  | fuel + 1 => do
    match (← nextTok) with
    | .lparen =>
      let v ← assignment fuel env noeval
      if (← peekTok) != .rparen then arithFail "expecting ')'"
      let _ ← nextTok
      return v
    | .num v => return v
    | .var name => if noeval then return 0 else lookupVar env name
    | .bin 3 => primary fuel env noeval
    | .bin 4 => return -(← primary fuel env noeval)
    | .not => return if (← primary fuel env noeval) == 0 then 1 else 0
    | .bnot => return ~~~(← primary fuel env noeval)
    | _ => arithFail "expecting primary"

end

/-- Evaluates an expression over the shell's variables: its value and the assignments it made,
in order. -/
def evalArith (env : Bytes → Option Bytes) (expr : Bytes) : Except ArithError (Int64 × List (Bytes × Int64)) :=
  let toks := (lexArith (expr.length + 1) expr #[]).toList
  let fuel := 4 * toks.length + 8
  match (do
      let v ← assignment fuel env false
      if (← peekTok) != ArithTok.eof then arithFail "expecting EOF"
      return v).run ⟨toks, []⟩ with
  | .ok (v, s) => .ok (v, s.assigned.reverse)
  | .error e => .error e

/-- The message of an arithmetic failure. -/
def ArithError.message (expr : Bytes) : ArithError → Bytes
  | .malformed reason => Bytes.ofString ("arithmetic expression: " ++ reason ++ ": \"") ++ expr ++ [34]
  | .divisionByZero => Bytes.ofString "arithmetic expression: division by zero: \"" ++ expr ++ [34]
  | .illegalNumber s => Bytes.ofString "Illegal number: " ++ s

end Shell

end Machine

end PracticeForge
