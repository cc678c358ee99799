import PracticeForge.Machine.Bytes

/-!
# Machine/Shell/Test — the `test` and `[` builtins

`test` evaluates an expression of its arguments: unary file and string tests (`-e file`,
`-z string` ...), binary comparisons of strings (`=`, `!=`, `<`, `>`), of integers (`-eq` ...)
and of files (`-nt`, `-ot`, `-ef`), joined by `!`, `-a`, `-o` and parentheses, `-a` binding
tighter than `-o`.

An operator is read as an operand where it cannot be one: a unary operator that is the last
argument, or that is followed by an argument and then a binary operator; a `(` that is the last
argument.  Before parsing, three arguments with a binary operator in the middle are a comparison;
three or four arguments enclosed in parentheses are the enclosed ones; and a leading `!` negates
the test of the rest.  A complaint names the argument it is about, if any: `a: unexpected
operator`, `missing ]`, `Illegal number: x`, `closing paren expected`, `argument expected`.
-/

namespace PracticeForge

namespace Machine

namespace Shell

/-- The operators of `test`. -/
inductive TestOp where
  | unary (name : String)
  | binary (name : String)
  | not
  | and
  | or
  | lparen
  | rparen
  deriving BEq, Inhabited

/-- The operator an argument names, if it names one. -/
def TestOp.of? (s : Bytes) : Option TestOp :=
  match String.fromUTF8? (Bytes.toArray s) with
  | some str =>
    if ["-r", "-w", "-x", "-e", "-f", "-d", "-c", "-b", "-p", "-u", "-g", "-k", "-s", "-t", "-z", "-n",
        "-h", "-O", "-G", "-L", "-S"].contains str then some (.unary str)
    else if ["=", "!=", "<", ">", "-eq", "-ne", "-ge", "-gt", "-le", "-lt", "-nt", "-ot", "-ef"].contains str then
      some (.binary str)
    else if str == "!" then some .not
    else if str == "-a" then some .and
    else if str == "-o" then some .or
    else if str == "(" then some .lparen
    else if str == ")" then some .rparen
    else none
  | none => none

/-- Whether an operator is binary. -/
def TestOp.isBinary : Option TestOp → Bool
  | some (.binary _) => true
  | _ => false

/-- The text of an operator. -/
def TestOp.text : TestOp → Bytes
  | .unary s | .binary s => Bytes.ofString s
  | .not => Bytes.ofString "!"
  | .and => Bytes.ofString "-a"
  | .or => Bytes.ofString "-o"
  | .lparen => Bytes.ofString "("
  | .rparen => Bytes.ofString ")"

/-- What a test needs to know about files: whether a path exists, is a regular file, a
directory, a character device, executable, and its size; none when it does not exist. -/
structure FileFacts where
  regular : Bool
  directory : Bool
  device : Bool
  executable : Bool
  size : Nat

/-- A token of a test: an operator, an operand, or the end. -/
inductive TestTok where
  | op (o : TestOp)
  | operand
  | eoi
  deriving BEq, Inhabited

/-- The state of a test's parse: the arguments, the position, and the operator last lexed. -/
structure TestState where
  args : Array Bytes
  pos : Nat
  lastOp : Option TestOp

/-- A step of a test's parse, or a complaint. -/
abbrev TestM := StateT TestState (Except Bytes)

namespace TestM

/-- Complains about an argument. -/
def reject {α : Type} (about : Option Bytes) (msg : String) : TestM α :=
  throw (match about with
    | some a => a ++ Bytes.ofString ": " ++ Bytes.ofString msg
    | none => Bytes.ofString msg)

/-- The argument at a position. -/
def arg? (i : Nat) : TestM (Option Bytes) := do return (← get).args[i]?

/-- Reads the token at a position, noting its operator. -/
def lex (i : Nat) : TestM TestTok := do
  let s ← get
  match s.args[i]? with
  | none =>
    set { s with lastOp := none }
    return .eoi
  | some a =>
    let op := TestOp.of? a
    -- a unary operator with an operand after it that is followed by a binary operator, or
    -- with nothing after it, is an operand; so is a last `(`
    let isOperand : Bool := match s.args[i + 1]? with
      | none => true
      | some next => match s.args[i + 2]? with
        | none => false
        | some _ => TestOp.isBinary (TestOp.of? next)
    let tok : TestTok := match op with
      | some (.unary u) => if isOperand == true then .operand else .op (.unary u)
      | some .lparen => if (s.args[i + 1]?).isNone then .operand else .op .lparen
      | some o => .op o
      | none => .operand
    set { s with lastOp := match tok with
      | .op o => some o
      | _ => none }
    return tok

/-- An integer argument, as `test` reads one: optional blanks and sign, then digits, and
nothing after. -/
def number (a : Bytes) : TestM Int := do
  let t := a.dropWhile Bytes.isSpace
  let (neg, t) := match t with
    | 45 :: r => (true, r)
    | 43 :: r => (false, r)
    | r => (false, r)
  if t.isEmpty || !t.all Bytes.isDigit then reject none ("Illegal number: " ++ (String.fromUTF8? (Bytes.toArray a)).getD "")
  else
    let v : Int := Bytes.digitsValue t
    let v := if neg then -v else v
    if v > 9223372036854775807 || v < -9223372036854775808 then
      reject none ("Illegal number: " ++ (String.fromUTF8? (Bytes.toArray a)).getD "")
    else return v

end TestM

open TestM

/-- Evaluates a unary test. -/
def unaryTest (stat : Bytes → Option FileFacts) (op : String) (a : Bytes) : TestM Bool := do
  match op with
  | "-z" => return a.isEmpty
  | "-n" => return !a.isEmpty
  | "-t" => let _ ← number a; return false
  | _ =>
    match stat a with
    | none => return false
    | some f =>
      match op with
      | "-e" | "-r" | "-w" | "-O" | "-G" => return true
      | "-f" => return f.regular
      | "-d" => return f.directory
      | "-c" => return f.device
      | "-x" => return f.executable
      | "-s" => return f.size > 0
      | _ => return false

/-- Evaluates a binary test. -/
def binaryTest (stat : Bytes → Option FileFacts) (op : String) (a b : Bytes) : TestM Bool := do
  match op with
  | "=" => return a == b
  | "!=" => return a != b
  | "<" => return decide (a < b)
  | ">" => return decide (b < a)
  | "-eq" => return (← number a) == (← number b)
  | "-ne" => return (← number a) != (← number b)
  | "-ge" => return (← number a) ≥ (← number b)
  | "-gt" => return (← number a) > (← number b)
  | "-le" => return (← number a) ≤ (← number b)
  | "-lt" => return (← number a) < (← number b)
  | "-ef" => return (stat a).isSome && a == b
  | _ => return false

mutual

/-- `expr -o expr ...` -/
def testOr (fuel : Nat) (stat : Bytes → Option FileFacts) (n : TestTok) : TestM Bool :=
  match fuel with
  | 0 => reject none "expression too deep"
  | fuel + 1 => do
    let r ← testAnd fuel stat n
    let n' ← lex ((← get).pos + 1)
    if n' == .op .or then
      modify fun s => { s with pos := s.pos + 2 }
      let n'' ← lex (← get).pos
      let r' ← testOr fuel stat n''
      return r || r'
    else return r

/-- `expr -a expr ...` -/
def testAnd (fuel : Nat) (stat : Bytes → Option FileFacts) (n : TestTok) : TestM Bool :=
  match fuel with
  | 0 => reject none "expression too deep"
  | fuel + 1 => do
    let r ← testNot fuel stat n
    let n' ← lex ((← get).pos + 1)
    if n' == .op .and then
      modify fun s => { s with pos := s.pos + 2 }
      let n'' ← lex (← get).pos
      let r' ← testAnd fuel stat n''
      return r && r'
    else return r

/-- `! expr` -/
def testNot (fuel : Nat) (stat : Bytes → Option FileFacts) (n : TestTok) : TestM Bool :=
  match fuel with
  | 0 => reject none "expression too deep"
  | fuel + 1 => do
    if n == .op .not then
      modify fun s => { s with pos := s.pos + 1 }
      let n' ← lex (← get).pos
      return !(← testNot fuel stat n')
    else testPrimary fuel stat n

/-- A primary: a parenthesised expression, a unary or binary test, or a string. -/
def testPrimary (fuel : Nat) (stat : Bytes → Option FileFacts) (n : TestTok) : TestM Bool :=
  match fuel with
  | 0 => reject none "expression too deep"
  | fuel + 1 => do
    if n == .eoi then return false
    if n == .op .lparen then
      modify fun s => { s with pos := s.pos + 1 }
      let nn ← lex (← get).pos
      if nn == .op .rparen then return false
      let r ← testOr fuel stat nn
      modify fun s => { s with pos := s.pos + 1 }
      if (← lex (← get).pos) != .op .rparen then reject none "closing paren expected"
      return r
    match (← get).lastOp with
    | some (.unary op) =>
      modify fun s => { s with pos := s.pos + 1 }
      match ← arg? (← get).pos with
      | none => reject (some (Bytes.ofString op)) "argument expected"
      | some a => unaryTest stat op a
    | _ =>
      let here := (← get).pos
      let _ ← lex (here + 1)
      match (← get).lastOp with
      | some (.binary op) =>
        let a := (← arg? here).getD []
        modify fun s => { s with pos := here + 2 }
        match ← arg? (here + 2) with
        | none => reject (some (Bytes.ofString op)) "argument expected"
        | some b => binaryTest stat op a b
      | _ => return !((← arg? here).getD []).isEmpty

end

/-- Runs `test` (or `[`, which needs a last `]`) on its arguments: the status, or a complaint. -/
def runTest (stat : Bytes → Option FileFacts) (bracket : Bool) (args : List Bytes) : Except Bytes Nat :=
  let checked : Except Bytes (List Bytes) :=
    if bracket then
      match args.getLast? with
      | some l => if l == [93] then .ok args.dropLast else .error (Bytes.ofString "missing ]")
      | none => .error (Bytes.ofString "missing ]")
    else .ok args
  match checked with
  | .error e => .error e
  | .ok args => go 3 args true
where
  /-- The rules for few arguments, then the parse; `plain` is false under a leading `!`. -/
  go : Nat → List Bytes → Bool → Except Bytes Nat
    | 0, _, _ => .ok 1
    | fuel + 1, args, plain =>
      let res (b : Bool) : Nat := if b == plain then 0 else 1
      if args.isEmpty then .ok (if plain then 1 else 0)
      else
        let arr := args.toArray
        let fullFuel := 4 * args.length + 4
        let evalFrom (start : TestState → TestM TestTok) : Except Bytes Nat :=
          let run : TestM Bool := do
            let n ← start (← get)
            let r ← testOr fullFuel stat n
            let s ← get
            if (s.args[s.pos + 1]?).isSome then
              match s.args[s.pos]? with
              | some a => reject (some a) "unexpected operator"
              | none => return r
            else return r
          match run.run ⟨arr, 0, none⟩ with
          | .ok (b, _) => .ok (res b)
          | .error e => .error e
        let comparison := args.length == 3 && TestOp.isBinary (TestOp.of? (args.getD 1 []))
        if comparison then
          evalFrom fun _ => do
            modify fun s => { s with lastOp := none }
            return .operand
        else if (args.length == 3 || args.length == 4) && args.head? == some [40] && args.getLast? == some [41] then
          go fuel (args.drop 1).dropLast plain
        else if (args.length == 3 || args.length == 4) && args.head? == some [33] then
          go fuel (args.drop 1) (!plain)
        else evalFrom fun _ => lex 0

end Shell

end Machine

end PracticeForge
