import PracticeForge.Outline.Expr
import PracticeForge.Text.Normalize

/-!
# Outline/Read — the statements of a Python source, with their places

`Outline.read` reads a whole source by the statement grammar of the language (version 3.11):
simple statements parted by `;`, blocks by indentation, `if`/`elif`/`else`, loops, `with`,
`try` with `except` or `except*`, function and class definitions with decorators, and `match`
with its patterns.  A source the grammar refuses reads as nothing; so does one the language's
parser cannot finish, needing more rule frames at once than it has (`maxFrames`), or whose
syntax tree is too deep to build, with more nodes on a downward path than there is room for.

What is kept of a statement is its place (first line, byte column, last line), and for
definitions their name (in normalization form KC), the lines of their decorators and their
body; an expression statement that is a plain text literal is marked as a docstring.  A
decorator's line is where its expression starts, and an expression wrapped whole in
parentheses starts inside them.
-/

namespace PracticeForge

namespace Outline

/-- Where a statement stands: its first line, its column in UTF-8 bytes, and its last line. -/
structure Span where
  line : Nat
  col : Nat
  endLine : Nat
  deriving Repr, Inhabited

/-- A statement as the outline keeps it. -/
inductive Stmt where
  | function (name : String) (span : Span) (decorators : List Nat) (body : List Stmt)
  | classDef (name : String) (span : Span) (decorators : List Nat) (body : List Stmt)
  | docstring (span : Span)
  | other (span : Span)
  deriving Repr, Inhabited

/-- The place of a statement. -/
def Stmt.span : Stmt → Span
  | .function _ sp _ _ | .classDef _ sp _ _ | .docstring sp | .other sp => sp

/-- The lines of a statement's decorators; none for statements that are no definitions. -/
def Stmt.decorators : Stmt → List Nat
  | .function _ _ ds _ | .classDef _ _ ds _ => ds
  | _ => []

namespace Src

/-- The name the token at `i` spells, in normalization form KC: names are compared that way,
so `𝐟𝐨𝐨` is `foo`. -/
def nameAt (s : Src) (i : Nat) : String := String.ofList (Text.nfkc (s.tok i).text.toList)

/-- The place from the token at `i` to the last line `endLine`. -/
def spanFrom (s : Src) (i endLine : Nat) : Span := ⟨(s.tok i).line, (s.tok i).col, endLine⟩

/-- The last line of the token just before `j`. -/
def lastLineBefore (s : Src) (j : Nat) : Nat := (s.tok (j - 1)).endLine

end Src

/-- The last line of a block. -/
def lastLine (body : List Stmt) : Nat := (body.getLast?.map (·.span.endLine)).getD 0

/-- A dotted name `a.b.c`. -/
def dottedName (s : Src) (fuel i : Nat) : Option Nat :=
  match fuel with
  | 0 => none
  | fuel + 1 =>
    if !s.isName i then none
    else if s.isOp (i + 1) "." then dottedName s fuel (i + 2) else some (i + 1)

/-- Names parted by commas, as after `global`. -/
def nameList (s : Src) (fuel i : Nat) : Option Nat :=
  match fuel with
  | 0 => none
  | fuel + 1 =>
    if !s.isName i then none
    else if s.isOp (i + 1) "," then nameList s fuel (i + 2) else some (i + 1)

/-- `name [as name]` items parted by commas, each name possibly dotted when `dotted`. -/
def importItems (s : Src) (dotted : Bool) (fuel i : Nat) : Option Nat :=
  match fuel with
  | 0 => none
  | fuel + 1 => do
    let j ← if dotted then dottedName s fuel i else if s.isName i then some (i + 1) else none
    let j ← if s.isKw j "as" then (if s.isName (j + 1) then some (j + 2) else none) else some j
    if s.isOp j "," && (s.isName (j + 1)) then importItems s dotted fuel (j + 1) else some j

/-- The end of the dots (`.` or `...`) from `i`. -/
def dotsEnd (s : Src) (fuel i : Nat) : Nat :=
  match fuel with
  | 0 => i
  | fuel + 1 => if s.isOp i "." || s.isOp i "..." then dotsEnd s fuel (i + 1) else i

/-- The end of the `.name` parts from `i`. -/
def attrEnd (s : Src) (fuel i : Nat) : Nat :=
  match fuel with
  | 0 => i
  | fuel + 1 => if s.isOp i "." && s.isName (i + 1) then attrEnd s fuel (i + 2) else i

/-- What follows `from`: dots and a module, `import`, and the names. -/
def importFrom (s : Src) (fuel i : Nat) : Option Nat := do
  let dots := dotsEnd s fuel i
  let j ← if s.isName dots then dottedName s fuel dots
    else if dots > i then some dots else none
  if !s.isKw j "import" then none
  if s.isOp (j + 1) "*" then some (j + 2)
  else if s.isOp (j + 1) "(" then do
    let k ← importItems s false fuel (j + 2)
    let k := if s.isOp k "," then k + 1 else k
    if s.isOp k ")" then some (k + 1) else none
  else do
    let k ← importItems s false fuel (j + 1)
    if s.isOp k "," then none else some k

/-- Deletion targets parted by commas, a trailing comma allowed; their height. -/
def delTargets (s : Src) (fuel i : Nat) : Option (Height × Nat) :=
  match fuel with
  | 0 => none
  | fuel + 1 => do
    let (e, h, j) ← primary s fuel i
    if !e.isDeletable then none
    if s.isOp j "," then
      if s.isOp (j + 1) ";" || s.isKind (j + 1) .newline then some (h, j + 1)
      else do
        let (hr, k) ← delTargets s fuel (j + 1)
        pure (h.join hr, k)
    else some (h, j)

/-- The right side of an assignment: a yield expression or expressions. -/
def assignedValue (s : Src) (fuel i : Nat) : Option (Shape × Height × Nat) :=
  if s.isKw i "yield" then (yieldExpr s fuel i).map fun (h, j) => (.other, h, j)
  else starExpressions s fuel i

/-- The values of a chain of assignments `= v = w ...`; each value before an `=` must be a
target.  Their height: the targets are read below a repetition and a group, the last value below
a group. -/
def assignChain (s : Src) (fuel i : Nat) : Option (Height × Nat) :=
  match fuel with
  | 0 => none
  | fuel + 1 => do
    let (e, h, j) ← assignedValue s fuel i
    if s.isOp j "=" then
      if e.isTarget then do
        let (hr, k) ← assignChain s fuel (j + 1)
        pure ((h.under 2).join hr, k)
      else none
    else some (h.under 1, j)

/-- The frames the parser spends trying to read a statement that starts with a keyword as an
expression first: down to the atom that refuses the keyword. -/
def keywordProbe : Height := ⟨0, 26, 0⟩

/-- Whether an atom starts at `i`: a name, a constant, a text literal or a bracket. -/
def startsAtom (s : Src) (i : Nat) : Bool :=
  let t := s.tok i
  s.isName i || t.kind == .number || t.kind == .string || s.isOp i "(" || s.isOp i "[" ||
    s.isOp i "\x7b" || s.isOp i "..." || s.isKw i "True" || s.isKw i "False" || s.isKw i "None"

/-- Where the values of an assignment statement ending at `j` start: after each `=` outside
brackets, up to an annotation's colon or a `lambda`. -/
def valueStarts (s : Src) (j : Nat) : Nat → Nat → Nat → List Nat
  | 0, _, _ => []
  | f + 1, i, depth =>
    if i ≥ j then []
    else if s.isOp i "(" || s.isOp i "[" || s.isOp i "\x7b" then valueStarts s j f (i + 1) (depth + 1)
    else if s.isOp i ")" || s.isOp i "]" || s.isOp i "\x7d" then valueStarts s j f (i + 1) (depth - 1)
    else if depth == 0 && (s.isOp i ":" || s.isKw i "lambda") then []
    else if depth == 0 && s.isOp i "=" then (i + 1) :: valueStarts s j f (i + 1) depth
    else valueStarts s j f (i + 1) depth

/-- An expression statement or an assignment from `i`: whether it is a docstring, its height
and where it ends. -/
def exprStmt (s : Src) (fuel i : Nat) : Option (Bool × Height × Nat) := do
  let (e, h, j) ← starExpressions s fuel i
  let expr (r : Option (Shape × Height × Nat)) : Option (Height × Nat) := r.map fun (_, h, j) => (h, j)
  -- an assignment is a rule below the line's: its targets are read below a repetition and a
  -- group, its value below a group
  let assigned (r : Option (Height × Nat)) : Option (Bool × Height × Nat) :=
    r.map fun (hv, k) => (false, ((h.under 4).join (hv.under 2)).child, k)
  if s.isOp j ":" then
    if !e.isSingle then none
    else do
      let (_, ha, k) ← expression s fuel (j + 1)
      let h := h.join ha
      if s.isOp k "=" then
        (assignedValue s fuel (k + 1)).map fun (_, hv, m) => (false, ((h.under 2).join (hv.under 4)).child, m)
      else some (false, (h.under 2).child, k)
  else if augmentedOps.any (s.isOp j ·) then
    if !e.isSingle then none
    else assigned ((expr (assignedValue s fuel (j + 1))).map fun (hv, k) => (hv.under 1, k))
  else if s.isOp j "=" then
    if !e.isTarget then none else assigned (assignChain s fuel (j + 1))
  else
    some (match e with
      | .text => true
      | _ => false, (h.under 1).child, j)

/-- One simple statement from `i`: whether it is a docstring, its height (the statement a node
above its parts), and where it ends. -/
def simpleStmt (s : Src) (fuel i : Nat) : Option (Bool × Height × Nat) :=
  -- a statement of its own rule below the line's, its parts read from that rule
  let plain (r : Option (Height × Nat)) : Option (Bool × Height × Nat) :=
    r.map fun (h, j) => (false, ((h.under 2).child).join keywordProbe, j)
  let expr (r : Option (Shape × Height × Nat)) : Option (Height × Nat) := r.map fun (_, h, j) => (h, j)
  if s.isKw i "pass" || s.isKw i "break" || s.isKw i "continue" then
    some (false, (Height.leaf 1).join keywordProbe, i + 1)
  else if s.isKw i "return" then
    plain (some ((expr (starExpressions s fuel (i + 1))).getD (.zero, i + 1)))
  else if s.isKw i "raise" then
    match expression s fuel (i + 1) with
    | some (_, h, j) =>
      if s.isKw j "from" then plain ((expr (expression s fuel (j + 1))).map fun (h2, k) => (h.join h2, k))
      else plain (some (h, j))
    | none => plain (some (.zero, i + 1))
  else if s.isKw i "global" || s.isKw i "nonlocal" then plain ((nameList s fuel (i + 1)).map fun j => (.zero, j))
  else if s.isKw i "del" then plain (do
    let (h, j) ← delTargets s fuel (i + 1)
    if s.isOp j ";" || s.isKind j .newline then some (h.under 3, j) else none)
  else if s.isKw i "assert" then plain (do
    let (_, h, j) ← expression s fuel (i + 1)
    if s.isOp j "," then (expr (expression s fuel (j + 1))).map fun (h2, k) => (h.join h2, k)
    else some (h, j))
  -- an imported name is a node below the statement
  else if s.isKw i "import" then plain ((importItems s true fuel (i + 1)).map fun j => (.leaf 0, j))
  else if s.isKw i "from" then plain ((importFrom s fuel (i + 1)).map fun j => (.leaf 0, j))
  else if s.isKw i "yield" then plain (yieldExpr s fuel i)
  else
    match exprStmt s fuel i with
    | none => none
    | some (doc, h, j) =>
      -- the parser first tries the statement as an assignment: the primary it starts with is
      -- read as a target, and so is each value after an `=`, four and seven frames down
      let probes := (if startsAtom s i then [(i, 4)] else []) ++
        ((valueStarts s j (j - i) i 0).filter (startsAtom s ·)).map fun p => (p, 7)
      if probes.isEmpty then some (doc, h, j)
      else
        let again := match exprStmt { s with known := probes.map (·.1) } fuel i with
          | some (_, h', _) => h'.frames
          | none => h.frames
        let targets := probes.foldl (fun acc (p, down) => match primary s fuel p with
          | some (_, hp, _) => max acc (hp.frames + down)
          | none => acc) 0
        some (doc, { h with frames := max again targets }, j)

/-- Where the expression from `i` up to `j` starts as the language places it: an expression
wrapped whole in parentheses starts where the expression inside them does. -/
def groupStart (s : Src) : Nat → Nat → Nat → Nat
  | 0, i, _ => i
  | f + 1, i, j =>
    if s.isOp i "(" then
      match namedExpression s f (i + 1) with
      | some (_, _, k) => if k + 1 == j && s.isOp k ")" then groupStart s f (i + 1) k else i
      | none => i
    else i

mutual

/-- A pattern of `case`, possibly an open sequence `a, *b`. -/
def patterns (s : Src) : Nat → Nat → Option Nat
  | 0, _ => none
  | f + 1, i => do
    let (star, j) ← maybeStar s f i
    if s.isOp j "," then seqItems s f (j + 1) else if star then none else some j

/-- A star pattern `*name`, or a pattern; the flag says which. -/
def maybeStar (s : Src) : Nat → Nat → Option (Bool × Nat)
  | 0, _ => none
  | f + 1, i =>
    if s.isOp i "*" then
      if s.isName (i + 1) && !(s.isOp (i + 2) "." || s.isOp (i + 2) "(" || s.isOp (i + 2) "=") then
        some (true, i + 2)
      else none
    else (pattern s f i).map fun j => (false, j)
termination_by structural f _ => f

/-- The items of a sequence pattern after a comma, possibly none. -/
def seqItems (s : Src) : Nat → Nat → Option Nat
  | 0, _ => none
  | f + 1, i =>
    match maybeStar s f i with
    | none => some i
    | some (_, j) => if s.isOp j "," then seqItems s f (j + 1) else some j
termination_by structural f _ => f

/-- An or-pattern, possibly bound by `as name`. -/
def pattern (s : Src) : Nat → Nat → Option Nat
  | 0, _ => none
  | f + 1, i => do
    let j ← orPattern s f i
    if s.isKw j "as" then
      if s.isName (j + 1) && !s.isKw (j + 1) "_" &&
          !(s.isOp (j + 2) "." || s.isOp (j + 2) "(" || s.isOp (j + 2) "=") then some (j + 2)
      else none
    else some j
termination_by structural f _ => f

/-- Closed patterns parted by `|`. -/
def orPattern (s : Src) : Nat → Nat → Option Nat
  | 0, _ => none
  | f + 1, i => do
    let j ← closedPattern s f i
    if s.isOp j "|" then orPattern s f (j + 1) else some j
termination_by structural f _ => f

/-- A literal, capture, wildcard, value, group, sequence, mapping or class pattern. -/
def closedPattern (s : Src) : Nat → Nat → Option Nat
  | 0, _ => none
  | f + 1, i =>
    if s.isKind i .number || (s.isOp i "-" && s.isKind (i + 1) .number) || s.isKind i .string ||
        s.isKw i "None" || s.isKw i "True" || s.isKw i "False" then literalPattern s f i
    else if s.isName i then
      let j := attrEnd s f (i + 1)
      -- a dotted name or a class name may not start with the wildcard
      if s.isKw i "_" && (j > i + 1 || s.isOp j "(") then none
      else if s.isOp j "(" then classArgs s f false false (j + 1)
      else if s.isOp j "." || s.isOp j "=" then none
      else some j
    else if s.isOp i "(" then
      if s.isOp (i + 1) ")" then some (i + 2)
      else do
        let (star, j) ← maybeStar s f (i + 1)
        if s.isOp j "," then do
          let k ← seqItems s f (j + 1)
          if s.isOp k ")" then some (k + 1) else none
        else if s.isOp j ")" && !star then some (j + 1)
        else none
    else if s.isOp i "[" then
      if s.isOp (i + 1) "]" then some (i + 2)
      else do
        let (_, j) ← maybeStar s f (i + 1)
        let k ← if s.isOp j "," then seqItems s f (j + 1) else some j
        if s.isOp k "]" then some (k + 1) else none
    else if s.isOp i "\x7b" then mappingItems s f (i + 1)
    else none
termination_by structural f _ => f

/-- A literal pattern: a signed number, a complex number `real ± imaginary`, text literals,
`None`, `True` or `False`. -/
def literalPattern (s : Src) : Nat → Nat → Option Nat
  | 0, _ => none
  | f + 1, i =>
    let imaginary (k : Nat) : Bool :=
      let t := (s.tok k).text
      s.isKind k .number && (t.endsWith "j" || t.endsWith "J")
    if s.isKind i .string then
      (strings s f true false (Literal.ofToken (s.tok i).text).isBytes .zero i).map (·.2.2)
    else if s.isKw i "None" || s.isKw i "True" || s.isKw i "False" then some (i + 1)
    else
      let n := if s.isOp i "-" then i + 1 else i
      if s.isOp (n + 1) "+" || s.isOp (n + 1) "-" then
        if !imaginary n && imaginary (n + 2) then some (n + 3) else none
      else some (n + 1)

/-- The items of a mapping pattern after `{`: `key: pattern` items and at most one final
`**name`, to after `}`. -/
def mappingItems (s : Src) : Nat → Nat → Option Nat
  | 0, _ => none
  | f + 1, i =>
    if s.isOp i "\x7d" then some (i + 1)
    else if s.isOp i "**" then
      if s.isName (i + 1) && !s.isKw (i + 1) "_" then
        let j := if s.isOp (i + 2) "," then i + 3 else i + 2
        if s.isOp j "\x7d" then some (j + 1) else none
      else none
    else do
      let j ← if s.isName i then
          let k := attrEnd s f (i + 1)
          if k > i + 1 then some k else none
        else literalPattern s f i
      if !s.isOp j ":" then none
      let k ← pattern s f (j + 1)
      if s.isOp k "," then mappingItems s f (k + 1)
      else if s.isOp k "\x7d" then some (k + 1)
      else none
termination_by structural f _ => f

/-- The arguments of a class pattern after `(`: patterns, then `name=pattern` items, to after
`)`; `keyword` says a keyword item was seen, `positional` a pattern.  After a pattern, `_=`
cannot start a keyword item, since the wildcard `_` is taken as one more pattern. -/
def classArgs (s : Src) : Nat → Bool → Bool → Nat → Option Nat
  | 0, _, _, _ => none
  | f + 1, keyword, positional, i =>
    if s.isOp i ")" then some (i + 1)
    else do
      let (keyword, j) ← if s.isName i && s.isOp (i + 1) "=" then do
          if positional && !keyword && s.isKw i "_" then none
          let j ← pattern s f (i + 2)
          pure (true, j)
        else if keyword then none
        else do
          let j ← pattern s f i
          pure (false, j)
      if s.isOp j "," then classArgs s f keyword (positional || !keyword) (j + 1)
      else if s.isOp j ")" then some (j + 1)
      else none
termination_by structural f _ _ _ => f

end

mutual

/-- Statements up to a dedent or the end; each is read below a repetition. -/
def statements (s : Src) : Nat → Nat → Option (List Stmt × Height × Nat)
  | 0, _ => none
  | f + 1, i => do
    let (xs, h, j) ← statement s f i
    let h := h.under 2
    if s.isKind j .dedent || s.isKind j .endmarker then pure (xs, h, j)
    else do
      let (ys, hr, k) ← statements s f j
      pure (xs ++ ys, h.join hr, k)
termination_by structural f _ => f

/-- One compound statement, or a line of simple statements. -/
def statement (s : Src) : Nat → Nat → Option (List Stmt × Height × Nat)
  | 0, _ => none
  | f + 1, i =>
    match compound s f i with
    | some (st, h, j) => some ([st], h.under 1, j)
    | none => (simpleStmts s f i).map fun (xs, h, j) => (xs, h.under 1, j)
termination_by structural f _ => f

/-- Simple statements parted by `;`, to the end of the line; those after the first are read
below a repetition. -/
def simpleStmts (s : Src) : Nat → Nat → Option (List Stmt × Height × Nat)
  | 0, _ => none
  | f + 1, i => do
    let (doc, h, j) ← simpleStmt s f i
    let h := h.under 1
    let sp := s.spanFrom i (s.lastLineBefore j)
    let st := if doc then Stmt.docstring sp else .other sp
    if s.isOp j ";" then
      if s.isKind (j + 1) .newline then pure ([st], h, j + 2)
      else do
        let (rest, hr, k) ← simpleStmts s f (j + 1)
        pure (st :: rest, h.join (hr.under 2), k)
    else if s.isKind j .newline then pure ([st], h, j + 1)
    else none
termination_by structural f _ => f

/-- A block: an indented suite on the next lines, or simple statements on the same line. -/
def block (s : Src) : Nat → Nat → Option (List Stmt × Height × Nat)
  | 0, _ => none
  | f + 1, i =>
    if s.isKind i .newline then
      if s.isKind (i + 1) .indent then do
        let (xs, h, j) ← statements s f (i + 2)
        if s.isKind j .dedent then pure (xs, h.under 1, j + 1) else none
      else none
    else (simpleStmts s f i).map fun (xs, h, j) => (xs, h.under 1, j)
termination_by structural f _ => f

/-- `: block` after a header ending at `i`. -/
def suite (s : Src) : Nat → Nat → Option (List Stmt × Height × Nat)
  | 0, _ => none
  | f + 1, i => if s.isOp i ":" then block s f (i + 1) else none
termination_by structural f _ => f

/-- The `elif` and `else` parts after a block whose last line is `last`: the last line of the
whole statement, the height of what runs otherwise, and where it ends.  An `elif` is a rule of
its own and a statement nested in the one before it. -/
def elseParts (s : Src) : Nat → Nat → Nat → Option (Nat × Height × Nat)
  | 0, _, _ => none
  | f + 1, i, last =>
    if s.isKw i "elif" then do
      let (_, ht, j) ← namedExpression s f (i + 1)
      let (body, hb, k) ← suite s f j
      let (last, hr, m) ← elseParts s f k (lastLine body)
      pure (last, (((ht.join hb).join hr).under 1).child, m)
    else if s.isKw i "else" then do
      let (body, hb, k) ← suite s f (i + 1)
      pure (lastLine body, hb.under 1, k)
    else pure (last, .zero, i)
termination_by structural f _ _ => f

/-- An optional `else` block after a loop or `try` part, below a rule of its own. -/
def optionalElse (s : Src) : Nat → String → Nat → Nat → Option (Nat × Height × Nat)
  | 0, _, _, _ => none
  | f + 1, word, i, last =>
    if s.isKw i word then do
      let (body, h, k) ← suite s f (i + 1)
      pure (lastLine body, h.under 1, k)
    else pure (last, .zero, i)
termination_by structural f _ _ _ => f

/-- `except` clauses of one kind (`except*` when `star`), each a node read below a repetition
and a rule of its own. -/
def exceptClauses (s : Src) : Nat → Bool → Nat → Nat → Option (Nat × Height × Nat)
  | 0, _, _, _ => none
  | f + 1, star, i, last =>
    if !s.isKw i "except" || s.isOp (i + 1) "*" != star then pure (last, .zero, i)
    else do
      let j := if star then i + 2 else i + 1
      let (ht, j) ← if !star && s.isOp j ":" then some (Height.zero, j)
        else do
          let (_, h, k) ← expression s f j
          if s.isKw k "as" then if s.isName (k + 1) then some (h, k + 2) else none else some (h, k)
      let (body, hb, k) ← suite s f j
      let (last, hr, m) ← exceptClauses s f star k (lastLine body)
      pure (last, (((ht.join hb).under 2).child).join hr, m)
termination_by structural f _ _ _ => f

/-- `with` items, with `as` targets, parted by commas; each target is followed by `,`, `)` or
`:`.  Each item is a node, read below a repetition and a rule of its own. -/
def withItems (s : Src) : Nat → Nat → Option (Height × Nat)
  | 0, _ => none
  | f + 1, i => do
    let (_, h, j) ← expression s f i
    let (h, j) ← if s.isKw j "as" then do
        let (_, ht, k) ← starTarget s f (j + 1)
        if s.isOp k "," || s.isOp k ")" || s.isOp k ":" then some (h.join ht, k) else none
      else some (h, j)
    let item := (h.under 2).child
    if s.isOp j "," && !s.isOp (j + 1) ")" then do
      let (hr, k) ← withItems s f (j + 1)
      pure (item.join hr, k)
    else some (item, j)
termination_by structural f _ => f

/-- A function definition from `def` (or `async def`) at `i`, with its decorators' lines and
height; a node above its parameters, return annotation, body and decorators. -/
def functionDef (s : Src) : Nat → Nat → List Nat → Height → Option (Stmt × Height × Nat)
  | 0, _, _, _ => none
  | f + 1, i, decorators, hd => do
    let d := if s.isKw i "async" then i + 1 else i
    if !s.isKw d "def" || !s.isName (d + 1) || !s.isOp (d + 2) "(" then none
    let (hp, j) ← params s f true ")" (d + 3) ⟨false, false, false, false, false⟩
    let (hr, k) ← if s.isOp (j + 1) "->" then
        (expression s f (j + 2)).map fun (_, h, k) => (h.under 1, k)
      else some (Height.zero, j + 1)
    let (body, hb, m) ← suite s f k
    -- the definition's rules: one for it, one for its header and body
    let h := (((hp.child.join hr).join hb).under 2).join hd
    pure (.function (s.nameAt (d + 1)) (s.spanFrom i (lastLine body)) decorators body, h.child, m)
termination_by structural f _ _ _ => f

/-- A class definition from `class` at `i`, with its decorators' lines and height; a node
above its bases, body and decorators. -/
def classDef (s : Src) : Nat → Nat → List Nat → Height → Option (Stmt × Height × Nat)
  | 0, _, _, _ => none
  | f + 1, i, decorators, hd => do
    if !s.isKw i "class" || !s.isName (i + 1) then none
    let (ha, j) ← if s.isOp (i + 2) "(" then argItems s f .positional (i + 3) else some (Height.zero, i + 2)
    let (body, hb, m) ← suite s f j
    let h := ((ha.join hb).under 2).join hd
    pure (.classDef (s.nameAt (i + 1)) (s.spanFrom i (lastLine body)) decorators body, h.child, m)
termination_by structural f _ _ _ => f

/-- Decorators, each `@expression` on its own line, then the definition they decorate; `hd` is
the height of the decorators so far, each read below the decorators' rules. -/
def decorated (s : Src) : Nat → Nat → List Nat → Height → Option (Stmt × Height × Nat)
  | 0, _, _, _ => none
  | f + 1, i, decorators, hd =>
    if s.isOp i "@" then do
      let (_, h, j) ← namedExpression s f (i + 1)
      if !s.isKind j .newline then none
      decorated s f (j + 1) (decorators ++ [(s.tok (groupStart s f (i + 1) j)).line]) (hd.join (h.under 4))
    else if s.isKw i "class" then classDef s f i decorators hd
    else functionDef s f i decorators hd
termination_by structural f _ _ _ => f

/-- `case` blocks of a `match`, to its dedent; each a node, read below a repetition and a rule
of its own. -/
def caseBlocks (s : Src) : Nat → Nat → Nat → Option (Nat × Height × Nat)
  | 0, _, _ => none
  | f + 1, i, last =>
    if s.isKind i .dedent && last > 0 then some (last, .zero, i + 1)
    else if !s.isKw i "case" then none
    else do
      let j ← patterns s f (i + 1)
      let (hg, j) ← if s.isKw j "if" then (namedExpression s f (j + 1)).map fun (_, h, k) => (h.under 1, k)
        else some (Height.zero, j)
      let (body, hb, k) ← suite s f j
      let (last, hr, m) ← caseBlocks s f k (lastLine body)
      -- the pattern is a node of its own below the case
      pure (last, ((((Height.leaf 0).join hg).join hb).under 2).child.join hr, m)
termination_by structural f _ _ => f

/-- A compound statement at `i`, if one starts there, with its height: the statement's rule
below the compound statements' one, a node above its parts. -/
def compound (s : Src) : Nat → Nat → Option (Stmt × Height × Nat)
  | 0, _ => none
  | f + 1, i =>
    let other (r : Option (Nat × Height × Nat)) : Option (Stmt × Height × Nat) :=
      r.map fun (last, h, j) => (.other (s.spanFrom i last), ((h.under 1).child).under 1, j)
    let loopStart := if s.isKw i "async" then i + 1 else i
    let inside (r : Option (Stmt × Height × Nat)) : Option (Stmt × Height × Nat) :=
      r.map fun (st, h, j) => (st, h.under 1, j)
    if s.isOp i "@" then inside (decorated s f i [] .zero)
    else if s.isKw loopStart "def" then inside (functionDef s f i [] .zero)
    else if s.isKw i "class" then inside (classDef s f i [] .zero)
    else if s.isKw i "if" then other (do
      let (_, ht, j) ← namedExpression s f (i + 1)
      let (body, hb, k) ← suite s f j
      let (last, he, m) ← elseParts s f k (lastLine body)
      pure (last, (ht.join hb).join he, m))
    else if s.isKw i "while" then other (do
      let (_, ht, j) ← namedExpression s f (i + 1)
      let (body, hb, k) ← suite s f j
      let (last, he, m) ← optionalElse s f "else" k (lastLine body)
      pure (last, (ht.join hb).join he, m))
    else if s.isKw loopStart "for" then other (do
      let (ht, j) ← starTargets s f (loopStart + 1)
      if !s.isKw j "in" then none
      let (_, hi, k) ← starExpressions s f (j + 1)
      let (body, hb, m) ← suite s f k
      let (last, he, n) ← optionalElse s f "else" m (lastLine body)
      pure (last, ((ht.join hi).join hb).join he, n))
    else if s.isKw loopStart "with" then other (do
      let w := loopStart + 1
      let inParens : Option (Height × Nat) := do
        if !s.isOp w "(" then none
        let (h, j) ← withItems s f (w + 1)
        let j := if s.isOp j "," then j + 1 else j
        if s.isOp j ")" && s.isOp (j + 1) ":" then some (h, j + 1) else none
      let (hw, j) ← inParens.orElse fun _ => withItems s f w
      let (body, hb, k) ← suite s f j
      pure (lastLine body, hw.join hb, k))
    else if s.isKw i "try" then other (do
      let (body, hb, j) ← suite s f (i + 1)
      if s.isKw j "finally" then do
        let (last, hf, k) ← optionalElse s f "finally" j (lastLine body)
        pure (last, hb.join hf, k)
      else if s.isKw j "except" then do
        let (last, hx, k) ← exceptClauses s f (s.isOp (j + 1) "*") j (lastLine body)
        let (last, he, k) ← optionalElse s f "else" k last
        let (last, hf, k) ← optionalElse s f "finally" k last
        pure (last, ((hb.join hx).join he).join hf, k)
      else none)
    else if s.isKw i "match" then other (do
      let (e, h, j) ← starNamedExpression s f (i + 1)
      let (h, j) ← if s.isOp j "," then (starNamedList s f (j + 1)).map fun (_, hr, k) => ((h.join hr).child, k)
        else if e.isStarred then none else some (h, j)
      if !s.isOp j ":" || !s.isKind (j + 1) .newline || !s.isKind (j + 2) .indent then none
      let (last, hc, k) ← caseBlocks s f (j + 3) 0
      pure (last, (h.under 1).join hc, k))
    else none
termination_by structural f _ => f

end

/-- Why a source gives no statements. -/
inductive Refusal where
  /-- The grammar refuses it. -/
  | grammar
  /-- Reading it keeps more rule frames open at once than the parser has. -/
  | outOfFrames
  /-- Its syntax tree is deeper than the room there is to build it. -/
  | tooDeep
  deriving Repr, DecidableEq

/-- The most rule frames the parser keeps open at once. -/
def maxFrames : Nat := 6000

/-- A file's statements and its height (the file's rule a node above them), if the grammar
reads the tokens as a whole file. -/
def fileHeight (ts : Array Token) (fuel : Nat) : Option (List Stmt × Height) :=
  let s : Src := ⟨ts, []⟩
  if s.isKind 0 .endmarker then some ([], .zero)
  else
    match statements s fuel 0 with
    | some (xs, h, j) => if s.isKind j .endmarker then some (xs, (h.under 1).child) else none
    | none => none

/-- Tokens that finish a source cut short: with `operand`, a name for a line that waits for
one, then the open brackets closed, the line ended, `blocks` open blocks closed and the file
ended. -/
def closing (brackets : List Char) (blocks : Nat) (operand : Bool) : Array Token :=
  let tok (kind : TokenKind) (text : String) : Token := ⟨kind, text, 0, 0, 0⟩
  let closers := brackets.map fun c =>
    tok .op (if c == '(' then ")" else if c == '[' then "]" else "\x7d")
  ((if operand then [tok .name "_"] else []) ++ closers ++ [tok .newline ""] ++
    List.replicate blocks (tok .dedent "") ++ [tok .endmarker ""]).toArray

/-- The frames read below the place where the parser first looks at a token, down to a name
standing there: about as many as from an item of a display down to its atom. -/
def peekGap : Nat := 22

/-- The most rule frames a height keeps open at once, `less` frames fewer on the main path. -/
def Height.deepest (h : Height) (less : Nat) : Nat := max (h.frames - less) h.apart

/-- The frames a second reading adds, where the parser looks again for why it failed: a source
the grammar refuses is read once more with rules that describe mistakes, which go a few frames
deeper than the first reading at its deepest. -/
def secondReading : Nat := 3

/-- The most rule frames the parser may have held open before it stopped at the end of `ts`, a
source cut short with `brackets` and `blocks` open; none when no way to finish it reads.  When
the lexical rules refuse the next token (`refused`), the parser went down the deepest path to
the cut only until it looked for that token, and no further elsewhere.  When the grammar refuses
it, the parser went one frame past it, and a second reading goes a little deeper elsewhere. -/
def cutDepth (ts : Array Token) (brackets : List Char) (blocks fuel : Nat) (refused : Bool) :
    Option Nat :=
  let tok (kind : TokenKind) (text : String) : Token := ⟨kind, text, 0, 0, 0⟩
  let finished (mid : List Token) : Option Nat :=
    (fileHeight (ts ++ mid.toArray ++ closing brackets blocks false) fuel).map (·.2.deepest 0)
  let elsewhere (d : Nat) : Nat := if refused then d else d + secondReading
  let before := (finished []).map elsewhere
  -- a name at the cut, and the same name in parentheses: the second is deeper only when the
  -- deepest path leads to the cut
  let atCut := match finished [tok .name "_"], finished [tok .op "(", tok .name "_", tok .op ")"] with
    | some d, some e => some (if d < e then (if refused then d - peekGap else d + 1) else elsewhere d)
    | some d, none => some (elsewhere d)
    | none, _ => none
  match before, atCut with
  | some d, some e => some (max d e)
  | some d, none | none, some d => some d
  | none, none => none

/-- A source cut short is refused as needing too many frames when it reaches that many before
it stops, and by the grammar otherwise. -/
def refuseCut (depth : Option Nat) : Refusal :=
  if (depth.getD 0) > maxFrames then .outOfFrames else .grammar

/-- The statements of a source, or why it gives none: the grammar refuses it, reading it needs
more than `maxFrames` rule frames at once, or its syntax tree (the module a node above its
statements) has more than `room` nodes on a downward path.  The lexical rules are applied as
the parser asks for tokens, so a source they refuse needs too many frames when what comes before
the refusal, finished where it stops, does. -/
def read (source : String) (room : Nat) : Except Refusal (List Stmt) :=
  -- every nesting costs a step, and a literal's fields nest as deep as its characters
  let fuel (ts : Array Token) : Nat := 64 * (ts.size + source.length + 4)
  match scan source with
  | .error stop =>
    let fuel := 64 * (stop.state.tokens.size + source.length + 8)
    .error (refuseCut (cutDepth stop.state.tokens stop.state.brackets (stop.state.indents.length - 1)
      fuel true))
  | .ok ts =>
    match fileHeight ts (fuel ts) with
    | some (xs, h) =>
      if h.deepest 0 > maxFrames then .error .outOfFrames
      else if h.nodes > room then .error .tooDeep
      else pure xs
    | none =>
      -- the grammar refuses the source; read how far it gets before a token no rule takes, or
      -- before its end
      let stray := ts.toList.findIdx? fun t => t.kind == .op && strayChars.any (t.text == String.singleton ·)
      let body : List Token := match stray with
        | some i => ts.toList.take i
        | none => (ts.toList.reverse.dropWhile fun t =>
            t.kind == .newline || t.kind == .dedent || t.kind == .endmarker).reverse
      let brackets := body.foldl (fun (open_ : List Char) t =>
        if t.kind != .op then open_
        else if t.text == "(" || t.text == "[" || t.text == "\x7b" then (t.text.front) :: open_
        else if t.text == ")" || t.text == "]" || t.text == "\x7d" then open_.drop 1
        else open_) []
      let blocks := body.countP (fun t => t.kind == .indent) - body.countP (fun t => t.kind == .dedent)
      .error (refuseCut (cutDepth body.toArray brackets blocks (fuel ts) false))

end Outline

end PracticeForge
