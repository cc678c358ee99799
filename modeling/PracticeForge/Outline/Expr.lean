import PracticeForge.Outline.Literal

/-!
# Outline/Expr — reading Python expressions

The reader follows the expression grammar of the language (version 3.11): conditional
expressions and lambdas, `or`/`and`/`not`, chained comparisons, the binary operators by
precedence, unary signs, powers, `await`, calls, subscripts and slices, attribute access,
literals, displays and comprehensions, starred items and assignment expressions (`:=`) where the
grammar allows them.

A reading gives back only what statements need to know of an expression, its `Shape`: whether
it can be assigned to, whether it is a bare assignment expression, whether it is a plain text
literal (a docstring); and its `Height`: how deep its syntax tree goes, and how many rule frames
the language's own parser keeps open at once to read it.  Each function takes a fuel bound on the
depth of its calls and reads from a token position, giving the shape, the height and the next
position, or nothing when no expression of its kind starts there.  Formatted string literals are
read too: the text of every replacement field must itself read as an expression.

A height's frames count the rules of the language's grammar that nest to read each construct:
one per rule, two for a left-recursive one (`sum`, `term`, the bitwise levels, `primary`), so
that a sign, a `not` or a conditional's `else` part is one frame deeper, a power's exponent or a
lambda's body two; operands of a left-associative operator and trailers (`.b`, `()`, `[i]`) stay
at the same depth however many there are.
-/

namespace PracticeForge

namespace Outline

/-- The words that are never names. -/
def keywords : List String :=
  ["False", "None", "True", "and", "as", "assert", "async", "await", "break", "class", "continue",
    "def", "del", "elif", "else", "except", "finally", "for", "from", "global", "if", "import", "in",
    "is", "lambda", "nonlocal", "not", "or", "pass", "raise", "return", "try", "while", "with",
    "yield"]

/-- What statements need to know of an expression. -/
inductive Shape where
  | name
  | attribute
  | subscript
  | starred (inner : Shape)
  | tuple (items : List Shape)
  | list (items : List Shape)
  /-- An assignment expression (`x := e`) not inside brackets. -/
  | walrus
  /-- A text literal, or several side by side, none formatted. -/
  | text
  | other
  deriving Repr, Inhabited

mutual

/-- Whether an expression can be assigned to by `=` or `for`: a name, attribute or subscript, a
starred target, or a tuple or list of targets. -/
def Shape.isTarget : Shape → Bool
  | .name | .attribute | .subscript => true
  | .starred s => s.isTarget
  | .tuple xs | .list xs => Shape.allTargets xs
  | _ => false

/-- Whether every item is a target. -/
def Shape.allTargets : List Shape → Bool
  | [] => true
  | s :: rest => s.isTarget && Shape.allTargets rest

end

mutual

/-- Whether an expression can be deleted: as a target, but nothing starred. -/
def Shape.isDeletable : Shape → Bool
  | .name | .attribute | .subscript => true
  | .tuple xs | .list xs => Shape.allDeletable xs
  | _ => false

/-- Whether every item can be deleted. -/
def Shape.allDeletable : List Shape → Bool
  | [] => true
  | s :: rest => s.isDeletable && Shape.allDeletable rest

end

/-- Whether an expression is a single target: a name, attribute or subscript. -/
def Shape.isSingle : Shape → Bool
  | .name | .attribute | .subscript => true
  | _ => false

/-- Whether this is a starred item. -/
def Shape.isStarred : Shape → Bool
  | .starred _ => true
  | _ => false

/-- How high a piece of syntax stands: the nodes on the longest downward path of its syntax tree,
the most rule frames the language's parser has open at once while reading it, its own included,
and the most frames a parser of its own needs for a part read apart (a replacement field of a
formatted string). -/
structure Height where
  nodes : Nat
  frames : Nat
  apart : Nat
  deriving Repr, Inhabited

namespace Height

/-- Nothing read. -/
def zero : Height := ⟨0, 0, 0⟩

/-- A leaf of the tree, read in some frames. -/
def leaf (frames : Nat) : Height := ⟨1, frames, 0⟩

/-- The higher of two, in each measure. -/
def join (a b : Height) : Height := ⟨max a.nodes b.nodes, max a.frames b.frames, max a.apart b.apart⟩

/-- Read that many frames further down. -/
def under (h : Height) (frames : Nat) : Height := { h with frames := h.frames + frames }

/-- Hung below one more node. -/
def child (h : Height) : Height := { h with nodes := h.nodes + 1 }

end Height

/-- The tokens being read, and where primaries start that were read before, as assignment
targets: read again, such a primary finds its parts already read, so its frames are few. -/
structure Src where
  toks : Array Token
  known : List Nat

namespace Src

/-- The token at a position; past the end, the end marker. -/
def tok (s : Src) (i : Nat) : Token := s.toks.getD i default

/-- Whether the token at `i` is the operator `o`. -/
def isOp (s : Src) (i : Nat) (o : String) : Bool :=
  let t := s.tok i
  t.kind == .op && t.text == o

/-- Whether the token at `i` is the word `k` (a keyword, or a soft keyword). -/
def isKw (s : Src) (i : Nat) (k : String) : Bool :=
  let t := s.tok i
  t.kind == .name && t.text == k

/-- Whether the token at `i` is a name that is no keyword. -/
def isName (s : Src) (i : Nat) : Bool :=
  let t := s.tok i
  t.kind == .name && !keywords.contains t.text

/-- Whether the token at `i` is of a kind. -/
def isKind (s : Src) (i : Nat) (k : TokenKind) : Bool := (s.tok i).kind == k

/-- Whether a comprehension clause starts at `i`. -/
def startsFor (s : Src) (i : Nat) : Bool :=
  s.isKw i "for" || (s.isKw i "async" && s.isKw (i + 1) "for")

end Src

/-- The binary operators by level, loosest first; level 6 is the unary level. -/
def binaryOps : List (List String) :=
  [["|"], ["^"], ["&"], ["<<", ">>"], ["+", "-"], ["*", "/", "//", "%", "@"]]

/-- The comparison operators of one token. -/
def comparisonOps : List String := ["==", "!=", "<", "<=", ">", ">="]

/-- The augmented assignment operators. -/
def augmentedOps : List String :=
  ["+=", "-=", "*=", "@=", "/=", "%=", "&=", "|=", "^=", "<<=", ">>=", "**=", "//="]

/-- The argument phases of a call: plain arguments may come first, then keywords and starred
items, then keywords and double-starred items. -/
inductive ArgPhase where
  | positional
  | keywords
  | mappings
  deriving DecidableEq

/-- The state of a parameter list being read. -/
structure ParamState where
  seenDefault : Bool
  seenSlash : Bool
  seenStar : Bool
  /-- A bare `*` still waits for a keyword-only parameter. -/
  needKeyword : Bool
  seenParam : Bool

mutual

/-- Expressions parted by commas, starred ones allowed; two or more (or a trailing comma) make
a tuple. -/
def starExpressions (s : Src) : Nat → Nat → Option (Shape × Height × Nat)
  | 0, _ => none
  | f + 1, i => do
    let (e, h, j) ← starExpression s f i
    if s.isOp j "," then
      let (rest, hr, k) ← starExpressionList s f (j + 1)
      -- the items after the first are read inside a repetition and a group
      pure (.tuple (e :: rest), ((h.under 1).join (hr.under 3)).child, k)
    else pure (e, h.under 1, j)
termination_by structural f _ => f

/-- The items after a comma of `starExpressions`, possibly none. -/
def starExpressionList (s : Src) : Nat → Nat → Option (List Shape × Height × Nat)
  | 0, _ => none
  | f + 1, i =>
    match starExpression s f i with
    | none => some ([], .zero, i)
    | some (e, h, j) =>
      if s.isOp j "," then do
        let (rest, hr, k) ← starExpressionList s f (j + 1)
        pure (e :: rest, h.join hr, k)
      else some ([e], h, j)
termination_by structural f _ => f

/-- An expression, or a starred operand. -/
def starExpression (s : Src) : Nat → Nat → Option (Shape × Height × Nat)
  | 0, _ => none
  | f + 1, i =>
    if s.isOp i "*" then do
      let (e, h, j) ← binary s f 0 (i + 1)
      pure (.starred e, (h.under 1).child, j)
    else do
      let (e, h, j) ← expression s f i
      pure (e, h.under 1, j)
termination_by structural f _ => f

/-- An assignment expression or expression, or a starred operand. -/
def starNamedExpression (s : Src) : Nat → Nat → Option (Shape × Height × Nat)
  | 0, _ => none
  | f + 1, i =>
    if s.isOp i "*" then do
      let (e, h, j) ← binary s f 0 (i + 1)
      pure (.starred e, (h.under 1).child, j)
    else do
      let (e, h, j) ← namedExpression s f i
      pure (e, h.under 1, j)
termination_by structural f _ => f

/-- The items after a comma in a display, possibly none. -/
def starNamedList (s : Src) : Nat → Nat → Option (List Shape × Height × Nat)
  | 0, _ => none
  | f + 1, i =>
    match starNamedExpression s f i with
    | none => some ([], .zero, i)
    | some (e, h, j) =>
      if s.isOp j "," then do
        let (rest, hr, k) ← starNamedList s f (j + 1)
        pure (e :: rest, h.join hr, k)
      else some ([e], h, j)
termination_by structural f _ => f

/-- An assignment expression `name := e`, or an expression not followed by `:=`. -/
def namedExpression (s : Src) : Nat → Nat → Option (Shape × Height × Nat)
  | 0, _ => none
  | f + 1, i =>
    if s.isName i && s.isOp (i + 1) ":=" then do
      let (_, h, j) ← expression s f (i + 2)
      pure (.walrus, (h.under 2).child, j)
    else do
      let (e, h, j) ← expression s f i
      if s.isOp j ":=" then none else pure (e, h.under 1, j)
termination_by structural f _ => f

/-- A conditional expression, a lambda, or a disjunction. -/
def expression (s : Src) : Nat → Nat → Option (Shape × Height × Nat)
  | 0, _ => none
  | f + 1, i =>
    if s.isKw i "lambda" then do
      let (hp, j) ← params s f false ":" (i + 1) ⟨false, false, false, false, false⟩
      let (_, h, k) ← expression s f (j + 1)
      -- the lambda is a rule of its own below this one
      pure (.other, ((hp.child.under 2).join (h.under 2)).child, k)
    else do
      let (e, h, j) ← logic s f 0 i
      let plain := (e, h.under 1, j)
      if s.isKw j "if" then
        match logic s f 0 (j + 1) with
        | some (_, h2, k) =>
          if s.isKw k "else" then
            match expression s f (k + 1) with
            | some (_, h3, m) => pure (.other, (((h.join h2).join h3).under 1).child, m)
            | none => pure plain
          else pure plain
        | none => pure plain
      else pure plain
termination_by structural f _ => f

/-- The boolean levels: `or` (level 0) of `and` (level 1) of `not` (level 2) of comparisons. -/
def logic (s : Src) : Nat → Nat → Nat → Option (Shape × Height × Nat)
  | 0, _, _ => none
  | f + 1, lvl, i =>
    if lvl ≥ 2 then
      if s.isKw i "not" then do
        let (_, h, j) ← logic s f 2 (i + 1)
        pure (.other, (h.under 1).child, j)
      else do
        let (e, h, j) ← comparison s f i
        pure (e, h.under 1, j)
    else do
      let (e, h, j) ← logic s f (lvl + 1) i
      logicTail s f lvl e (h.under 1) false j
termination_by structural f _ _ => f

/-- More operands of an `or` (level 0) or an `and` (level 1), after operands of height `acc`;
`more` says whether there were two or more, which makes one node of them all. -/
def logicTail (s : Src) : Nat → Nat → Shape → Height → Bool → Nat → Option (Shape × Height × Nat)
  | 0, _, _, _, _, _ => none
  | f + 1, lvl, e, acc, more, i =>
    let done := (e, if more then acc.child else acc, i)
    if s.isKw i (if lvl == 0 then "or" else "and") then
      match logic s f (lvl + 1) (i + 1) with
      -- the later operands are read inside a repetition and a group
      | some (_, h, j) => logicTail s f lvl .other (acc.join (h.under 3)) true j
      | none => pure done
    else pure done
termination_by structural f _ _ _ _ _ => f

/-- An operand, then any comparisons. -/
def comparison (s : Src) : Nat → Nat → Option (Shape × Height × Nat)
  | 0, _ => none
  | f + 1, i => do
    let (e, h, j) ← binary s f 0 i
    comparisonTail s f e (h.under 1) false j
termination_by structural f _ => f

/-- The comparisons after operands of height `acc`; `more` says whether there were any, which
makes one node of them all. -/
def comparisonTail (s : Src) : Nat → Shape → Height → Bool → Nat → Option (Shape × Height × Nat)
  | 0, _, _, _, _ => none
  | f + 1, e, acc, more, i =>
    let done := (e, if more then acc.child else acc, i)
    let opEnd : Option Nat :=
      if comparisonOps.any (s.isOp i ·) || s.isKw i "in" then some (i + 1)
      else if s.isKw i "not" && s.isKw (i + 1) "in" then some (i + 2)
      else if s.isKw i "is" then some (if s.isKw (i + 1) "not" then i + 2 else i + 1)
      else none
    match opEnd with
    | some j =>
      match binary s f 0 j with
      -- each later operand is read inside a repetition, a pair and the operator's rule
      | some (_, h, k) => comparisonTail s f .other (acc.join (h.under 4)) true k
      | none => pure done
    | none => pure done
termination_by structural f _ _ _ _ => f

/-- The binary operators of a level and tighter. -/
def binary (s : Src) : Nat → Nat → Nat → Option (Shape × Height × Nat)
  | 0, _, _ => none
  | f + 1, lvl, i =>
    if lvl ≥ 6 then factor s f i
    else do
      let (e, h, j) ← binary s f (lvl + 1) i
      binaryTail s f lvl e (h.under 2) j
termination_by structural f _ _ => f

/-- More operands at a binary level, after what was read so far, of height `acc`: each
operator makes a node above what is left of it. -/
def binaryTail (s : Src) : Nat → Nat → Shape → Height → Nat → Option (Shape × Height × Nat)
  | 0, _, _, _, _ => none
  | f + 1, lvl, e, acc, i =>
    if (binaryOps.getD lvl []).any (s.isOp i ·) then
      match binary s f (lvl + 1) (i + 1) with
      | some (_, h, j) => binaryTail s f lvl .other (acc.join (h.under 2)).child j
      | none => pure (e, acc, i)
    else pure (e, acc, i)
termination_by structural f _ _ _ _ => f

/-- A signed operand, or a power. -/
def factor (s : Src) : Nat → Nat → Option (Shape × Height × Nat)
  | 0, _ => none
  | f + 1, i =>
    if s.isOp i "+" || s.isOp i "-" || s.isOp i "~" then do
      let (_, h, j) ← factor s f (i + 1)
      pure (.other, (h.under 1).child, j)
    else do
      let (e, h, j) ← awaitPrimary s f i
      -- a power is a rule below this one, and its exponent is a signed operand again
      let base := h.under 2
      if s.isOp j "**" then
        match factor s f (j + 1) with
        | some (_, h2, k) => pure (.other, (base.join (h2.under 2)).child, k)
        | none => pure (e, base, j)
      else pure (e, base, j)
termination_by structural f _ => f

/-- A primary, possibly awaited. -/
def awaitPrimary (s : Src) : Nat → Nat → Option (Shape × Height × Nat)
  | 0, _ => none
  | f + 1, i =>
    if s.isKw i "await" then do
      let (_, h, j) ← primary s f (i + 1)
      pure (.other, (h.under 1).child, j)
    else do
      let (e, h, j) ← primary s f i
      pure (e, h.under 1, j)
termination_by structural f _ => f

/-- An atom followed by attribute accesses, calls and subscripts. -/
def primary (s : Src) : Nat → Nat → Option (Shape × Height × Nat)
  | 0, _ => none
  | f + 1, i => do
    let (a, h, j) ← atom s f i
    let (e, h, k) ← trailers s f a (h.under 2) j
    -- read before as a target, its parts are found again rather than read
    if s.known.contains i then pure (e, { h with frames := min h.frames 9 }, k) else pure (e, h, k)
termination_by structural f _ => f

/-- Attribute accesses, calls and subscripts after a primary of height `acc`, each a node above
it. -/
def trailers (s : Src) : Nat → Shape → Height → Nat → Option (Shape × Height × Nat)
  | 0, _, _, _ => none
  | f + 1, e, acc, i =>
    if s.isOp i "." then
      if s.isName (i + 1) then trailers s f .attribute acc.child (i + 2) else pure (e, acc, i)
    else if s.isOp i "(" then do
      let (h, j) ← callArgs s f (i + 1)
      trailers s f .other (acc.join (h.under 2)).child j
    else if s.isOp i "[" then do
      let (h, j) ← slices s f (i + 1)
      if s.isOp j "]" then trailers s f .subscript (acc.join (h.under 2)).child (j + 1) else none
    else pure (e, acc, i)
termination_by structural f _ _ _ => f

/-- A name, a constant, text literals, or a bracketed form. -/
def atom (s : Src) : Nat → Nat → Option (Shape × Height × Nat)
  | 0, _ => none
  | f + 1, i =>
    let t := s.tok i
    let inside (r : Option (Shape × Height × Nat)) : Option (Shape × Height × Nat) :=
      r.map fun (e, h, j) => (e, h.under 1, j)
    if s.isName i then some (.name, .leaf 1, i + 1)
    else if s.isKw i "True" || s.isKw i "False" || s.isKw i "None" || t.kind == .number ||
        s.isOp i "..." then some (.other, .leaf 1, i + 1)
    else if t.kind == .string then inside (strings s f true false (Literal.ofToken t.text).isBytes .zero i)
    else if s.isOp i "(" then inside (paren s f (i + 1))
    else if s.isOp i "[" then inside (bracket s f (i + 1))
    else if s.isOp i "\x7b" then inside (brace s f (i + 1))
    else none
termination_by structural f _ => f

/-- String tokens side by side: text and bytes may not mix, and every replacement field of a
formatted one must read as an expression.  The flags say whether all so far are plain text,
whether any is formatted and whether the first is of bytes; `fields` is the height of the
fields so far.  Formatted text is a node above a node for each field. -/
def strings (s : Src) : Nat → Bool → Bool → Bool → Height → Nat → Option (Shape × Height × Nat)
  | 0, _, _, _, _, _ => none
  | f + 1, plain, formatted, bytes, fields, i =>
    if !s.isKind i .string then none
    else
      let lit := Literal.ofToken (s.tok i).text
      if lit.isBytes != bytes then none
      else
        match lit.check with
        | .error _ => none
        | .ok texts => do
          let hs ← texts.mapM (fieldHeight f ·)
          let fields := hs.foldl Height.join fields
          let plain := plain && !lit.isFormatted && !lit.isBytes
          let formatted := formatted || lit.isFormatted
          if s.isKind (i + 1) .string then strings s f plain formatted lit.isBytes fields (i + 1)
          else
            let h : Height := if formatted then ⟨2 + fields.nodes, 1, fields.apart⟩ else .leaf 1
            some (if plain then .text else .other, h, i + 1)
termination_by structural f _ _ _ _ _ => f

/-- The height of a replacement field's expression, read as if in parentheses; nothing when it
does not read.  A field is read by a parser of its own, below its start rule, so its frames do
not add up with the literal's. -/
def fieldHeight : Nat → String → Option Height
  | 0, _ => none
  | f + 1, text =>
    match tokens ("(" ++ text ++ ")") with
    | .ok ts => (starExpressions ⟨ts, []⟩ f 0).map fun (_, h, _) => ⟨h.nodes, 0, max h.apart (h.frames + 1)⟩
    | .error _ => none
termination_by structural f _ => f

/-- What follows `(`: an empty tuple, a parenthesized yield, a generator, a tuple or a group.
The contents are read below a choice of forms, a tuple's rule and a group. -/
def paren (s : Src) : Nat → Nat → Option (Shape × Height × Nat)
  | 0, _ => none
  | f + 1, i =>
    if s.isOp i ")" then some (.tuple [], .leaf 2, i + 1)
    else if s.isKw i "yield" then do
      let (h, j) ← yieldExpr s f i
      if s.isOp j ")" then some (.other, h.under 3, j + 1) else none
    else do
      let (e, h, j) ← starNamedExpression s f i
      let first := h.under 3
      if s.startsFor j then
        if e.isStarred then none
        else do
          let (hc, k) ← compFor s f j
          if s.isOp k ")" then some (.other, (first.join (hc.under 2)).child, k + 1) else none
      else if s.isOp j "," then do
        let (rest, hr, k) ← starNamedList s f (j + 1)
        if s.isOp k ")" then some (.tuple (e :: rest), (first.join (hr.under 5)).child, k + 1) else none
      else if s.isOp j ")" && !e.isStarred then
        some (match e with
          | .walrus => .other
          | e => e, first, j + 1)
      else none
termination_by structural f _ => f

/-- What follows `[`: a list display or a list comprehension. -/
def bracket (s : Src) : Nat → Nat → Option (Shape × Height × Nat)
  | 0, _ => none
  | f + 1, i =>
    if s.isOp i "]" then some (.list [], .leaf 2, i + 1)
    else do
      let (e, h, j) ← starNamedExpression s f i
      let first := h.under 4
      if s.startsFor j then
        if e.isStarred then none
        else do
          let (hc, k) ← compFor s f j
          if s.isOp k "]" then some (.other, (first.join (hc.under 2)).child, k + 1) else none
      else if s.isOp j "," then do
        let (rest, hr, k) ← starNamedList s f (j + 1)
        if s.isOp k "]" then some (.list (e :: rest), (first.join (hr.under 5)).child, k + 1) else none
      else if s.isOp j "]" then some (.list [e], first.child, j + 1)
      else none
termination_by structural f _ => f

/-- What follows `{`: a dict or set display, or a comprehension of either. -/
def brace (s : Src) : Nat → Nat → Option (Shape × Height × Nat)
  | 0, _ => none
  | f + 1, i =>
    if s.isOp i "\x7d" then some (.other, .leaf 2, i + 1)
    else if s.isOp i "**" then do
      let (_, h, j) ← binary s f 0 (i + 1)
      let (hd, k) ← dictItems s f j
      if s.isOp k "\x7d" then some (.other, ((h.under 5).join hd).child, k + 1) else none
    else do
      let (e, h, j) ← starNamedExpression s f i
      let first := h.under 4
      if s.isOp j ":" then
        match e with
        | .starred _ | .walrus => none
        | _ => do
          let (_, hv, k) ← expression s f (j + 1)
          -- a value is read below the rules of a dict's items
          let pair := first.join (hv.under 6)
          if s.startsFor k then do
            let (hc, m) ← compFor s f k
            if s.isOp m "\x7d" then some (.other, (pair.join (hc.under 2)).child, m + 1) else none
          else do
            let (hd, m) ← dictItems s f k
            if s.isOp m "\x7d" then some (.other, (pair.join hd).child, m + 1) else none
      else if s.startsFor j then
        if e.isStarred then none
        else do
          let (hc, k) ← compFor s f j
          if s.isOp k "\x7d" then some (.other, (first.join (hc.under 2)).child, k + 1) else none
      else if s.isOp j "," then do
        let (_, hr, k) ← starNamedList s f (j + 1)
        if s.isOp k "\x7d" then some (.other, (first.join (hr.under 5)).child, k + 1) else none
      else if s.isOp j "\x7d" then some (.other, first.child, j + 1)
      else none
termination_by structural f _ => f

/-- The items of a dict display after its first: `, key: value` or `, **mapping`, a trailing
comma allowed; their height. -/
def dictItems (s : Src) : Nat → Nat → Option (Height × Nat)
  | 0, _ => none
  | f + 1, i =>
    if !s.isOp i "," then some (.zero, i)
    else if s.isOp (i + 1) "**" then
      match binary s f 0 (i + 2) with
      | some (_, h, j) => do
        let (hd, k) ← dictItems s f j
        pure ((h.under 6).join hd, k)
      | none => some (.zero, i + 1)
    else
      match expression s f (i + 1) with
      | some (_, h, j) =>
        if s.isOp j ":" then do
          let (_, hv, k) ← expression s f (j + 1)
          let (hd, m) ← dictItems s f k
          pure (((h.under 6).join (hv.under 7)).join hd, m)
        else none
      | none => some (.zero, i + 1)
termination_by structural f _ => f

/-- Comprehension clauses: `for targets in disjunction`, each with any `if` conditions; each
clause is a node above its parts. -/
def compFor (s : Src) : Nat → Nat → Option (Height × Nat)
  | 0, _ => none
  | f + 1, i =>
    let i := if s.isKw i "async" then i + 1 else i
    if !s.isKw i "for" then none
    else do
      let (ht, j) ← starTargets s f (i + 1)
      if !s.isKw j "in" then none
      let (_, hi, k) ← logic s f 0 (j + 1)
      let (hf, k) ← compIfs s f k
      let clause := (((ht.join hi).under 3).join (hf.under 5)).child
      if s.startsFor k then do
        let (hr, m) ← compFor s f k
        pure (clause.join hr, m)
      else pure (clause, k)
termination_by structural f _ => f

/-- The `if` conditions of a comprehension clause, and their height. -/
def compIfs (s : Src) : Nat → Nat → Option (Height × Nat)
  | 0, _ => none
  | f + 1, i =>
    if s.isKw i "if" then do
      let (_, h, j) ← logic s f 0 (i + 1)
      let (hr, k) ← compIfs s f j
      pure (h.join hr, k)
    else some (.zero, i)
termination_by structural f _ => f

/-- Targets parted by commas, a trailing comma allowed, as after `for`; two or more are a tuple. -/
def starTargets (s : Src) : Nat → Nat → Option (Height × Nat)
  | 0, _ => none
  | f + 1, i => do
    let (_, h, j) ← starTarget s f i
    if s.isOp j "," then do
      let (hr, k) ← starTargetList s f (j + 1)
      pure (((h.join hr).under 1).child, k)
    else pure (h.under 1, j)
termination_by structural f _ => f

/-- More targets after a comma, possibly none. -/
def starTargetList (s : Src) : Nat → Nat → Option (Height × Nat)
  | 0, _ => none
  | f + 1, i =>
    match starTarget s f i with
    | none => some (.zero, i)
    | some (_, h, j) =>
      if s.isOp j "," then do
        let (hr, k) ← starTargetList s f (j + 1)
        pure (h.join hr, k)
      else some (h, j)
termination_by structural f _ => f

/-- One target: starred, or a primary that can be assigned to. -/
def starTarget (s : Src) : Nat → Nat → Option (Shape × Height × Nat)
  | 0, _ => none
  | f + 1, i =>
    if s.isOp i "*" then
      if s.isOp (i + 1) "*" then none
      else do
        let (e, h, j) ← starTarget s f (i + 1)
        pure (.starred e, (h.under 1).child, j)
    else do
      let (e, h, j) ← primary s f i
      if e.isTarget then pure (e, h.under 2, j) else none
termination_by structural f _ => f

/-- The subscript of `[...]`: one slice, or slices and starred items parted by commas, which
make a tuple. -/
def slices (s : Src) : Nat → Nat → Option (Height × Nat)
  | 0, _ => none
  | f + 1, i => do
    let (h, j) ← sliceItem s f i
    if s.isOp j "," then do
      let (hr, k) ← sliceList s f (j + 1)
      -- the slices after the first are read below a repetition and a choice
      pure (((h.under 1).join (hr.under 4)).child, k)
    else pure (h.under 1, j)
termination_by structural f _ => f

/-- More slices after a comma, possibly none. -/
def sliceList (s : Src) : Nat → Nat → Option (Height × Nat)
  | 0, _ => none
  | f + 1, i =>
    match sliceItem s f i with
    | none => some (.zero, i)
    | some (h, j) =>
      if s.isOp j "," then do
        let (hr, k) ← sliceList s f (j + 1)
        pure (h.join hr, k)
      else some (h, j)
termination_by structural f _ => f

/-- One slice `lower:upper:step` (each part optional, a node above them), an assignment
expression, or a starred item.  Its parts are read below the slice's rule, the step below one
more. -/
def sliceItem (s : Src) : Nat → Nat → Option (Height × Nat)
  | 0, _ => none
  | f + 1, i =>
    let rest (lower : Height) (j : Nat) : Option (Height × Nat) :=
      -- after the first colon
      let (upper, j) := match expression s f (j + 1) with
        | some (_, h, k) => (h.under 1, k)
        | none => (Height.zero, j + 1)
      let parts := lower.join upper
      if s.isOp j ":" then
        match expression s f (j + 1) with
        | some (_, h, k) => some ((parts.join (h.under 2)).child, k)
        | none => some (parts.child, j + 1)
      else some (parts.child, j)
    if s.isOp i "*" then do
      let (_, h, j) ← expression s f (i + 1)
      pure ((h.under 1).child, j)
    else if s.isOp i ":" then rest .zero i
    else do
      -- the lower bound or index is read first as the slice's own expression
      let (e, h, j) ← namedExpression s f i
      if s.isOp j ":" then
        match e with
        | .walrus => none
        | _ => rest h j
      else pure (h, j)
termination_by structural f _ => f

/-- The arguments of a call, from after `(` to after `)`: a lone generator, or arguments; their
height.  A first positional argument is read once, whichever it turns out to be. -/
def callArgs (s : Src) : Nat → Nat → Option (Height × Nat)
  | 0, _ => none
  | f + 1, i =>
    if s.isOp i ")" then some (.zero, i + 1)
    else if s.isOp i "*" || s.isOp i "**" || (s.isName i && s.isOp (i + 1) "=") then
      argItems s f .positional i
    else do
      -- a first positional argument is read first as a generator's element, below the
      -- generator's rule and a choice
      let (_, h, j) ← namedExpression s f i
      let h := h.under 1
      if s.startsFor j then do
        let (hc, k) ← compFor s f j
        if s.isOp k ")" then some ((h.join (hc.under 1)).child, k + 1) else none
      else if s.isOp j "," then do
        let (hr, k) ← argItems s f .positional (j + 1)
        pure (h.join hr, k)
      else if s.isOp j ")" then some (h, j + 1)
      else none
termination_by structural f _ => f

/-- Arguments from `i` to after `)`, in the phases the grammar allows; their height.  A
keyword or starred argument is a node above its value; all are read below the rules of the
argument list. -/
def argItems (s : Src) : Nat → ArgPhase → Nat → Option (Height × Nat)
  | 0, _, _ => none
  | f + 1, phase, i =>
    if s.isOp i ")" then some (.zero, i + 1)
    else do
      let (phase, h, j) ←
        if s.isOp i "*" then
          if phase == .mappings then none
          else do
            let (_, h, j) ← expression s f (i + 1)
            pure (phase, (h.under 5).child, j)
        else if s.isOp i "**" then do
          let (_, h, j) ← expression s f (i + 1)
          pure (ArgPhase.mappings, (h.under 5).child, j)
        else if s.isName i && s.isOp (i + 1) "=" then do
          let (_, h, j) ← expression s f (i + 2)
          pure (if phase == .positional then ArgPhase.keywords else phase, (h.under 5).child, j)
        else if phase != .positional then none
        else do
          let (_, h, j) ← namedExpression s f i
          if s.isOp j "=" then none else pure (phase, h.under 5, j)
      if s.isOp j "," then do
        let (hr, k) ← argItems s f phase (j + 1)
        pure (h.join hr, k)
      else if s.isOp j ")" then some (h, j + 1)
      else none
termination_by structural f _ _ => f

/-- Parameters up to the `stop` token (`)` for a function, `:` for a lambda), annotated when
`annotated`; gives their height and the position of `stop`.  A parameter is a node, above its
annotation; a default hangs beside it. -/
def params (s : Src) : Nat → Bool → String → Nat → ParamState → Option (Height × Nat)
  | 0, _, _, _, _ => none
  | f + 1, annotated, stop, i, st =>
    -- an annotation is read below the parameter's rules, a default below its own
    let annotation (j : Nat) (starred : Bool) : Option (Height × Nat) :=
      if annotated && s.isOp j ":" then
        if starred then (starExpression s f (j + 1)).map fun (_, h, k) => ((h.under 3).child, k)
        else (expression s f (j + 1)).map fun (_, h, k) => ((h.under 3).child, k)
      else some (.leaf 0, j)
    let next (h : Height) (j : Nat) (st : ParamState) : Option (Height × Nat) :=
      if s.isOp j "," then (params s f annotated stop (j + 1) st).map fun (hr, k) => (h.join hr, k)
      else if s.isOp j stop then if st.needKeyword then none else some (h, j)
      else none
    if s.isOp i stop then if st.needKeyword then none else some (.zero, i)
    else if s.isOp i "/" then
      if st.seenSlash || st.seenStar || !st.seenParam then none
      else next .zero (i + 1) { st with seenSlash := true }
    else if s.isOp i "*" then
      if st.seenStar then none
      else if s.isName (i + 1) then do
        let (h, j) ← annotation (i + 2) true
        next (h.under 4) j { st with seenStar := true }
      else if s.isOp (i + 1) "," then next .zero (i + 1) { st with seenStar := true, needKeyword := true }
      else none
    else if s.isOp i "**" then
      if !s.isName (i + 1) || st.needKeyword then none
      else do
        let (h, j) ← annotation (i + 2) false
        let j := if s.isOp j "," then j + 1 else j
        if s.isOp j stop then some (h.under 4, j) else none
    else if s.isName i then do
      let (ha, j) ← annotation (i + 1) false
      let (hasDefault, hd, j) ← if s.isOp j "=" then do
          let (_, h, k) ← expression s f (j + 1)
          pure (true, h.under 2, k)
        else pure (false, Height.zero, j)
      let seenDefault := st.seenDefault || (hasDefault && !st.seenStar)
      if !st.seenStar && !hasDefault && st.seenDefault then none
      else next ((ha.join hd).under 4) j ⟨seenDefault, st.seenSlash, st.seenStar, false, true⟩
    else none
termination_by structural f _ _ _ _ => f

/-- A yield expression: `yield from e`, or `yield` with optional expressions; a node above its
value. -/
def yieldExpr (s : Src) : Nat → Nat → Option (Height × Nat)
  | 0, _ => none
  | f + 1, i =>
    if !s.isKw i "yield" then none
    else if s.isKw (i + 1) "from" then (expression s f (i + 2)).map fun (_, h, j) => ((h.under 1).child, j)
    else
      match starExpressions s f (i + 1) with
      | some (_, h, j) => some ((h.under 1).child, j)
      | none => some (.leaf 1, i + 1)
termination_by structural f _ => f

end

end Outline

end PracticeForge
