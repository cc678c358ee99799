import PracticeForge.Machine.Bytes

/-!
# Machine/Utility/Options — reading a utility's options

The utilities read their options the GNU way.  Options may come anywhere among the operands,
until `--`; a lone `-` is an operand.  A short option is a letter after `-`, several letters may
share one `-`, and a letter that takes an argument takes the rest of its word or else the next
word.  A long option is `--name`, its argument after `=` or in the next word; a name may be
shortened to any prefix that fits only one option (an exact name always wins).

The complaints are GNU's: an invalid letter, an unrecognised or ambiguous name, a missing
argument, or an argument given to a long option that takes none.
-/

namespace PracticeForge

namespace Machine

namespace Utility

/-- Whether an option takes an argument. -/
inductive ArgKind where
  | none
  | required
  | optional
  deriving BEq

/-- The options a utility knows: short letters and long names, each with the key it is known by
and whether it takes an argument. -/
structure OptTable where
  short : List (Char × ArgKind)
  long : List (String × String × ArgKind)

/-- Why the options could not be read. -/
inductive OptError where
  | invalid (c : UInt8)
  | unrecognized (word : Bytes)
  | ambiguous (word : Bytes) (names : List String)
  | needsArg (c : UInt8)
  | longNeedsArg (name : String)
  | takesNoArg (name : String)

/-- The complaint, after the utility's name and `: `. -/
def OptError.message : OptError → Bytes
  | .invalid c => Bytes.ofString "invalid option -- '" ++ [c] ++ Bytes.ofString "'"
  | .unrecognized w => Bytes.ofString "unrecognized option '" ++ w ++ Bytes.ofString "'"
  | .ambiguous w names => Bytes.ofString "option '" ++ w ++ Bytes.ofString "' is ambiguous; possibilities:" ++
      Bytes.ofString (String.join (names.map fun n => " '--" ++ n ++ "'"))
  | .needsArg c => Bytes.ofString "option requires an argument -- '" ++ [c] ++ Bytes.ofString "'"
  | .longNeedsArg n => Bytes.ofString ("option '--" ++ n ++ "' requires an argument")
  | .takesNoArg n => Bytes.ofString ("option '--" ++ n ++ "' doesn't allow an argument")

/-- Options read: each key with its argument, in order, and the operands. -/
abbrev Parsed := List (String × Option Bytes) × List Bytes

/-- Finds a long option by a name or a prefix of one. -/
def findLong (t : OptTable) (name : Bytes) : Except OptError (String × String × ArgKind) :=
  let n := String.fromUTF8? (Bytes.toArray name) |>.getD ""
  match t.long.find? (·.1 == n) with
  | some o => .ok o
  | none =>
    let matches_ := t.long.filter fun o => n.isPrefixOf o.1
    -- names leading to the same key are one option
    let keys := matches_.foldl (fun acc o => if acc.contains o.2.1 then acc else acc ++ [o.2.1]) []
    match matches_, keys with
    | o :: _, [_] => .ok o
    | [], _ => .error (.unrecognized (Bytes.ofString "--" ++ name))
    | _, _ => .error (.ambiguous (Bytes.ofString "--" ++ name) (matches_.map (·.1)))

/-- Reads the letters of a short option word after its `-`. -/
def shortCluster (t : OptTable) (cs : Bytes) (rest : List Bytes) (acc : List (String × Option Bytes)) :
    Except OptError (List (String × Option Bytes) × List Bytes) :=
  match cs with
  | [] => .ok (acc, rest)
  | c :: more =>
    let ch := Char.ofNat c.toNat
    match t.short.find? (·.1 == ch) with
    | none => .error (.invalid c)
    | some (_, .none) => shortCluster t more rest (acc ++ [(String.singleton ch, none)])
    | some (_, .optional) =>
      .ok (acc ++ [(String.singleton ch, if more.isEmpty then none else some more)], rest)
    | some (_, .required) =>
      if !more.isEmpty then .ok (acc ++ [(String.singleton ch, some more)], rest)
      else
        match rest with
        | a :: rest' => .ok (acc ++ [(String.singleton ch, some a)], rest')
        | [] => .error (.needsArg c)

/-- Reads the options and operands of an argument list. -/
def parseOpts (t : OptTable) (args : List Bytes) : Except OptError Parsed :=
  go args.length args [] []
where
  go : Nat → List Bytes → List (String × Option Bytes) → List Bytes → Except OptError Parsed
    | 0, rest, opts, ops => .ok (opts, ops ++ rest)
    | fuel + 1, args, opts, ops =>
      match args with
      | [] => .ok (opts, ops)
      | a :: rest =>
        if a == [45, 45] then .ok (opts, ops ++ rest)
        else
          match a with
          | 45 :: 45 :: name =>
            let (n, v) := match name.findIdx? (· == 61) with
              | some i => (name.take i, some (name.drop (i + 1)))
              | none => (name, none)
            match findLong t n with
            | .error e => .error e
            | .ok (full, key, kind) =>
              match kind, v with
              | .none, some _ => .error (.takesNoArg full)
              | .none, none => go fuel rest (opts ++ [(key, none)]) ops
              | .optional, _ => go fuel rest (opts ++ [(key, v)]) ops
              | .required, some x => go fuel rest (opts ++ [(key, some x)]) ops
              | .required, none =>
                match rest with
                | x :: rest' => go fuel rest' (opts ++ [(key, some x)]) ops
                | [] => .error (.longNeedsArg full)
          | 45 :: c :: more =>
            match shortCluster t (c :: more) rest [] with
            | .ok (found, rest') => go fuel rest' (opts ++ found) ops
            | .error e => .error e
          | _ => go fuel rest opts (ops ++ [a])

/-- Whether an option was given. -/
def Parsed.has (p : Parsed) (key : String) : Bool := p.1.any (·.1 == key)

/-- The last argument given to an option. -/
def Parsed.last? (p : Parsed) (key : String) : Option Bytes :=
  (p.1.filter (·.1 == key)).getLast?.bind (·.2)

end Utility

end Machine

end PracticeForge
