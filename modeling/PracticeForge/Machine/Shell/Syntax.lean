import PracticeForge.Machine.Bytes

/-!
# Machine/Shell/Syntax — the commands of a POSIX shell script

A script is a list of commands, each a tree: simple commands (assignments, words and
redirections), pipelines, `&&` and `||` chains, sequences, background jobs, brace groups and
subshells, `if`, `while` and `until`, `for`, `case`, and function definitions.

A word is kept as its parts as written: literal bytes (marked when quoting protects them), and
the expansions the shell performs when the word is used — parameters, command substitutions and
arithmetic.  Quoting is remembered on each part, because it decides whether the part's result is
split into fields and matched against file names.  A command substitution keeps its source text
and the line it starts on, and is read again when it runs.
-/

namespace PracticeForge

namespace Machine

namespace Shell

/-- What a parameter expansion `${name...}` does with its word. -/
inductive ParamOp where
  /-- `$name` or `${name}`: the value. -/
  | plain
  /-- `${name-word}` (`${name:-word}` with `colon`): the word when the parameter is unset (or
  empty). -/
  | orDefault (colon : Bool)
  /-- `${name=word}`: as `orDefault`, also assigning the word. -/
  | orAssign (colon : Bool)
  /-- `${name?word}`: fails with the word as message when the parameter is unset (or empty). -/
  | orFail (colon : Bool)
  /-- `${name+word}`: the word when the parameter is set (and not empty). -/
  | ifSet (colon : Bool)
  /-- `${name%word}`: the value without the shortest suffix matching the pattern. -/
  | dropSuffix
  /-- `${name%%word}`: the value without the longest suffix matching the pattern. -/
  | dropLongSuffix
  /-- `${name#word}`: the value without the shortest prefix matching the pattern. -/
  | dropPrefix
  /-- `${name##word}`: the value without the longest prefix matching the pattern. -/
  | dropLongPrefix
  /-- `${#name}`: the length of the value. -/
  | length
  /-- A substitution the shell cannot read; expanding it fails. -/
  | bad
  deriving Repr, BEq, Inhabited

/-- A part of a word as written. -/
inductive Part where
  /-- Bytes taken as they are; `quoted` when quoting protects them. -/
  | lit (bytes : Bytes) (quoted : Bool)
  /-- A parameter expansion; its word is given as parts. -/
  | param (name : Bytes) (op : ParamOp) (word : List Part) (quoted : Bool)
  /-- A command substitution `$(...)` or a backquoted one: its source and first line. -/
  | command (source : Bytes) (line : Nat) (quoted : Bool)
  /-- An arithmetic expansion `$((...))`, its expression given as parts. -/
  | arith (expr : List Part) (quoted : Bool)
  /-- An empty pair of quotes, which makes the word a field even when nothing else does. -/
  | emptyQuote
  deriving Repr, Inhabited

/-- A word: its parts in order. -/
abbrev Word := List Part

/-- What a redirection does with its descriptor. -/
inductive RedirKind where
  /-- `<`: read a file. -/
  | input
  /-- `>`: write a file, emptied first. -/
  | output
  /-- `>|`: as `>`. -/
  | clobber
  /-- `>>`: write at the end of a file. -/
  | append
  /-- `<&`: duplicate a descriptor for reading, or close it with `-`. -/
  | dupIn
  /-- `>&`: duplicate a descriptor for writing, or close it with `-`. -/
  | dupOut
  /-- `<>`: read and write a file. -/
  | readWrite
  /-- `<<` or `<<-`: a here-document; its body is the target, expanded unless `literal`. -/
  | here (literal : Bool)
  deriving Repr, BEq, Inhabited

/-- A redirection of a descriptor. -/
structure Redirect where
  fd : Nat
  kind : RedirKind
  target : Word
  deriving Repr, Inhabited

/-- A command of a script. -/
inductive Command where
  /-- Nothing, as an empty list of commands. -/
  | empty
  /-- A simple command on a line: assignments, words and redirections. -/
  | simple (line : Nat) (assigns : List Word) (words : List Word) (redirects : List Redirect)
  /-- Commands joined by pipes, the whole status negated when `negated`. -/
  | pipeline (negated : Bool) (commands : List Command)
  /-- `a && b`. -/
  | andThen (first second : Command)
  /-- `a || b`. -/
  | orElse (first second : Command)
  /-- `a; b`. -/
  | seq (first second : Command)
  /-- `a &`: run without waiting. -/
  | background (command : Command)
  /-- `( list )`, run in a copy of the shell. -/
  | subshell (line : Nat) (body : Command)
  /-- A compound command with redirections. -/
  | redirected (command : Command) (redirects : List Redirect)
  /-- `if cond; then a; else b; fi`; `elif` nests. -/
  | ifThen (cond thenPart : Command) (elsePart : Option Command)
  /-- `while cond; do body; done`, or `until` when `untilDone`. -/
  | loop (untilDone : Bool) (cond body : Command)
  /-- `for name in words; do body; done`; without `in`, the positional parameters. -/
  | forIn (line : Nat) (name : Bytes) (words : Option (List Word)) (body : Command)
  /-- `case word in pattern) body;; ... esac`. -/
  | caseOf (line : Nat) (subject : Word) (arms : List (List Word × Command))
  /-- `name() command`: defines a function. -/
  | function (name : Bytes) (body : Command)
  deriving Repr, Inhabited

end Shell

end Machine

end PracticeForge
