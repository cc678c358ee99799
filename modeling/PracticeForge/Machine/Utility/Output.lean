import PracticeForge.Machine.Utility.Basic
import PracticeForge.Machine.Printf

/-!
# Machine/Utility/Output — utilities that only write or wait: `true`, `false`, `echo`, `printf`, `yes`, `sleep`

`true` and `false` ignore their arguments and exit 0 and 1.  `echo` and `printf` write what
`Printf` makes of their arguments, `printf` its warnings too, each after the program's name.
`yes` writes its arguments (or `y`) as a line, over and over, without end.  `sleep` waits the sum
of its intervals, each a number (decimal or hexadecimal, or `inf`) and an optional unit `s`, `m`,
`h` or `d`; an interval too large to hold waits for ever.

All but `true`, `false` and `echo` know no options beyond the standard ones, so `--` ends the
options and anything else that starts with `-` is refused.
-/

namespace PracticeForge

namespace Machine

namespace Utility

open Prog

/-- Reads options where none are known: the operands, or a complaint and exit. -/
def noOptions (name : String) (args : List Bytes) : Prog (List Bytes) :=
  do let p ← options name ⟨[], []⟩ args; return p.2

/-- `true`. -/
def true_ (_ : String) (_ : List Bytes) : Prog Unit := exit 0

/-- `false`. -/
def false_ (_ : String) (_ : List Bytes) : Prog Unit := exit 1

/-- `echo`. -/
def echo (_ : String) (args : List Bytes) : Prog Unit := do
  out (Printf.utilityEcho args)
  exit 0

/-- `printf`: a first `--` is skipped; a format is needed. -/
def printf (name : String) (args : List Bytes) : Prog Unit := do
  let args := match args with
    | [45, 45] :: rest => rest
    | _ => args
  match args with
  | [] => usageError name (t "missing operand")
  | fmt :: rest =>
    let o := Printf.run .utility fmt rest
    out o.out
    for w in o.warnings do complain name w
    match o.fatal with
    | some e => complain name e
    | none => pure ()
    exit o.status

/-- `yes`. -/
def yes (name : String) (args : List Bytes) : Prog Unit := do
  let words ← noOptions name args
  let line := (if words.isEmpty then t "y" else (words.intersperse [32]).flatten) ++ [10]
  let _ ← writeRepeated 1 (Bytes.toArray line) none
  exit 1

/-- The most seconds waited for: longer waits outlast any run. -/
def longestWait : Rat := 1000000000

/-- An interval of `sleep` in seconds: none when it is not one; some none when it is endless. -/
def interval (a : Bytes) : Option (Option Rat) :=
  let r := Format.readFloat Format.doubleWidth a
  if r.used == 0 then none
  else
    let factor : Option Rat := match a.drop r.used with
      | [] => some 1
      | [115] => some 1
      | [109] => some 60
      | [104] => some 3600
      | [100] => some 86400
      | _ => none
    match factor, r.value with
    | none, _ => none
    | _, .nan _ => none
    | _, .inf true => none
    | _, .inf false => some none
    | some f, .finite neg num den =>
      if neg && num != 0 then none
      else
        let v : Rat := (num : Rat) / (den : Rat) * f
        if v > longestWait then some none else some (some v)

/-- `sleep`. -/
def sleep (name : String) (args : List Bytes) : Prog Unit := do
  let ops ← noOptions name args
  if ops.isEmpty then usageError name (t "missing operand")
  let mut total : Option Rat := some 0
  let mut ok := true
  for a in ops do
    match interval a with
    | none =>
      complain name (t "invalid time interval " ++ quoteLocale a)
      ok := false
    | some none => total := none
    | some (some v) => total := total.map (· + v)
  if !ok then
    tryHelp name
    exit 1
  match total with
  | some v => if v > longestWait then block else Prog.sleep v
  | none => block
  exit 0

end Utility

end Machine

end PracticeForge
