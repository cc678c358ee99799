import PracticeForge.Contract.Draft

/-!
# Judge/Output — reading test results out of what a test run printed

Each judge image reports in its own way:

* pytest prints `FAILED file::test_name` or `ERROR file::test_name` for each test that did not
  pass; the tests that passed are those the suite defines, less the failed ones;
* the JUnit console prints `name() [OK]` or `name() [X]` per test;
* the C++ and SQL harnesses print `[PASS] test_name` or `[FAIL] test_name`.

Colour codes (`ESC [ digits-and-semicolons m`) are removed before reading, and each list keeps
the first occurrence of every name.
-/

namespace PracticeForge

namespace Judge

open Pattern

/-- The escape character that starts a colour code. -/
def escapeChar : Char := Char.ofNat 27

/-- Removes colour codes from a list of characters, the kept ones gathered in reverse in
`acc`. -/
def stripCodes : Nat → List Char → List Char → List Char
  | 0, cs, acc => acc.reverse ++ cs
  | fuel + 1, c :: '[' :: rest, acc =>
    if c == escapeChar then
      let params := rest.takeWhile fun d => d.isDigit || d == ';'
      match rest.drop params.length with
      | 'm' :: after => stripCodes fuel after acc
      | _ => stripCodes fuel ('[' :: rest) (c :: acc)
    else stripCodes fuel ('[' :: rest) (c :: acc)
  | fuel + 1, c :: rest, acc => stripCodes fuel rest (c :: acc)
  | _ + 1, [], acc => acc.reverse

/-- The text without colour codes. -/
def stripAnsi (s : String) : String := String.ofList (stripCodes (s.length + 1) s.toList [])

/-- The first occurrence of every item, in order. -/
def firstOccurrences (xs : List String) : List String :=
  xs.foldl (fun acc x => if acc.contains x then acc else acc ++ [x]) []

/-- A test name of ASCII identifier characters after `test_`, as a group. -/
def testNameGroup : Pattern := .group (.cat (text "test_") (plus (anyOf identItems)))

/-- A pytest line for a test that failed or errored: the outcome, then the test's node. -/
def pytestFailureRe : Regex :=
  ⟨seq [boundary, .group (texts ["FAILED", "ERROR"]), plus spaceChar,
    plus (noneOf [.char ':', .space]), text "::", testNameGroup, boundary], false, false, false⟩

/-- A JUnit console line: a method name, `()`, and `[OK]` or `[X]`. -/
def junitRe : Regex :=
  ⟨seq [boundary, .group (.cat (anyOf [.range 'A' 'Z', .range 'a' 'z', .char '_'])
      (many (anyOf identItems))), text "()", plus spaceChar, .lit '[',
    .group (texts ["OK", "X"]), .lit ']'], false, false, false⟩

/-- A harness line: `[PASS]` or `[FAIL]`, then the test name. -/
def passFailRe : Regex :=
  ⟨seq [.lit '[', .group (texts ["PASS", "FAIL"]), .lit ']', plus spaceChar, testNameGroup],
    false, false, false⟩

/-- The groups of every match of a pattern in a text. -/
def matchesOf (r : Regex) (s : String) (groups : List Nat) : List (List String) :=
  let cs := s.toList.toArray
  (r.findAll cs).map fun m => groups.map (m.group cs)

/-- The tests pytest reports as failed or errored. -/
def pytestFailures (output : String) : List String :=
  firstOccurrences ((matchesOf pytestFailureRe (stripAnsi output) [2]).map (·.headD ""))

/-- The test functions a pytest suite defines, in order. -/
def pytestNames (suite : String) : List String :=
  firstOccurrences (Contract.pythonTestRe.findGroups suite 1)

/-- Splits reported outcomes into the passed and the failed names. -/
def splitOutcomes (passWord : String) (found : List (String × String)) : List String × List String :=
  (firstOccurrences (found.filterMap fun (w, n) => if w == passWord then some n else none),
    firstOccurrences (found.filterMap fun (w, n) => if w == passWord then none else some n))

/-- The passed and failed tests of a JUnit console report. -/
def junitOutcomes (stdout : String) : List String × List String :=
  splitOutcomes "OK" ((matchesOf junitRe (stripAnsi stdout) [2, 1]).map fun g =>
    (g.headD "", g.getD 1 ""))

/-- The passed and failed tests of a harness report. -/
def passFailOutcomes (stdout : String) : List String × List String :=
  splitOutcomes "PASS" ((matchesOf passFailRe (stripAnsi stdout) [1, 2]).map fun g =>
    (g.headD "", g.getD 1 ""))

end Judge

end PracticeForge
