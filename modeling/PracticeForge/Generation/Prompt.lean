import PracticeForge.Spec.Plan
import PracticeForge.Spec.Profile
import PracticeForge.Contract.Draft

/-!
# Generation/Prompt — what the generator model is asked for one slot

The generator model gets standing instructions for the slot's language (the runtime it writes
for, the eight named tests, JSON only) and a request that names the slot's difficulty, topic,
style and constraints, the learner's focus and the feedback on a rejected attempt when there
are any, and the exact JSON fields of a reply with a hint per language for the code fields.
-/

namespace PracticeForge

namespace Generation

/-- The closing rules on the reply's form, shared by every language. -/
def outputRules : String :=
  "Output format:\n- Return ONLY valid JSON (no markdown, no code fences, no prose)\n- Return a JSON object for a SINGLE problem (not an array)"

/-- The standing instructions of the generator model for a language. -/
def systemPrompt : Language → String
  | .python =>
    "You are Codecraft's Python problem generator. Generate exactly 1 Python problem that matches the provided requirements.\n\nPython runtime invariants (non-negotiable):\n- Python 3.11, standard library only\n- The learner edits solution.py; tests live in test_solution.py and run under pytest\n- test_solution.py imports from solution (e.g. `from solution import solve`)\n- Exactly 8 test functions named test_case_1..test_case_8\n- Tests for printing problems capture output with the capsys fixture\n- No filesystem access, no networking, deterministic behavior\n\n" ++ outputRules
  | .java =>
    "You are Codecraft's Java problem generator. Generate exactly 1 Java problem that matches the provided requirements.\n\nJava runtime invariants (non-negotiable):\n- Java 17, JUnit 5\n- No package declarations in any file\n- The test class has exactly 8 @Test methods named test_case_1..test_case_8\n- The reference solution class name matches the class the tests use\n\n" ++ outputRules
  | .cpp =>
    "You are Codecraft's C++ problem generator. Generate exactly 1 C++ problem that matches the provided requirements.\n\nC++ runtime invariants (non-negotiable):\n- C++20, g++, standard library only\n- The learner edits solution.cpp, which must NOT define main()\n- The test file starts with #include \"solution.cpp\" and defines main()\n- It registers exactly 8 cases with RUN_TEST(\"test_case_N\", ...) for N = 1..8\n- Each case prints \"[PASS] test_case_N\" or \"[FAIL] test_case_N\"\n- No filesystem access, no networking, deterministic behavior\n\n" ++ outputRules
  | .sql =>
    "You are Codecraft's SQL problem generator. Generate exactly 1 SQL problem that matches the provided requirements.\n\nSQL runtime invariants (non-negotiable):\n- SQLite 3 dialect\n- The learner writes a single read-only query (WITH/SELECT only)\n- No schema changes or mutations in the solution query\n- Deterministic results: include ORDER BY if row order matters\n\nTest suite format (JSON string):\n- test_suite MUST be valid JSON (not code)\n- It MUST include:\n  - schema_sql: SQL statements that create tables (CREATE TABLE ...)\n  - cases: exactly 8 cases named test_case_1..test_case_8\n    each case includes:\n      - seed_sql: SQL inserts for that case\n      - expected: \x7b columns: string[], rows: any[][] \x7d\n      - order_matters?: boolean\n\n" ++ outputRules

/-- How solutions of a style deliver their result, and how tests check it. -/
def styleRule : Style → String
  | .returned => "Solutions return their result; tests assert on returned values."
  | .printed => "Solutions print their result to stdout; tests assert on captured output."
  | .mixed => "Solutions both return a value and print output; tests check both."

/-- Sample values for the starter code, test suite and reference solution fields, written as
they appear inside the JSON shown to the model. -/
def codeHints : Language → String × String × String
  | .python => ("def solve(...):\\n    # TODO\\n    pass",
      "import pytest\\nfrom solution import solve\\n...", "def solve(...):\\n    ...")
  | .java => ("public class Solution \x7b ... \x7d", "import org.junit.jupiter.api.Test;\\n...",
      "public class Solution \x7b ... \x7d")
  | .cpp => ("#include <bits/stdc++.h>\\n...", "#include \\\"solution.cpp\\\"\\n...",
      "#include <bits/stdc++.h>\\n...")
  | .sql => ("SELECT ...", "\x7b\\\"schema_sql\\\": \\\"...\\\", \\\"cases\\\": [ ... ]\x7d", "SELECT ...")

/-- A block with a heading and a text, when the text is more than white space. -/
def optionalBlock (heading : String) : Option String → String
  | some t => if (Text.trim t).isEmpty then "" else "\n" ++ heading ++ "\n" ++ Text.trim t ++ "\n"
  | none => ""

/-- The request for one slot, with the spec's constraints, the learner's focus and the feedback
on the last rejected attempt. -/
def slotPrompt (slot : Slot) (constraints : String) (focus feedback : Option String) : String :=
  let (starter, tests, reference) := codeHints slot.language
  let count := Nat.repr Contract.testCaseCount
  let difficulty := slot.difficulty.id
  "Generate exactly 1 " ++ slot.language.displayName ++
    " problem with the following requirements:\n\nDifficulty: " ++ difficulty ++
    "\nTopics: " ++ slot.topic ++ "\nProblem style: " ++ slot.problemStyle.id ++
    "\nConstraints: " ++ constraints ++ "\n" ++
    optionalBlock "Custom instructions (user focus; best-effort):" focus ++
    optionalBlock "Your previous attempt was rejected. Fix these problems:" feedback ++
    "\nStyle rule: " ++ styleRule slot.problemStyle ++
    "\n\nReturn a JSON object (not array) with these exact fields:\n\x7b\n  \"id\": \"unique-problem-id\",\n  \"title\": \"Problem Title\",\n  \"description\": \"Detailed problem description...\",\n  \"starter_code\": \"" ++
    starter ++ "\",\n  \"test_suite\": \"" ++ tests ++ "\",\n  \"reference_solution\": \"" ++
    reference ++ "\",\n  \"constraints\": \"" ++ constraints ++
    "\",\n  \"sample_inputs\": [\"Example 1 input\"],\n  \"sample_outputs\": [\"Example 1 output\"],\n  \"difficulty\": \"" ++
    difficulty ++ "\",\n  \"topic_tag\": \"" ++ slot.topic ++
    "\"\n\x7d\n\nCritical rules:\n- test_suite must contain exactly " ++ count ++
    " tests named test_case_1..test_case_" ++ count ++
    "\n- reference_solution must pass every test in test_suite\n- sample_inputs and sample_outputs MUST be non-empty and must have the same length\n\nRespond ONLY with JSON. NO markdown. NO code fences. NO extra text."

end Generation

end PracticeForge
