import PracticeForge.Spec.Basic
import PracticeForge.Text.Pattern.Machine
import PracticeForge.Text.Words

/-!
# Spec/Profile — what each language needs at run time

A language profile names the files a solution and its tests live in, the default constraints
shown to a learner, and the image the judge runs.  Java is the exception among the languages:
its files are named after the first class they declare, found by `javaClassName`.

Learners and models name languages loosely; `Language.normalize` accepts the usual aliases
(`py`, `python3`, `c++`, `sqlite`, …) in any case, blanks around them ignored.
-/

namespace PracticeForge

/-- What a language needs at run time. -/
structure Profile where
  language : Language
  displayName : String
  solutionFile : String
  testFile : String
  defaultConstraints : String
  judgeImage : String

namespace Language

/-- The profile of a language. -/
def profile : Language → Profile
  | .python => ⟨.python, "Python", "solution.py", "test_solution.py",
      "Python 3.11, pytest, standard library only, no filesystem access, no networking, time limit enforced.",
      "codecraft-python-judge"⟩
  | .java => ⟨.java, "Java", "Solution.java", "SolutionTest.java",
      "Java 17, JUnit 5, no package declarations.", "codecraft-java-judge"⟩
  | .cpp => ⟨.cpp, "C++", "solution.cpp", "test.cpp",
      "C++20, g++ (GNU), standard library only, no filesystem access, no networking, deterministic behavior.",
      "codecraft-cpp-judge"⟩
  | .sql => ⟨.sql, "SQL", "solution.sql", "test_suite.json",
      "SQLite 3 (SQL dialect), read-only queries only, deterministic results (explicit ORDER BY when needed).",
      "codecraft-sql-judge"⟩

/-- The name shown to learners. -/
def displayName (l : Language) : String := l.profile.displayName

/-- The constraints an activity in the language gets by default. -/
def defaultConstraints (l : Language) : String := l.profile.defaultConstraints

/-- The names by which learners and models call the languages. -/
def aliases : List (String × Language) :=
  [("python", .python), ("python3", .python), ("py", .python), ("java", .java), ("cpp", .cpp),
    ("c++", .cpp), ("cplusplus", .cpp), ("sql", .sql), ("sqlite", .sql), ("sqlite3", .sql)]

/-- The language a name stands for, its case and surrounding blanks aside. -/
def normalize (s : String) : Option Language :=
  match aliases.find? (·.1 == Text.lower (Text.trim s)) with
  | some (_, l) => some l
  | none => none

end Language

/-- The first `class Name` declaration: the word `class`, blanks, and an identifier. -/
def classDeclaration : Regex :=
  ⟨Pattern.seq [Pattern.boundary, Pattern.text "class", Pattern.plus Pattern.spaceChar,
    .group (.cat (Pattern.anyOf [.range 'A' 'Z', .range 'a' 'z', .char '_'])
      (Pattern.many (Pattern.anyOf Pattern.identItems)))], false, false, false⟩

/-- The name of the first class a source declares, or the fallback. -/
def javaClassName (source : String) (fallback : String) : String :=
  let text := source.toList.toArray
  match classDeclaration.search text 0 with
  | some m => m.group text 1
  | none => fallback

namespace Profile

/-- The file a solution's source goes into. -/
def solutionName (p : Profile) (source : String) : String :=
  if p.language == .java then javaClassName source "Solution" ++ ".java" else p.solutionFile

/-- The file the tests go into, given the solution's file name. -/
def testName (p : Profile) (testSuite : String) (solutionName : String) : String :=
  if p.language == .java then
    let stem := match Text.lastIndexOf? solutionName '.' with
      | some i => Text.take solutionName i
      | none => solutionName
    javaClassName testSuite (stem ++ "Test") ++ ".java"
  else p.testFile

end Profile

end PracticeForge
