import PracticeForge.Text.Pattern.Machine
import PracticeForge.Text.Words
import PracticeForge.Text.Case

/-!
# Contract/Sql — a query must only read

A reference query is checked as text: comments are replaced by a blank, then every string
literal by an empty one, and trailing semicolons and blanks are dropped.  What is left must be
non-empty, one statement (no semicolon), start with `SELECT` or `WITH`, and name no statement
that writes or changes the schema (`REPLACE(` the string function is allowed).
-/

namespace PracticeForge

namespace Sql

open Pattern

/-- A line comment to the end of the line, or a block comment to its first end. -/
def commentRe : Regex :=
  ⟨oneOf [seq [text "--", many (noneOf [.char '\n'])],
    seq [text "/*", .star .dot false, text "*/"]], false, false, true⟩

/-- A string literal, a doubled quote standing for a quote inside it. -/
def stringRe : Regex :=
  ⟨seq [.lit '\'', many (.alt (noneOf [.char '\'']) (text "''")), .lit '\''], false, false, false⟩

/-- A keyword of a statement that writes, as group 1. -/
def forbiddenRe : Regex :=
  ⟨seq [boundary,
    .group (oneOf [text "INSERT", text "UPDATE", text "DELETE",
      .cat (text "REPLACE") (.notAhead (.cat (many spaceChar) (.lit '('))),
      text "CREATE", text "DROP", text "ALTER", text "TRUNCATE", text "ATTACH", text "DETACH",
      text "PRAGMA", text "VACUUM"]),
    boundary], true, false, false⟩

/-- The query with comments blanked and string literals emptied, trimmed. -/
def strip (sql : String) : String :=
  Text.trim (stringRe.replace (commentRe.replace sql " ") "''")

/-- The first forbidden keyword of a text, in upper case. -/
def forbiddenKeyword? (s : String) : Option String :=
  let text := s.toList.toArray
  (forbiddenRe.search text 0).map fun m => Text.upper (m.group text 1)

/-- What is wrong with a query that should only read; `label` names it in the messages. -/
def readOnlyIssues (sql : String) (label : String) : List String :=
  let body := Text.trim (String.ofList ((strip sql).toList.reverse.dropWhile (· == ';')).reverse)
  if body.isEmpty then [label ++ " is empty"]
  else
    let first := Text.upper ((Text.words body).headD "")
    (if body.toList.contains ';' then [label ++ " must be a single statement"] else []) ++
    (if first != "SELECT" && first != "WITH" then [label ++ " must start with SELECT or WITH"] else []) ++
    (match forbiddenKeyword? body with
      | some k => [label ++ " uses forbidden keyword " ++ k]
      | none => [])

end Sql

end PracticeForge
