/-!
# Schema/Issue — what is wrong with a value, and where

Checking a JSON value against the shape a record expects yields, for each fault, a path to the
faulty part (field names and list positions) and a kind.  A report lists the faults in field
order, each as `path: kind`, parted by `"; "`.
-/

namespace PracticeForge

namespace Schema

/-- The kinds of fault a value can have. -/
inductive IssueKind where
  | missing
  | literalError
  | greaterThanEqual
  | lessThanEqual
  | tooShort
  | stringTooShort
  | stringUnicode
  | intParsing
  | intParsingSize
  | intFromFloat
  | intType
  | finiteNumber
  | boolType
  | boolParsing
  | floatType
  | floatParsing
  | stringType
  | listType
  | tupleType
  | dictType
  | modelType
  | extraForbidden
  | enum
  | datetimeType
  | datetimeParsing
  | datetimeFromDateParsing
  | modelAttributesType
  | valueError
  deriving DecidableEq, Repr

/-- The code of a kind, as reports write it. -/
def IssueKind.code : IssueKind → String
  | .missing => "missing"
  | .literalError => "literal_error"
  | .greaterThanEqual => "greater_than_equal"
  | .lessThanEqual => "less_than_equal"
  | .tooShort => "too_short"
  | .stringTooShort => "string_too_short"
  | .stringUnicode => "string_unicode"
  | .intParsing => "int_parsing"
  | .intParsingSize => "int_parsing_size"
  | .intFromFloat => "int_from_float"
  | .intType => "int_type"
  | .finiteNumber => "finite_number"
  | .boolType => "bool_type"
  | .boolParsing => "bool_parsing"
  | .floatType => "float_type"
  | .floatParsing => "float_parsing"
  | .stringType => "string_type"
  | .datetimeType => "datetime_type"
  | .datetimeParsing => "datetime_parsing"
  | .datetimeFromDateParsing => "datetime_from_date_parsing"
  | .modelAttributesType => "model_attributes_type"
  | .valueError => "value_error"
  | .listType => "list_type"
  | .tupleType => "tuple_type"
  | .dictType => "dict_type"
  | .modelType => "model_type"
  | .extraForbidden => "extra_forbidden"
  | .enum => "enum"

/-- One step of a path: a field name or a list position. -/
inductive Step where
  | key (name : String)
  | index (i : Nat)
  deriving DecidableEq, Repr

/-- The text of a step. -/
def Step.text : Step → String
  | .key k => k
  | .index i => Nat.repr i

/-- A fault at a place. -/
structure Issue where
  path : List Step
  kind : IssueKind
  deriving DecidableEq, Repr

/-- `path: kind`, the path parted by dots. -/
def Issue.render (i : Issue) : String :=
  ".".intercalate (i.path.map Step.text) ++ ": " ++ i.kind.code

/-- A report of faults. -/
def render (issues : List Issue) : String := "; ".intercalate (issues.map Issue.render)

/-- The faults of a part, seen from the whole. -/
def under (s : Step) (issues : List Issue) : List Issue :=
  issues.map fun i => { i with path := s :: i.path }

end Schema

end PracticeForge
