import CatalogQuery.Value

/-!
# Validation

Data from outside is checked before it becomes a filter, a page description or
a setting.  A check answers with the checked value or with every issue that it
found, each at a path into the data; checks of the parts of a whole are joined
so that the issues of all parts are reported together.
-/

namespace CatalogQuery

/-- A step of a path into data: a field, or an item of a list or another entry
with a number as its key. -/
inductive Step where
  | field (name : String)
  | index (place : Int)
deriving DecidableEq, Repr

/-- The rules that hold between the parts of a checked whole. -/
inductive Violation where
  /-- A filter must have exactly one field; these are set. -/
  | fieldCount (model : String) (fields : List String)
  /-- An operation for ordered values on a text field. -/
  | orderedOperationOnText
  /-- An operation that takes a list of values has something else. -/
  | operationNeedsList (operation : String)
  /-- A page size below one. -/
  | pageSizeTooSmall
  /-- A bound of the cursor history below one. -/
  | cacheBoundTooSmall
deriving DecidableEq, Repr

/-- The message for a violated rule. -/
def Violation.message : Violation → String
  | fieldCount model fields =>
      model ++ " requires exactly one field, got " ++ toString fields.length ++ " (" ++
        (if fields.isEmpty then "none" else String.intercalate ", " fields) ++ ")"
  | orderedOperationOnText => "String fields may not use gt, gte, lt, lte, range"
  | operationNeedsList operation => "'" ++ operation ++ "' requires a list of values"
  | pageSizeTooSmall => "Page sizes must be at least 1"
  | cacheBoundTooSmall =>
      "QUERY_CURSOR_CACHE_MAX_ENTRIES must be at least 1 when set " ++
        "(leave it unset for an unbounded cache)"

/-- What is wrong with a part of the data. -/
inductive Fault where
  | missing
  | extraField
  /-- A key that is no text. -/
  | foreignKey
  | notAmongLiterals
  | noVariant
  | noTag
  | unknownTag
  | notModel
  | notTagged
  | notObject
  | notList
  | notText
  /-- A text that is no string. -/
  | brokenText
  | notInteger
  | unreadableInteger
  | oversizedInteger
  | fractionalInteger
  | notFinite
  | notTruthValue
  | unreadableTruthValue
  | notReal
  | unreadableReal
  | belowMinimum
  | violated (rule : Violation)
deriving DecidableEq, Repr

/-- The name of a fault. -/
def Fault.name : Fault → String
  | missing => "missing"
  | extraField => "extra_forbidden"
  | foreignKey => "invalid_key"
  | notAmongLiterals => "literal_error"
  | noVariant => "union"
  | noTag => "union_tag_not_found"
  | unknownTag => "union_tag_invalid"
  | notModel => "model_type"
  | notTagged => "model_attributes_type"
  | notObject => "dict_type"
  | notList => "list_type"
  | notText => "string_type"
  | brokenText => "string_unicode"
  | notInteger => "int_type"
  | unreadableInteger => "int_parsing"
  | oversizedInteger => "int_parsing_size"
  | fractionalInteger => "int_from_float"
  | notFinite => "finite_number"
  | notTruthValue => "bool_type"
  | unreadableTruthValue => "bool_parsing"
  | notReal => "float_type"
  | unreadableReal => "float_parsing"
  | belowMinimum => "greater_than_equal"
  | violated _ => "value_error"

/-- A fault at a place in the data. -/
structure Issue where
  path : List Step
  fault : Fault
deriving DecidableEq, Repr

/-- A checked value, or the issues that were found. -/
abbrev Checked (α : Type) := Except (List Issue) α

namespace Checked

variable {α β γ : Type}

/-- A single fault at the place that is checked. -/
def fail (fault : Fault) : Checked α := .error [⟨[], fault⟩]

/-- The check of a part, its issues placed in the whole. -/
def under (step : Step) : Checked α → Checked α
  | .ok value => .ok value
  | .error issues => .error (issues.map fun issue => { issue with path := step :: issue.path })

/-- The check of a field. -/
def inField (name : String) (check : Checked α) : Checked α := under (.field name) check

/-- Two checks together; the issues of both count. -/
def both : Checked α → Checked β → Checked (α × β)
  | .ok a, .ok b => .ok (a, b)
  | .ok _, .error issues => .error issues
  | .error issues, .ok _ => .error issues
  | .error issues, .error more => .error (issues ++ more)

/-- A check that also reports further issues. -/
def withIssues (issues : List Issue) (check : Checked α) : Checked α :=
  if issues.isEmpty then check
  else
    match check with
    | .ok _ => .error issues
    | .error found => .error (found ++ issues)

/-- The checks of the items of a list, numbered from `place`. -/
def items (check : α → Checked β) (place : Nat) : List α → Checked (List β)
  | [] => .ok []
  | item :: rest =>
      ((under (.index place) (check item)).both (items check (place + 1) rest)).map
        fun (first, others) => first :: others

end Checked

/-- The failure of a check: the name of the model that was checked, and the
issues. -/
structure ValidationError where
  title : String
  issues : List Issue
deriving DecidableEq, Repr

/-- The text of a step. -/
def Step.text : Step → String
  | field name => name
  | index place => toString place

namespace Issue

/-- The order of reports: by path, its steps joined by slashes, then by the
name of the fault. -/
def sortKey (issue : Issue) : String × String :=
  (String.intercalate "/" (issue.path.map Step.text), issue.fault.name)

/-- Whether an issue comes before another one, or at the same place. -/
def before (a b : Issue) : Bool :=
  let (path, name) := a.sortKey
  let (path', name') := b.sortKey
  path < path' || (path == path' && (name < name' || name == name'))

end Issue

/-- The issues in the order of reports, each once. -/
def ValidationError.report (error : ValidationError) : List Issue :=
  error.issues.eraseDups.mergeSort Issue.before

end CatalogQuery
