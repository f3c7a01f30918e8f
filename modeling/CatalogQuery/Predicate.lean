import CatalogQuery.Value

/-!
# Predicates

A predicate is what a field must satisfy: a value that it equals, an operator
with one value or with a list of values, or, for ordered values only, a bound
or a range.  The type of the predicates on text fields has no ordered
operators at all.
-/

namespace CatalogQuery

/-- The operators with one value that need no order. -/
inductive SingleOperator where
  | not
  | contains
  | excludes
deriving DecidableEq, Repr

/-- The operators with a list of values. -/
inductive ListOperator where
  | any
  | none
deriving DecidableEq, Repr

/-- The operators that compare with a bound. -/
inductive BoundOperator where
  | gt
  | gte
  | lt
  | lte
deriving DecidableEq, Repr

/-- A range of values.  Whether its ends belong to it may be left open. -/
structure Range (α : Type) where
  start : α
  stop : α
  inclusive : Option Bool
deriving DecidableEq, Repr

/-- A predicate on values without an order. -/
inductive Match (α : Type) where
  | equals (value : α)
  | single (operator : SingleOperator) (value : α)
  | several (operator : ListOperator) (values : List α)
deriving DecidableEq, Repr

/-- A predicate on ordered values. -/
inductive OrderedMatch (α : Type) where
  | plain (predicate : Match α)
  | bound (operator : BoundOperator) (value : α)
  | range (ends : Range α)
deriving DecidableEq, Repr

/-- A number in a predicate: an integer, or one with a fraction. -/
inductive Number where
  | int (value : Int)
  | real (value : Binary64)
deriving DecidableEq, Repr

/-- A predicate on a text field. -/
abbrev TextPredicate := Match Text

/-- A predicate on a number field. -/
abbrev NumberPredicate := OrderedMatch Number

/-- A predicate on a timestamp field. -/
abbrev MomentPredicate := OrderedMatch Timestamp

/-- The operation of a predicate as it is named in query forms. -/
inductive Operation where
  | equals
  | single (operator : SingleOperator)
  | several (operator : ListOperator)
  | bound (operator : BoundOperator)
  | range
deriving DecidableEq, Repr

/-- The key of an operator. -/
def SingleOperator.key : SingleOperator → String
  | not => "not"
  | contains => "contains"
  | excludes => "excludes"

/-- The key of an operator. -/
def ListOperator.key : ListOperator → String
  | any => "any"
  | none => "none"

/-- The key of an operator. -/
def BoundOperator.key : BoundOperator → String
  | gt => "gt"
  | gte => "gte"
  | lt => "lt"
  | lte => "lte"

namespace Operation

/-- All operations. -/
def all : List Operation :=
  [equals, single .not, single .contains, single .excludes, several .any, several .none,
    bound .gt, bound .gte, bound .lt, bound .lte, range]

/-- The name of an operation. -/
def name : Operation → String
  | equals => "equals"
  | single operator => operator.key
  | several operator => operator.key
  | bound operator => operator.key
  | range => "range"

/-- The operation with a name. -/
def ofName? (name : String) : Option Operation := all.find? (·.name == name)

/-- The names of all operations with the operations. -/
def named : List (String × Operation) := all.map fun operation => (operation.name, operation)

/-- Whether an operation needs ordered values. -/
def isOrdered : Operation → Bool
  | bound _ => true
  | range => true
  | _ => false

end Operation

/-- The value of a number. -/
def Number.toValue : Number → Value
  | int i => .int i
  | real x => .real x

/-- The fields of a range: its ends, and whether they belong to it if that is
said. -/
def Range.toValue (range : Range Value) : Value :=
  let ends : Fields Value := [("from", range.start), ("to", range.stop)]
  .object <|
    match range.inclusive with
    | some b => Fields.set "inclusive" (.bool b) ends
    | none => ends

/-- A range with other ends. -/
def Range.map {α β : Type} (f : α → β) (range : Range α) : Range β :=
  ⟨f range.start, f range.stop, range.inclusive⟩

/-- The value that stands for a predicate: the value itself or an object with
the operator as its key. -/
def Match.toValue {α : Type} (f : α → Value) : Match α → Value
  | equals value => f value
  | single operator value => .object [(operator.key, f value)]
  | several operator values => .object [(operator.key, .list (values.map f))]

/-- The value that stands for a predicate. -/
def OrderedMatch.toValue {α : Type} (f : α → Value) : OrderedMatch α → Value
  | plain predicate => predicate.toValue f
  | bound operator value => .object [(operator.key, f value)]
  | range ends => (ends.map f).toValue

/-- The operand of a predicate as it stands in a row of a query form. -/
inductive Operand where
  | value (value : Value)
  | range (ends : Range Value)

/-- The operand as a value; a range becomes an object. -/
def Operand.toValue : Operand → Value
  | value v => v
  | range r => r.toValue

/-- A predicate split into its operation and its operand. -/
def Match.describe {α : Type} (f : α → Value) : Match α → Operation × Operand
  | equals value => (.equals, .value (f value))
  | single operator value => (.single operator, .value (f value))
  | several operator values => (.several operator, .value (.list (values.map f)))

/-- A predicate split into its operation and its operand. -/
def OrderedMatch.describe {α : Type} (f : α → Value) : OrderedMatch α → Operation × Operand
  | plain predicate => predicate.describe f
  | bound operator value => (.bound operator, .value (f value))
  | range ends => (.range, .range (ends.map f))

end CatalogQuery
