import CatalogQuery.Failure
import CatalogQuery.Predicate.Reader
import CatalogQuery.Value.Display
import CatalogQuery.Value.Listing

/-!
# Building predicates

The values that stand for predicates, built from an operation and an operand
before anything is known about the field.  The operand is not checked here:
the filter that takes the value checks it.
-/

namespace CatalogQuery

/-- The items that a value lists. -/
def Value.listed (value : Value) : Outcome (List Value) :=
  match Listing.ofValue? value with
  | some listing => .ok listing.toList
  | none => .error .wrongKind

/-- The pair that a value is: two items of a list, two characters of a text or
two keys of an object. -/
def Value.pair (value : Value) : Outcome (Value × Value) := do
  match ← value.listed with
  | [key, content] => .ok (key, content)
  | _ => .error .notPairs

/-- Whether a value can be a key of an object. -/
def Value.isKey : Value → Bool
  | .list _ => false
  | .object _ => false
  | .table _ => false
  | _ => true

/-- The entry that a pair becomes. -/
def Value.entry (value : Value) : Outcome (Value × Value) := do
  let (key, content) ← value.pair
  if key.isKey then .ok (key, content) else .error .wrongKind

/-- Store a content under a key.  Keys of the same value are one key, which
keeps its first form. -/
def Value.storeUnder (entries : List (Value × Value)) (entry : Value × Value) :
    List (Value × Value) :=
  if entries.any (·.1.same entry.1) then
    entries.map fun old => if old.1.same entry.1 then (old.1, entry.2) else old
  else entries ++ [entry]

/-- The object with some entries; it is a table if a key is no text. -/
def Value.ofEntries (entries : List (Value × Value)) : Value :=
  match entries.mapM Value.fieldOf? with
  | some fields => .object fields
  | none => .table entries

/-- The object with the entries that a value lists. -/
def Value.toObject : Value → Outcome Value
  | .object fields => .ok (.object fields)
  | .table entries => .ok (.table entries)
  | value => do
      .ok (.ofEntries ((← (← value.listed).mapM Value.entry).foldl Value.storeUnder []))

/-- The value that stands for a predicate with an operation and an operand. -/
def Operation.toValue (operation : Operation) (operand : Operand) : Outcome Value :=
  match operation with
  | equals => .ok operand.toValue
  | single operator => .ok (.object [(operator.key, operand.toValue)])
  | several operator => .ok (.object [(operator.key, operand.toValue)])
  | bound operator => .ok (.object [(operator.key, operand.toValue)])
  | range =>
      match operand with
      | .range ends => .ok ends.toValue
      | .value value => value.toObject

/-- The value that stands for a predicate whose operation is given by name. -/
def predicateValue (operation : String) (value : Value) : Outcome Value :=
  match Operation.ofName? operation with
  | some operation => operation.toValue (.value value)
  | none => .error (.unknownOperation operation)

/-- The object for an operator with one value. -/
def SingleOperator.valueOf (operator : SingleOperator) (value : Value) : Value :=
  .object [(operator.key, value)]

/-- The object for an operator with a bound. -/
def BoundOperator.valueOf (operator : BoundOperator) (value : Value) : Value :=
  .object [(operator.key, value)]

/-- The object for an operator with the values that a value lists. -/
def ListOperator.valueOf (operator : ListOperator) (values : Value) : Outcome Value := do
  .ok (.object [(operator.key, .list (← values.listed))])

/-- The object for a range; whether the ends belong to it is left out when it is
null. -/
def rangeValue (start stop inclusive : Value) : Value :=
  let ends : Fields Value := [("from", start), ("to", stop)]
  .object (if inclusive.isNull then ends else Fields.set "inclusive" inclusive ends)

end CatalogQuery
