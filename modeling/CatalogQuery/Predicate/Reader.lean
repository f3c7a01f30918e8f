import CatalogQuery.Predicate
import CatalogQuery.Validation.Scalar

/-!
# Reading predicates

A predicate is read from a value of the kind of its field, or from an object
whose only key is an operator; a range has the keys `from` and `to` and may
have `inclusive`.  The keys `not`, `any` and `from` may be written with an
underscore at the end.  No other key may stand beside them.  A text is no
number and a number no text, but a number may be given as a numeral and a
timestamp as a number.
-/

namespace CatalogQuery

/-- The operators with one value and their keys. -/
def SingleOperator.keyed : List (String × SingleOperator) :=
  [("not", .not), ("not_", .not), ("contains", .contains), ("excludes", .excludes)]

/-- The operators with a list of values and their keys. -/
def ListOperator.keyed : List (String × ListOperator) :=
  [("any", .any), ("any_", .any), ("none", .none)]

/-- The operators with a bound and their keys. -/
def BoundOperator.keyed : List (String × BoundOperator) :=
  [("gt", .gt), ("gte", .gte), ("lt", .lt), ("lte", .lte)]

/-- The values of the items of a list, if all of them are of the kind. -/
def readOperands? {α : Type} (operand? : Value → Option α) : Value → Option (List α)
  | .list items => items.mapM operand?
  | _ => none

/-- A predicate without order on values of a kind. -/
def Match.read? {α : Type} (operand? : Value → Option α) (value : Value) : Option (Match α) :=
  match operand? value with
  | some x => some (.equals x)
  | none =>
      match value with
      | .object [(key, operand)] =>
          match key.meaning? SingleOperator.keyed with
          | some operator => (operand? operand).map (.single operator)
          | none =>
              match key.meaning? ListOperator.keyed with
              | some operator => (readOperands? operand? operand).map (.several operator)
              | none => none
      | _ => none

/-- Whether the ends of a range belong to it; null leaves it open. -/
def readInclusive? (value : Value) : Option (Option Bool) :=
  (Checked.optional Checked.truth value).toOption

/-- The keys that a range may have. -/
def Range.keys (start : Text) : List Text := [start, "to", "inclusive"]

/-- A range whose start stands under the given key. -/
def Range.readWith? {α : Type} (operand? : Value → Option α) (startKey : Text)
    (fields : Fields Value) : Option (Range α) := do
  let start ← operand? (← Fields.get? startKey fields)
  let stop ← operand? (← Fields.get? "to" fields)
  let inclusive ← match Fields.get? "inclusive" fields with
    | some value => readInclusive? value
    | none => some none
  if fields.names.all (Range.keys startKey).contains then some ⟨start, stop, inclusive⟩
  else none

/-- A range of values of a kind. -/
def Range.read? {α : Type} (operand? : Value → Option α) (fields : Fields Value) :
    Option (Range α) :=
  if fields.has "from" then Range.readWith? operand? "from" fields
  else Range.readWith? operand? "from_" fields

/-- A predicate on ordered values of a kind. -/
def OrderedMatch.read? {α : Type} (operand? : Value → Option α) (value : Value) :
    Option (OrderedMatch α) :=
  match Match.read? operand? value with
  | some predicate => some (.plain predicate)
  | none =>
      match value with
      | .object [(key, operand)] =>
          match key.meaning? BoundOperator.keyed with
          | some operator => (operand? operand).map (.bound operator)
          | none => none
      | .object fields => (Range.read? operand? fields).map .range
      | _ => none

/-- A text, given as such. -/
def readText? (value : Value) : Option Text := (Checked.text value).toOption

/-- The number that a string writes: an integer if it is one. -/
def Number.ofText? (text : String) : Option Number :=
  match Text.plainInteger text with
  | .ok i => some (.int i)
  | .error _ => (Text.plainReal? text).map .real

/-- A number: an integer or a real number as it is, a truth value as zero or
one, and a numeral as an integer if it is one. -/
def Number.read? : Value → Option Number
  | .int i => some (.int i)
  | .real x => some (.real x)
  | .bool b => some (.int (if b then 1 else 0))
  | .text s => s.string?.bind Number.ofText?
  | _ => none

/-- A predicate on a text field. -/
def TextPredicate.check (value : Value) : Checked TextPredicate :=
  match Match.read? readText? value with
  | some predicate => .ok predicate
  | none => Checked.fail .noVariant

/-- A predicate on a number field. -/
def NumberPredicate.check (value : Value) : Checked NumberPredicate :=
  match OrderedMatch.read? Number.read? value with
  | some predicate => .ok predicate
  | none => Checked.fail .noVariant

/-- A predicate on a timestamp field. -/
def MomentPredicate.check (value : Value) : Checked MomentPredicate :=
  match OrderedMatch.read? Checked.moment? value with
  | some predicate => .ok predicate
  | none => Checked.fail .noVariant

/-- The wire form of a predicate on a text field. -/
def TextPredicate.toWire (predicate : TextPredicate) : Value := predicate.toValue .text

/-- The wire form of a predicate on a number field. -/
def NumberPredicate.toWire (predicate : NumberPredicate) : Value :=
  predicate.toValue Number.toValue

/-- The wire form of a predicate on a timestamp field: timestamps become
texts. -/
def MomentPredicate.toWire (predicate : MomentPredicate) : Value :=
  predicate.toValue fun t => .text t.text

end CatalogQuery
