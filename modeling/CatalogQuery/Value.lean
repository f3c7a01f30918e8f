import CatalogQuery.Binary64
import CatalogQuery.Fields
import CatalogQuery.Timestamp

/-!
# Values

Filters, query parameters and page nodes carry values whose kind is only known
when a request is built.  A value is JSON data, in which integers and
double-precision numbers are told apart and the fields of an object keep their
order, a timestamp that has already been read, or a table, which has keys that
are no texts.
-/

namespace CatalogQuery

/-- A value of any kind. -/
inductive Value where
  | null
  | bool (value : Bool)
  | int (value : Int)
  | real (value : Binary64)
  | text (value : Text)
  | moment (value : Timestamp)
  | list (items : List Value)
  | object (fields : List (Text × Value))
  /-- Entries of which at least one has a key that is no text. -/
  | table (entries : List (Value × Value))
deriving Inhabited

namespace Value

/-- The entry whose key is a text, as a field. -/
def fieldOf? : Value × Value → Option (Text × Value)
  | (text name, value) => some (name, value)
  | _ => none

/-- The fields of an object or a table. -/
def fields? : Value → Option (Fields Value)
  | object fields => some fields
  | table entries => some (entries.filterMap fieldOf?)
  | _ => none

/-- The field of an object or a table under a name. -/
def field? (name : Text) (value : Value) : Option Value :=
  value.fields?.bind (Fields.get? name)

/-- The keys of an object or a table. -/
def keys : Value → List Value
  | object fields => fields.map fun entry => text entry.1
  | table entries => entries.map (·.1)
  | _ => []

/-- Whether a value is null. -/
def isNull : Value → Bool
  | null => true
  | _ => false

/-- Whether a value counts as empty: null, false, zero, or an empty text, list
or object. -/
def isEmpty : Value → Bool
  | null => true
  | bool b => !b
  | int i => i == 0
  | real x => x.sameValue (.zero false)
  | text s => s.isEmpty
  | moment _ => false
  | list items => items.isEmpty
  | object fields => fields.isEmpty
  | table entries => entries.isEmpty

/-- The value of a number or truth value, an integer wherever it is one. -/
def numeric? : Value → Option (Int ⊕ Binary64)
  | bool b => some (.inl (if b then 1 else 0))
  | int i => some (.inl i)
  | real x => some (match x.toInt? with | some i => .inl i | none => .inr x)
  | _ => none

/-- Whether two numbers have the same value. -/
def sameNumeric : Option (Int ⊕ Binary64) → Option (Int ⊕ Binary64) → Bool
  | some (.inl i), some (.inl j) => i == j
  | some (.inr x), some (.inr y) => x.sameValue y
  | _, _ => false

mutual

/-- Whether two values are the same: numbers and truth values by their numeric
value, timestamps by their point in time, objects without regard to order. -/
def same : Value → Value → Bool
  | null, other => other.isNull
  | text s, other => match other with | text s' => s == s' | _ => false
  | moment t, other => match other with | moment t' => t.sameMoment t' | _ => false
  | list items, other => match other with | list items' => sameItems items items' | _ => false
  | object fields, other =>
      match other with
      | object fields' => fields.length == fields'.length && sameFields fields fields'
      | _ => false
  | table entries, other =>
      match other with
      | table entries' => entries.length == entries'.length && sameEntries entries entries'
      | _ => false
  | bool b, other => sameNumeric (bool b).numeric? other.numeric?
  | int i, other => sameNumeric (int i).numeric? other.numeric?
  | real x, other => sameNumeric (real x).numeric? other.numeric?

/-- Whether two lists hold the same values in the same order. -/
def sameItems : List Value → List Value → Bool
  | [], others => others.isEmpty
  | x :: rest, others =>
      match others with
      | y :: others => same x y && sameItems rest others
      | [] => false

/-- Whether every field has a field of the same value in the other list. -/
def sameFields : List (Text × Value) → List (Text × Value) → Bool
  | [], _ => true
  | (name, value) :: rest, others =>
      (match Fields.get? name others with
        | some other => same value other
        | none => false) && sameFields rest others

/-- Whether every entry has an entry of the same key and value in the other
list. -/
def sameEntries : List (Value × Value) → List (Value × Value) → Bool
  | [], _ => true
  | (key, value) :: rest, others =>
      others.any (fun other => same key other.1 && same value other.2) && sameEntries rest others

end

mutual

/-- Whether two values are written alike: as `same`, but numbers of different
kinds differ, as do the zeros of either sign, and timestamps are compared by
their text. -/
def sameForm : Value → Value → Bool
  | null, other => other.isNull
  | bool b, other =>
      match other with
      | bool b' => b == b'
      | int i => i == if b then 1 else 0
      | _ => false
  | int i, other =>
      match other with
      | bool b => i == if b then 1 else 0
      | int i' => i == i'
      | _ => false
  | real x, other => match other with | real x' => x == x' | _ => false
  | text s, other => match other with | text s' => s == s' | _ => false
  | moment t, other => match other with | moment t' => t.text == t'.text | _ => false
  | list items, other =>
      match other with | list items' => sameFormItems items items' | _ => false
  | object fields, other =>
      match other with
      | object fields' => fields.length == fields'.length && sameFormFields fields fields'
      | _ => false
  | table entries, other =>
      match other with
      | table entries' => entries.length == entries'.length && sameFormEntries entries entries'
      | _ => false

/-- Whether two lists hold values that are written alike, in the same order. -/
def sameFormItems : List Value → List Value → Bool
  | [], others => others.isEmpty
  | x :: rest, others =>
      match others with
      | y :: others => sameForm x y && sameFormItems rest others
      | [] => false

/-- Whether every field has a field in the other list that is written alike. -/
def sameFormFields : List (Text × Value) → List (Text × Value) → Bool
  | [], _ => true
  | (name, value) :: rest, others =>
      (match Fields.get? name others with
        | some other => sameForm value other
        | none => false) && sameFormFields rest others

/-- Whether every entry has an entry of the same key in the other list that is
written alike. -/
def sameFormEntries : List (Value × Value) → List (Value × Value) → Bool
  | [], _ => true
  | (key, value) :: rest, others =>
      others.any (fun other => same key other.1 && sameForm value other.2) &&
        sameFormEntries rest others

end

end Value
end CatalogQuery
