import CatalogQuery.Value

/-!
# Values as lists

Where a list is asked for, an object stands for its keys and a text for its
code points.  A key is looked up in any of the three: among the keys, among the
items, or as a part of the text.
-/

namespace CatalogQuery

/-- Whether code points occur one after the other in a text. -/
def Text.containsRun (run : List CodePoint) : List CodePoint → Bool
  | [] => run.isEmpty
  | point :: rest => run.isPrefixOf (point :: rest) || containsRun run rest

/-- A value that can be gone through item by item. -/
inductive Listing where
  | fields (fields : Fields Value)
  | items (items : List Value)
  | points (points : List CodePoint)

namespace Listing

/-- The value as a list, if it is one, an object or a text. -/
def ofValue? : Value → Option Listing
  | .object entries => some (fields entries)
  | .list values => some (items values)
  | .table entries => some (items (entries.map (·.1)))
  | .text s => some (points s.points)
  | _ => none

/-- The items: the keys of an object, the items of a list or the code points of
a text. -/
def toList : Listing → List Value
  | fields entries => entries.map fun entry => .text entry.1
  | items values => values
  | points ps => ps.map fun point => .text ⟨[point]⟩

/-- Whether a key occurs. -/
def holds (key : Text) : Listing → Bool
  | fields entries => Fields.has key entries
  | items values => values.any fun value => match value with | .text s => s == key | _ => false
  | points ps => Text.containsRun key.points ps

end Listing
end CatalogQuery
