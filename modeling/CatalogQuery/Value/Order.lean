import CatalogQuery.Sorting
import CatalogQuery.Value

/-!
# The order of values

Numbers and truth values are ordered by their numeric value, texts by their
code points, and lists by their first item that differs.  No other two values
can be compared, and a list in which a comparison fails has no sorted form.
-/

namespace CatalogQuery
namespace Value

/-- Whether the first number is below the second, exactly; they are given as
`numeric?` gives them. -/
def belowNumeric : Int ⊕ Binary64 → Int ⊕ Binary64 → Bool
  | .inl i, .inl j => i < j
  | .inl i, .inr y => y.gtInt i
  | .inr x, .inl j => x.ltInt j
  | .inr x, .inr y => x.lt y

mutual

/-- Whether the first value is below the second, if they can be compared. -/
def below? : Value → Value → Option Bool
  | text s, other => match other with | text s' => some (s.isBelow s') | _ => none
  | list items, other => match other with | list items' => belowItems? items items' | _ => none
  | value, other => do some (belowNumeric (← value.numeric?) (← other.numeric?))

/-- Whether the first list is below the second, if they can be compared. -/
def belowItems? : List Value → List Value → Option Bool
  | [], others => some (!others.isEmpty)
  | x :: rest, others =>
      match others with
      | y :: others => if same x y then belowItems? rest others else below? x y
      | [] => some false

end

/-- The values in order, if all comparisons that this needs succeed. -/
def sorted? (values : List Value) : Option (List Value) := Sorting.sort? below? values

end Value
end CatalogQuery
