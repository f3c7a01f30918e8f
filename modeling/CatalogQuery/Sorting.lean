/-!
# Sorting with comparisons that may fail

`Sorting.sort?` sorts a list by a comparison that is not defined for all items.
The longest start of the list that is in order already is kept, or turned
around if every item of it is below the one before; each further item is then
put behind all items that it is not below, at the place that repeated halving
finds.  Which comparisons are made is part of the result: one that fails is
noticed only if it is made, and items that are not ordered among each other, as
values that are no numbers are not, stay where halving leaves them.
-/

namespace CatalogQuery
namespace Sorting

variable {α : Type} (below? : α → α → Option Bool)

/-- The run that goes on from `last` without falling, `seen` holding what is
before it in reverse, and the rest of the list. -/
def risingRun? (seen : List α) (last : α) : List α → Option (List α × List α)
  | [] => some ((last :: seen).reverse, [])
  | next :: rest => do
      if ← below? next last then some ((last :: seen).reverse, next :: rest)
      else risingRun? (last :: seen) next rest

/-- The run that goes on from `last` with every item below the one before,
turned around, and the rest of the list; `seen` holds what is before it in
reverse. -/
def fallingRun? (seen : List α) (last : α) : List α → Option (List α × List α)
  | [] => some (last :: seen, [])
  | next :: rest => do
      if ← below? next last then fallingRun? (last :: seen) next rest
      else some (last :: seen, next :: rest)

/-- The run at the start of a list, in order, and the rest of the list. -/
def firstRun? : List α → Option (List α × List α)
  | [] => some ([], [])
  | [item] => some ([item], [])
  | first :: second :: rest => do
      if ← below? second first then fallingRun? below? [first] second rest
      else risingRun? below? [first] second rest

/-- The place of an item among the sorted items from `low` up to `high`, found
by halving. -/
def place? (item : α) (items : Array α) (low high : Nat) (inside : high ≤ items.size) :
    Option Nat :=
  if less : low < high then
    let middle := low + (high - low) / 2
    have belowHigh : middle < high := by omega
    match below? item items[middle] with
    | none => none
    | some true => place? item items low middle (by omega)
    | some false => place? item items (middle + 1) high inside
  else some low
termination_by high - low

/-- Sorted items with one more. -/
def insert? (items : List α) (item : α) : Option (List α) :=
  (place? below? item items.toArray 0 items.length (by simp)).map fun place =>
    items.take place ++ item :: items.drop place

/-- The items in order, if all comparisons that are made succeed. -/
def sort? (items : List α) : Option (List α) := do
  let (run, rest) ← firstRun? below? items
  rest.foldlM (insert? below?) run

end Sorting
end CatalogQuery
