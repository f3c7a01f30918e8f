/-!
# Splitting at a separator
-/

namespace CatalogQuery
namespace Text

variable {α : Type} [DecidableEq α]

/-- The parts of a list between the occurrences of a separator; there is always
at least one. -/
def splitAll (separator : α) : List α → List (List α)
  | [] => [[]]
  | item :: rest =>
      match splitAll separator rest with
      | [] => [[item]]
      | part :: parts =>
          if item = separator then [] :: part :: parts else (item :: part) :: parts

/-- What is before the first occurrence of a separator, and what is after it if
there is one. -/
def splitFirst (separator : α) (items : List α) : List α × Option (List α) :=
  (items.takeWhile (· ≠ separator),
    match items.dropWhile (· ≠ separator) with
    | [] => none
    | _ :: rest => some rest)

end Text
end CatalogQuery
