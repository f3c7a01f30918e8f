import CatalogQuery.Failure
import CatalogQuery.Text.FormEncoding
import CatalogQuery.Value.Display

/-!
# Query parameters

The parameters of a query string are names with one or more texts each, in the
order in which the names first occur.
-/

namespace CatalogQuery

/-- Names with the texts that they were given. -/
abbrev QueryParams := Fields (List Text)

namespace QueryParams

/-- Give a name one more text. -/
def add (name text : Text) (params : QueryParams) : QueryParams :=
  Fields.set name ((Fields.get? name params).getD [] ++ [text]) params

/-- The parameters of a list of pairs. -/
def ofPairs (pairs : List (Text × Text)) : QueryParams :=
  pairs.foldl (fun params pair => add pair.1 pair.2 params) []

/-- The parameters of a query string. -/
def ofText (query : Text) : QueryParams := ofPairs (Text.FormEncoding.decode query)

/-- The text that a single value becomes. -/
def textOf : Value → Text
  | .bool b => if b then "true" else "false"
  | .null => ""
  | value => value.display

/-- The parameters of an object; a list gives a name several texts. -/
def ofFields (fields : Fields Value) : QueryParams :=
  fields.map fun (name, value) =>
    match value with
    | .list items => (name, items.map textOf)
    | value => (name, [textOf value])

/-- The parameters of pairs of names and single values. -/
def ofValuePairs (pairs : List (Text × Value)) : QueryParams :=
  ofPairs (pairs.map fun (name, value) => (name, textOf value))

/-- All pairs of a name and one of its texts. -/
def toPairs (params : QueryParams) : List (Text × Text) :=
  params.flatMap fun (name, texts) => texts.map (name, ·)

/-- The query string of the parameters. -/
def toText (params : QueryParams) : Outcome String :=
  match Text.FormEncoding.encode? params.toPairs with
  | some text => .ok text
  | none => .error .unwritableText

/-- The first text of a name, if the name is present. -/
def first? (name : Text) (params : QueryParams) : Outcome (Option Text) :=
  match Fields.get? name params with
  | none => .ok none
  | some (text :: _) => .ok (some text)
  | some [] => .error .noItems

end QueryParams
end CatalogQuery
