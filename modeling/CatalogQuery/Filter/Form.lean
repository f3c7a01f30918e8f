import CatalogQuery.Filter.Group
import CatalogQuery.Filter.Source
import CatalogQuery.Predicate.Builder

/-!
# Query forms

A form shows a smart filter as flat rows: a field, an operation, the source of
the field and a value.  `FormFilter.toFilter` nests a row under its source and
reads the result as a filter on media; `MediaFilter.toForm` flattens a filter
into a row.  Forms are checked like other data: a text field takes no ordered
operation, and an operation on several values needs a list.
-/

namespace CatalogQuery

/-- The names of fields that hold texts. -/
def textFieldNames : List String :=
  ["name", "title", "path", "extension", "description", "summary", "notes", "genre",
    "writer", "penciller", "inker", "colorist", "letterer", "editor", "character",
    "publisher", "cover_artists", "links", "teams", "meta_type", "status"]

/-- A row of a query form. -/
structure FormFilter where
  field : Text
  operation : Operation
  source : Source
  operand : Operand

/-- A group of rows. -/
structure FormGroup where
  joiner : GroupJoiner
  filters : List FormFilter

/-- A whole query form.  The groups are joined by `and` or `or`. -/
structure FormConfig where
  groups : List FormGroup
  joiner : FilterJoiner

/-- Whether an operand is a list of values. -/
def Operand.isList : Operand → Bool
  | value (.list _) => true
  | _ => false

namespace FormFilter

/-- The row with the given parts, if its operation fits its field and value. -/
def make (field : Text) (operation : Operation) (source : Source) (operand : Operand) :
    Checked FormFilter :=
  if field.isAmong textFieldNames ∧ operation.isOrdered then
    Checked.fail (.violated .orderedOperationOnText)
  else
    match operation with
    | .several operator =>
        if operand.isList then .ok ⟨field, operation, source, operand⟩
        else Checked.fail (.violated (.operationNeedsList operator.key))
    | _ => .ok ⟨field, operation, source, operand⟩

/-- The check of an operation; a name that is none matches no variant. -/
def checkOperation (value : Value) : Checked Operation :=
  match Checked.word Operation.named value with
  | .ok operation => .ok operation
  | .error _ => Checked.fail .noVariant

/-- The check of a row. -/
def check : Value → Checked FormFilter :=
  Checked.object fun fields =>
    match (Checked.field "field" Checked.text fields).both
        ((Checked.field "operation" checkOperation fields).both
          ((Checked.field "source" (Checked.word Source.named) fields).both
            (Checked.field "value" .ok fields))) with
    | .ok (field, operation, source, value) => make field operation source (.value value)
    | .error issues => .error issues

end FormFilter

/-- The check of a group of rows. -/
def FormGroup.check : Value → Checked FormGroup :=
  Checked.object fun fields =>
    ((Checked.fieldOr "joiner" .and (Checked.word GroupJoiner.keyed) fields).both
      (Checked.fieldOr "filters" [] (Checked.list FormFilter.check) fields)).map
        fun (joiner, filters) => ⟨joiner, filters⟩

/-- The word for a joiner in a form. -/
def FilterJoiner.formWord : FilterJoiner → String
  | and => "and"
  | or => "or"

/-- The check of a form. -/
def FormConfig.check : Value → Checked FormConfig :=
  Checked.object fun fields =>
    ((Checked.fieldOr "groups" [] (Checked.list FormGroup.check) fields).both
      (Checked.fieldOr "joiner" .and (Checked.word [("and", .and), ("or", .or)]) fields)).map
        fun (groups, joiner) => ⟨groups, joiner⟩

/-- The filter on media that a row stands for. -/
def FormFilter.toFilter (row : FormFilter) : Outcome MediaFilter := do
  let predicate ← row.operation.toValue row.operand
  Checked.reported Entity.media.filterModel <|
    MediaFilter.check (Value.nest row.source.path (.object [(row.field, predicate)]))

/-- What a filter says about its field, as an operation and an operand.  A
filter on a related entity stands as its wire form. -/
def FieldTest.describe : FieldTest → Operation × Operand
  | text predicate => predicate.describe .text
  | number predicate => predicate.describe Number.toValue
  | moment predicate => predicate.describe .moment
  | related filter => (.equals, .value filter.toWire)

/-- The row that a filter on media is flattened to. -/
def MediaFilter.toForm (filter : MediaFilter) : Outcome FormFilter :=
  let (source, leaf) := filter.source
  let (field, test) := leaf.test
  let (operation, operand) := test.describe
  Checked.reported "FormFilter" (FormFilter.make field operation source operand)

/-- The group of filters that a group of rows stands for. -/
def FormGroup.toGroup (group : FormGroup) : Outcome FilterGroup := do
  .ok ⟨group.joiner, ← group.filters.mapM FormFilter.toFilter⟩

/-- The group of rows that a group of filters is flattened to. -/
def FilterGroup.toForm (group : FilterGroup) : Outcome FormGroup := do
  .ok ⟨group.joiner, ← group.filters.mapM MediaFilter.toForm⟩

/-- The smart filter that a form stands for. -/
def FormConfig.toFilter (config : FormConfig) : Outcome SmartFilter := do
  .ok ⟨← config.groups.mapM FormGroup.toGroup, config.joiner⟩

/-- The form that a smart filter is flattened to. -/
def SmartFilter.toForm (filter : SmartFilter) : Outcome FormConfig := do
  .ok ⟨← filter.groups.mapM FilterGroup.toForm, filter.joiner⟩

end CatalogQuery
