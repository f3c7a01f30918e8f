import CatalogQuery.Failure
import CatalogQuery.Filter.Reader
import CatalogQuery.Value.Display
import CatalogQuery.Value.Listing
import CatalogQuery.Value.Order

/-!
# Filter groups and smart filters

A group joins filters on media by `and`, `or` or `not`; a smart filter joins
groups by `AND` or `OR`.  The wire form of a group is an object with the joiner
as its only key.  `ofWire` reads that form, and `check` reads the fields of a
group by name.
-/

namespace CatalogQuery

/-- How the filters of a group are joined. -/
inductive GroupJoiner where
  | and
  | or
  | not
deriving DecidableEq, Repr, Inhabited

namespace GroupJoiner

/-- All joiners. -/
def all : List GroupJoiner := [and, or, not]

/-- The key of a joiner. -/
def key : GroupJoiner → String
  | and => "and"
  | or => "or"
  | not => "not"

/-- The keys of all joiners with the joiners. -/
def keyed : List (String × GroupJoiner) := all.map fun joiner => (joiner.key, joiner)

end GroupJoiner

/-- How the groups of a smart filter are joined. -/
inductive FilterJoiner where
  | and
  | or
deriving DecidableEq, Repr, Inhabited

namespace FilterJoiner

/-- The word for a joiner. -/
def word : FilterJoiner → String
  | and => "AND"
  | or => "OR"

/-- The words for the joiners. -/
def worded : List (String × FilterJoiner) := [("AND", and), ("OR", or)]

end FilterJoiner

/-- A group of filters on media.  A group without filters adds nothing to a
query. -/
structure FilterGroup where
  joiner : GroupJoiner
  filters : List MediaFilter
deriving DecidableEq, Inhabited

/-- A whole query filter. -/
structure SmartFilter where
  groups : List FilterGroup
  joiner : FilterJoiner
deriving DecidableEq, Inhabited

namespace FilterGroup

/-- The wire form of a group. -/
def toWire (group : FilterGroup) : Value :=
  .object [(group.joiner.key, .list (group.filters.map MediaFilter.toWire))]

/-- The check of a group that is given by its fields. -/
def check : Value → Checked FilterGroup :=
  Checked.object fun fields =>
    ((Checked.fieldOr "joiner" .and (Checked.word GroupJoiner.keyed) fields).both
      (Checked.fieldOr "filters" [] (Checked.list MediaFilter.check) fields)).map
        fun (joiner, filters) => ⟨joiner, filters⟩

/-- The group with a joiner and the filters that a value lists; an empty value
lists none. -/
def ofFilters (joiner : GroupJoiner) (filters : Value) : Outcome FilterGroup :=
  if filters.isEmpty then .ok ⟨joiner, []⟩
  else
    Checked.reported "FilterGroup" <|
      (Checked.inField "filters" (Checked.list MediaFilter.check filters)).map
        fun filters => ⟨joiner, filters⟩

/-- The keys of a value, shown in order. -/
def shownKeys (listing : Listing) : Outcome String :=
  match Value.sorted? listing.toList with
  | some keys => .ok (Value.inspect (.list keys))
  | none => .error .wrongKind

/-- The group that a wire form stands for. -/
def ofWire (payload : Value) : Outcome FilterGroup :=
  match Listing.ofValue? payload with
  | none => .error .wrongKind
  | some listing =>
      match GroupJoiner.all.filter fun joiner => listing.holds joiner.key with
      | [joiner] =>
          if listing.toList.length = 1 then
            match payload.field? joiner.key with
            | some filters => ofFilters joiner filters
            | none => .error .wrongKind
          else do .error (.groupKeys (← shownKeys listing))
      | _ => do .error (.groupKeys (← shownKeys listing))

end FilterGroup

namespace SmartFilter

/-- A filter with the given groups as an object. -/
def wireOf (groups : List FilterGroup) (joiner : FilterJoiner) : Value :=
  .object [("groups", .list (groups.map FilterGroup.toWire)), ("joiner", .text joiner.word)]

/-- The wire form of a smart filter. -/
def toWire (filter : SmartFilter) : Value := wireOf filter.groups filter.joiner

/-- The wire form that is kept when a smart filter is saved: groups without
filters are left out. -/
def toSavedWire (filter : SmartFilter) : Value :=
  wireOf (filter.groups.filter fun group => !group.filters.isEmpty) filter.joiner

/-- The check of a smart filter that is given by its fields. -/
def check : Value → Checked SmartFilter :=
  Checked.object fun fields =>
    ((Checked.fieldOr "groups" [] (Checked.list FilterGroup.check) fields).both
      (Checked.fieldOr "joiner" .and (Checked.word FilterJoiner.worded) fields)).map
        fun (groups, joiner) => ⟨groups, joiner⟩

/-- The groups that a value lists: the items of a list, the keys of an object
or the characters of a text; an empty or absent value lists none. -/
def listedGroups (listed : Option Value) : Outcome (List Value) :=
  match listed with
  | none => .ok []
  | some value =>
      if value.isEmpty then .ok []
      else
        match Listing.ofValue? value with
        | some listing => .ok listing.toList
        | none => .error .wrongKind

/-- The joiner that a value names; an empty or absent one means `AND`. -/
def namedJoiner (named : Option Value) : Checked FilterJoiner :=
  match named with
  | none => .ok .and
  | some value =>
      if value.isEmpty then .ok .and
      else Checked.inField "joiner" (Checked.word FilterJoiner.worded value)

/-- The smart filter that a wire form stands for. -/
def ofWire : Value → Outcome SmartFilter
  | .object fields => do
      let groups ← (← listedGroups (Fields.get? "groups" fields)).mapM FilterGroup.ofWire
      let joiner ← Checked.reported "SmartFilter" (namedJoiner (Fields.get? "joiner" fields))
      .ok ⟨groups, joiner⟩
  | _ => .error .notAnObject

end SmartFilter
end CatalogQuery
