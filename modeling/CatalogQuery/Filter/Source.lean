import CatalogQuery.Filter

/-!
# Paths through the catalog

A filter on media reaches an entity along a path of related entities.
`EntityFilter.narrow?` follows the path of an entity into a filter;
`MediaFilter.source` finds where the filter ends, with the filter on the last
entity.
-/

namespace CatalogQuery

/-- Where a filter on media ends: the places of the rows of a query form. -/
inductive Source where
  | book
  | bookMetadata
  | series
  | seriesMetadata
  | library
deriving DecidableEq, Repr

namespace Source

/-- All sources. -/
def all : List Source := [book, bookMetadata, series, seriesMetadata, library]

/-- The name of a source. -/
def name : Source → String
  | book => "book"
  | bookMetadata => "book_meta"
  | series => "series"
  | seriesMetadata => "series_meta"
  | library => "library"

/-- The names of all sources with the sources. -/
def named : List (String × Source) := all.map fun source => (source.name, source)

/-- The fields that lead from media to a source. -/
def path : Source → List String
  | book => []
  | bookMetadata => ["metadata"]
  | series => ["series"]
  | seriesMetadata => ["series", "metadata"]
  | library => ["series", "library"]

end Source

/-- The fields that lead from media to an entity. -/
def Entity.path : Entity → List String
  | media => []
  | mediaMetadata => ["metadata"]
  | series => ["series"]
  | seriesMetadata => ["series", "metadata"]
  | library => ["series", "library"]

/-- A value at the end of a path of fields. -/
def Value.nest (path : List String) (value : Value) : Value :=
  path.foldr (fun (key : String) inner => .object [(key, inner)]) value

namespace EntityFilter

/-- The filter on a related entity, if that is what the field holds. -/
def related? (field : String) (filter : EntityFilter) : Option EntityFilter :=
  match filter.test with
  | (name, .related inner) => if name = field then some inner else none
  | _ => none

/-- The filter at the end of a path. -/
def follow? (filter : EntityFilter) (path : List String) : Option EntityFilter :=
  path.foldlM (fun node field => node.related? field) filter

end EntityFilter

namespace MediaFilter

/-- The part of a filter on media that is a filter on an entity, if it reaches
that entity. -/
def narrow? (entity : Entity) (filter : MediaFilter) : Option EntityFilter :=
  (EntityFilter.media filter).follow? entity.path

/-- Where a filter on media ends, and the filter on the entity there. -/
def source : MediaFilter → Source × EntityFilter
  | text field predicate => (.book, .media (text field predicate))
  | metadata filter => (.bookMetadata, .mediaMetadata filter)
  | series (.library filter) => (.library, .library filter)
  | series (.metadata filter) => (.seriesMetadata, .seriesMetadata filter)
  | series (.text field predicate) => (.series, .series (.text field predicate))

end MediaFilter
end CatalogQuery
