/-!
# Catalog entities

The catalog holds media, each of which belongs to a series, and each series to
a library; media and series have metadata.
-/

namespace CatalogQuery

/-- The kinds of things that can be listed. -/
inductive Entity where
  | media
  | mediaMetadata
  | series
  | seriesMetadata
  | library
deriving DecidableEq, Repr, Inhabited

namespace Entity

/-- All kinds, in the order in which they are offered. -/
def all : List Entity := [media, mediaMetadata, series, seriesMetadata, library]

/-- The name of a kind. -/
def name : Entity → String
  | media => "media"
  | mediaMetadata => "media_metadata"
  | series => "series"
  | seriesMetadata => "series_metadata"
  | library => "library"

/-- The kind with a name. -/
def ofName? (name : String) : Option Entity := all.find? (·.name == name)

/-- The names of all kinds with the kinds. -/
def named : List (String × Entity) := all.map fun entity => (entity.name, entity)

theorem ofName?_name (entity : Entity) : ofName? entity.name = some entity := by
  cases entity <;> decide +kernel

end Entity
end CatalogQuery
