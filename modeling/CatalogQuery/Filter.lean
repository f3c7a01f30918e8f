import CatalogQuery.Entity
import CatalogQuery.Predicate.Reader

/-!
# Entity filters

A filter on an entity names exactly one of its fields: a field of its own with
a predicate, or a related entity with a filter on that one.  Filters lead from
media to their metadata, to their series, to the metadata of the series and to
the library of the series.  `toWire` gives the nested objects that are sent.
-/

namespace CatalogQuery

/-- The text fields of a library. -/
inductive LibraryText where
  | name
  | path
deriving DecidableEq, Repr

/-- The text fields of the metadata of a series. -/
inductive SeriesMetadataText where
  | metaType
  | title
  | publisher
  | status
deriving DecidableEq, Repr

/-- The number fields of the metadata of a series. -/
inductive SeriesMetadataNumber where
  | ageRating
  | volume
deriving DecidableEq, Repr

/-- The text fields of a series. -/
inductive SeriesText where
  | name
  | path
deriving DecidableEq, Repr

/-- The text fields of the metadata of media. -/
inductive MediaMetadataText where
  | title
  | summary
  | publisher
  | genre
  | character
  | colorist
  | writer
  | penciller
  | letterer
  | inker
  | editor
deriving DecidableEq, Repr

/-- The number fields of the metadata of media. -/
inductive MediaMetadataNumber where
  | ageRating
  | year
  | month
  | day
deriving DecidableEq, Repr

/-- The text fields of media. -/
inductive MediaText where
  | name
  | path
  | extension
deriving DecidableEq, Repr

/-- A filter on libraries. -/
inductive LibraryFilter where
  | text (field : LibraryText) (predicate : TextPredicate)
  | updatedAt (predicate : MomentPredicate)
deriving DecidableEq

/-- A filter on the metadata of series. -/
inductive SeriesMetadataFilter where
  | text (field : SeriesMetadataText) (predicate : TextPredicate)
  | number (field : SeriesMetadataNumber) (predicate : NumberPredicate)
deriving DecidableEq

/-- A filter on series. -/
inductive SeriesFilter where
  | text (field : SeriesText) (predicate : TextPredicate)
  | metadata (filter : SeriesMetadataFilter)
  | library (filter : LibraryFilter)
deriving DecidableEq

/-- A filter on the metadata of media. -/
inductive MediaMetadataFilter where
  | text (field : MediaMetadataText) (predicate : TextPredicate)
  | number (field : MediaMetadataNumber) (predicate : NumberPredicate)
deriving DecidableEq

/-- A filter on media, the root of the catalog. -/
inductive MediaFilter where
  | text (field : MediaText) (predicate : TextPredicate)
  | metadata (filter : MediaMetadataFilter)
  | series (filter : SeriesFilter)
deriving DecidableEq

/-- A filter on some entity. -/
inductive EntityFilter where
  | media (filter : MediaFilter)
  | mediaMetadata (filter : MediaMetadataFilter)
  | series (filter : SeriesFilter)
  | seriesMetadata (filter : SeriesMetadataFilter)
  | library (filter : LibraryFilter)
deriving DecidableEq

/-- The name of a field. -/
def LibraryText.key : LibraryText → String
  | name => "name"
  | path => "path"

/-- The name of a field. -/
def SeriesMetadataText.key : SeriesMetadataText → String
  | metaType => "meta_type"
  | title => "title"
  | publisher => "publisher"
  | status => "status"

/-- The name of a field. -/
def SeriesMetadataNumber.key : SeriesMetadataNumber → String
  | ageRating => "age_rating"
  | volume => "volume"

/-- The name of a field. -/
def SeriesText.key : SeriesText → String
  | name => "name"
  | path => "path"

/-- The name of a field. -/
def MediaMetadataText.key : MediaMetadataText → String
  | title => "title"
  | summary => "summary"
  | publisher => "publisher"
  | genre => "genre"
  | character => "character"
  | colorist => "colorist"
  | writer => "writer"
  | penciller => "penciller"
  | letterer => "letterer"
  | inker => "inker"
  | editor => "editor"

/-- The name of a field. -/
def MediaMetadataNumber.key : MediaMetadataNumber → String
  | ageRating => "age_rating"
  | year => "year"
  | month => "month"
  | day => "day"

/-- The name of a field. -/
def MediaText.key : MediaText → String
  | name => "name"
  | path => "path"
  | extension => "extension"

/-- What a filter says about its field. -/
inductive FieldTest where
  | text (predicate : TextPredicate)
  | number (predicate : NumberPredicate)
  | moment (predicate : MomentPredicate)
  | related (filter : EntityFilter)

namespace EntityFilter

/-- The entity that a filter is on. -/
def entity : EntityFilter → Entity
  | media _ => .media
  | mediaMetadata _ => .mediaMetadata
  | series _ => .series
  | seriesMetadata _ => .seriesMetadata
  | library _ => .library

/-- The field of a filter and what the filter says about it. -/
def test : EntityFilter → String × FieldTest
  | media (.text field predicate) => (field.key, .text predicate)
  | media (.metadata filter) => ("metadata", .related (mediaMetadata filter))
  | media (.series filter) => ("series", .related (series filter))
  | mediaMetadata (.text field predicate) => (field.key, .text predicate)
  | mediaMetadata (.number field predicate) => (field.key, .number predicate)
  | series (.text field predicate) => (field.key, .text predicate)
  | series (.metadata filter) => ("metadata", .related (seriesMetadata filter))
  | series (.library filter) => ("library", .related (library filter))
  | seriesMetadata (.text field predicate) => (field.key, .text predicate)
  | seriesMetadata (.number field predicate) => (field.key, .number predicate)
  | library (.text field predicate) => (field.key, .text predicate)
  | library (.updatedAt predicate) => ("updated_at", .moment predicate)

end EntityFilter

/-- The wire form of a filter. -/
def LibraryFilter.toWire : LibraryFilter → Value
  | text field predicate => .object [(field.key, TextPredicate.toWire predicate)]
  | updatedAt predicate => .object [("updated_at", MomentPredicate.toWire predicate)]

/-- The wire form of a filter. -/
def SeriesMetadataFilter.toWire : SeriesMetadataFilter → Value
  | text field predicate => .object [(field.key, TextPredicate.toWire predicate)]
  | number field predicate => .object [(field.key, NumberPredicate.toWire predicate)]

/-- The wire form of a filter. -/
def SeriesFilter.toWire : SeriesFilter → Value
  | text field predicate => .object [(field.key, TextPredicate.toWire predicate)]
  | metadata filter => .object [("metadata", filter.toWire)]
  | library filter => .object [("library", filter.toWire)]

/-- The wire form of a filter. -/
def MediaMetadataFilter.toWire : MediaMetadataFilter → Value
  | text field predicate => .object [(field.key, TextPredicate.toWire predicate)]
  | number field predicate => .object [(field.key, NumberPredicate.toWire predicate)]

/-- The wire form of a filter. -/
def MediaFilter.toWire : MediaFilter → Value
  | text field predicate => .object [(field.key, TextPredicate.toWire predicate)]
  | metadata filter => .object [("metadata", filter.toWire)]
  | series filter => .object [("series", filter.toWire)]

/-- The wire form of a filter. -/
def EntityFilter.toWire : EntityFilter → Value
  | media filter => filter.toWire
  | mediaMetadata filter => filter.toWire
  | series filter => filter.toWire
  | seriesMetadata filter => filter.toWire
  | library filter => filter.toWire

end CatalogQuery
