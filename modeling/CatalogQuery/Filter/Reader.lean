import CatalogQuery.Filter

/-!
# Reading entity filters

The data of a filter is an object.  A null field counts as absent, any other
entry is an issue, and once all fields are sound exactly one must be set.
-/

namespace CatalogQuery

/-- How a field of an entity becomes a filter on the entity. -/
structure FieldReader (α : Type) where
  name : String
  check : Value → Checked α

namespace FieldReader

variable {α : Type}

/-- The fields that are set, in the order of the readers, each with its
check. -/
def checks (readers : List (FieldReader α)) (fields : Fields Value) :
    List (String × Checked α) :=
  readers.filterMap fun reader =>
    match Fields.get? reader.name fields with
    | none => none
    | some value =>
        if value.isNull then none
        else some (reader.name, Checked.inField reader.name (reader.check value))

/-- The checks of the fields that are set as one check. -/
def joined : List (String × Checked α) → Checked (List (String × α))
  | [] => .ok []
  | (name, check) :: rest =>
      (Checked.both (check.map (name, ·)) (joined rest)).map fun (first, others) =>
        first :: others

/-- The filter of the single field that is set. -/
def only (model : String) (readers : List (FieldReader α)) (value : Value) : Checked α :=
  match value.fields? with
  | none => Checked.fail .notModel
  | some fields => do
      let found ← Checked.closed (readers.map (·.name)) value.keys
        (joined (checks readers fields))
      match found with
      | [(_, filter)] => .ok filter
      | _ => Checked.fail (.violated (.fieldCount model (found.map (·.1))))

/-- A field with a predicate on texts. -/
def text (name : String) (wrap : TextPredicate → α) : FieldReader α :=
  ⟨name, fun value => (TextPredicate.check value).map wrap⟩

/-- A field with a predicate on numbers. -/
def number (name : String) (wrap : NumberPredicate → α) : FieldReader α :=
  ⟨name, fun value => (NumberPredicate.check value).map wrap⟩

/-- A field with a predicate on timestamps. -/
def moment (name : String) (wrap : MomentPredicate → α) : FieldReader α :=
  ⟨name, fun value => (MomentPredicate.check value).map wrap⟩

/-- A field with a filter on a related entity. -/
def related {β : Type} (name : String) (check : Value → Checked β) (wrap : β → α) :
    FieldReader α :=
  ⟨name, fun value => (check value).map wrap⟩

end FieldReader

/-- The name under which filters on an entity are reported. -/
def Entity.filterModel : Entity → String
  | media => "MediaFilter"
  | mediaMetadata => "MediaMetadataFilter"
  | series => "SeriesFilter"
  | seriesMetadata => "SeriesMetadataFilter"
  | library => "LibraryFilter"

/-- The fields of a library. -/
def LibraryFilter.readers : List (FieldReader LibraryFilter) :=
  [.text LibraryText.name.key (text .name), .text LibraryText.path.key (text .path),
    .moment "updated_at" updatedAt]

/-- The check of a filter on libraries. -/
def LibraryFilter.check : Value → Checked LibraryFilter :=
  FieldReader.only Entity.library.filterModel readers

/-- The fields of the metadata of a series. -/
def SeriesMetadataFilter.readers : List (FieldReader SeriesMetadataFilter) :=
  ([.metaType, .title, .publisher, .status].map fun field : SeriesMetadataText =>
      FieldReader.text field.key (text field)) ++
    [.ageRating, .volume].map fun field : SeriesMetadataNumber =>
      FieldReader.number field.key (number field)

/-- The check of a filter on the metadata of series. -/
def SeriesMetadataFilter.check : Value → Checked SeriesMetadataFilter :=
  FieldReader.only Entity.seriesMetadata.filterModel readers

/-- The fields of a series. -/
def SeriesFilter.readers : List (FieldReader SeriesFilter) :=
  [.text SeriesText.name.key (text .name), .text SeriesText.path.key (text .path),
    .related "metadata" SeriesMetadataFilter.check metadata,
    .related "library" LibraryFilter.check library]

/-- The check of a filter on series. -/
def SeriesFilter.check : Value → Checked SeriesFilter :=
  FieldReader.only Entity.series.filterModel readers

/-- The fields of the metadata of media. -/
def MediaMetadataFilter.readers : List (FieldReader MediaMetadataFilter) :=
  ([.title, .summary, .publisher, .genre, .character, .colorist, .writer, .penciller,
      .letterer, .inker, .editor].map fun field : MediaMetadataText =>
      FieldReader.text field.key (text field)) ++
    [.ageRating, .year, .month, .day].map fun field : MediaMetadataNumber =>
      FieldReader.number field.key (number field)

/-- The check of a filter on the metadata of media. -/
def MediaMetadataFilter.check : Value → Checked MediaMetadataFilter :=
  FieldReader.only Entity.mediaMetadata.filterModel readers

/-- The fields of media. -/
def MediaFilter.readers : List (FieldReader MediaFilter) :=
  [.text MediaText.name.key (text .name), .text MediaText.path.key (text .path),
    .text MediaText.extension.key (text .extension),
    .related "metadata" MediaMetadataFilter.check metadata,
    .related "series" SeriesFilter.check series]

/-- The check of a filter on media. -/
def MediaFilter.check : Value → Checked MediaFilter :=
  FieldReader.only Entity.media.filterModel readers

/-- The check of a filter on an entity. -/
def EntityFilter.check : Entity → Value → Checked EntityFilter
  | .media, value => (MediaFilter.check value).map media
  | .mediaMetadata, value => (MediaMetadataFilter.check value).map mediaMetadata
  | .series, value => (SeriesFilter.check value).map series
  | .seriesMetadata, value => (SeriesMetadataFilter.check value).map seriesMetadata
  | .library, value => (LibraryFilter.check value).map library

end CatalogQuery
