import CatalogQuery.Proofs.Filter.RowMeaning
import CatalogQuery.Proofs.Filter.WireForm
import CatalogQuery.Proofs.Predicate.Variants
import Mathlib.Data.List.Nodup

/-!
# The grammar of predicates

The fields of entities that take a predicate are text fields, number fields and
timestamp fields.  An object that is given for one of them is accepted exactly if it is
what one of the operations of its kind takes, no two operations take it, and the wire
form of the filter that is made of it is read as that filter again
(`PredicateField.exact_and_unambiguous`).
-/

namespace CatalogQuery

/-! ## Kinds -/

/-- What the operands of the predicates on a field are. -/
inductive PredicateKind where
  | text
  | number
  | moment

namespace PredicateKind

/-- The operands of a kind. -/
def Operand : PredicateKind → Type
  | text => Text
  | number => Number
  | moment => Timestamp

/-- The predicates of a kind. -/
def Predicate : PredicateKind → Type
  | text => TextPredicate
  | number => NumberPredicate
  | moment => MomentPredicate

/-- How the operands of a kind are read, and how they are written on the wire. -/
def form : (kind : PredicateKind) → OperandForm kind.Operand
  | text => .text
  | number => .number
  | moment => .momentText

/-- The operations of a kind.  Texts have no order. -/
def operations : PredicateKind → List Operation
  | text => Operation.all.filter (!·.isOrdered)
  | number => Operation.all
  | moment => Operation.all

/-- What a field of a kind accepts. -/
def check : (kind : PredicateKind) → Value → Checked kind.Predicate
  | text => TextPredicate.check
  | number => NumberPredicate.check
  | moment => MomentPredicate.check

/-- What one variant of the predicates of a kind accepts. -/
def variant? : (kind : PredicateKind) → Operation → Value → Option kind.Predicate
  | text => Match.variant? readText?
  | number => OrderedMatch.variant? Number.read?
  | moment => OrderedMatch.variant? Checked.moment?

/-- The wire form of a predicate. -/
def toWire : (kind : PredicateKind) → kind.Predicate → Value
  | text => TextPredicate.toWire
  | number => NumberPredicate.toWire
  | moment => MomentPredicate.toWire

/-- The operation of a predicate. -/
def operation : (kind : PredicateKind) → kind.Predicate → Operation
  | text, predicate => (Match.describe OperandForm.text.write predicate).1
  | number, predicate => (OrderedMatch.describe OperandForm.number.write predicate).1
  | moment, predicate => (OrderedMatch.describe OperandForm.momentText.write predicate).1

end PredicateKind

theorem Operation.mem_all (operation : Operation) : operation ∈ all := by
  cases operation with
  | equals => decide
  | single operator => cases operator <;> decide
  | several operator => cases operator <;> decide
  | bound operator => cases operator <;> decide
  | range => decide

namespace PredicateKind

variable (kind : PredicateKind) {operation : Operation} {fields : Fields Value}
  {predicate : kind.Predicate}

theorem nodup_operations : kind.operations.Nodup := by
  cases kind <;> decide

theorem operation_mem (predicate : kind.Predicate) :
    kind.operation predicate ∈ kind.operations := by
  cases kind with
  | text =>
      refine List.mem_filter.mpr ⟨Operation.mem_all _, ?_⟩
      have unordered : (text.operation predicate).isOrdered = false :=
        Match.isOrdered_describe OperandForm.text.write predicate
      simp [unordered]
  | number => exact Operation.mem_all _
  | moment => exact Operation.mem_all _

/-- The variant of an operation accepts exactly what is accepted as a predicate with that
operation. -/
theorem variant?_eq_some_iff (distinct : fields.names.Nodup) :
    kind.variant? operation (.object fields) = some predicate ↔
      kind.check (.object fields) = .ok predicate ∧ kind.operation predicate = operation := by
  cases kind with
  | text =>
      exact (Match.variant?_eq_some_iff .text distinct).trans
        (and_congr_left' TextPredicate.check_eq_ok.symm)
  | number =>
      exact (OrderedMatch.variant?_eq_some_iff .number distinct).trans
        (and_congr_left' NumberPredicate.check_eq_ok.symm)
  | moment =>
      exact (OrderedMatch.variant?_eq_some_iff .momentText distinct).trans
        (and_congr_left' MomentPredicate.check_eq_ok.symm)

/-- The variant of an operation accepts exactly what the operation takes. -/
theorem variant?_isSome_iff (distinct : fields.names.Nodup)
    (member : operation ∈ kind.operations) :
    (kind.variant? operation (.object fields)).isSome = true ↔
      operation.Takes kind.form.read? fields := by
  cases kind with
  | text =>
      have unordered : operation.isOrdered = false := by
        simpa using (List.mem_filter.mp member).2
      exact Match.variant?_isSome_iff .text distinct unordered
  | number => exact OrderedMatch.variant?_isSome_iff .number distinct
  | moment => exact OrderedMatch.variant?_isSome_iff .momentText distinct

theorem check_toWire (predicate : kind.Predicate) :
    kind.check (kind.toWire predicate) = .ok predicate := by
  cases kind with
  | text => exact TextPredicate.check_toWire predicate
  | number => exact NumberPredicate.check_toWire predicate
  | moment => exact MomentPredicate.check_toWire predicate

theorem names_toWire (object : kind.operation predicate ≠ .equals) :
    ∃ wire, kind.toWire predicate = .object wire ∧
      ∃ keys ∈ (kind.operation predicate).sentKeys,
        Fields.names wire = keys.map Text.ofString := by
  cases kind with
  | text => exact Match.names_toValue _ object
  | number => exact OrderedMatch.names_toValue _ object
  | moment => exact OrderedMatch.names_toValue _ object

/-- What is accepted is what the operation of the predicate takes. -/
theorem takes_of_check (distinct : fields.names.Nodup)
    (checked : kind.check (.object fields) = .ok predicate) :
    (kind.operation predicate).Takes kind.form.read? fields := by
  rw [← kind.variant?_isSome_iff distinct (kind.operation_mem predicate),
    (kind.variant?_eq_some_iff distinct).mpr ⟨checked, rfl⟩]
  rfl

/-- An object is accepted exactly if one of the operations takes it. -/
theorem exists_check_iff (distinct : fields.names.Nodup) :
    (∃ predicate, kind.check (.object fields) = .ok predicate) ↔
      ∃ operation ∈ kind.operations, operation.Takes kind.form.read? fields := by
  constructor
  · rintro ⟨predicate, checked⟩
    exact ⟨_, kind.operation_mem predicate, kind.takes_of_check distinct checked⟩
  · rintro ⟨operation, member, taken⟩
    obtain ⟨predicate, read⟩ :=
      Option.isSome_iff_exists.mp ((kind.variant?_isSome_iff distinct member).mpr taken)
    exact ⟨predicate, ((kind.variant?_eq_some_iff distinct).mp read).1⟩

/-- In whatever order the variants are tried, what they accept is what the field accepts,
once. -/
theorem filterMap_variant? (distinct : fields.names.Nodup) {order : List Operation}
    (all : order.Perm kind.operations) :
    order.filterMap (kind.variant? · (.object fields)) =
      (kind.check (.object fields)).toOption.toList := by
  have members (predicate : kind.Predicate) :
      predicate ∈ order.filterMap (kind.variant? · (.object fields)) ↔
        predicate ∈ (kind.check (.object fields)).toOption.toList := by
    have checked : predicate ∈ (kind.check (.object fields)).toOption.toList ↔
        kind.check (.object fields) = .ok predicate := by
      cases kind.check (.object fields) <;> simp [Except.toOption, eq_comm]
    rw [checked, List.mem_filterMap]
    constructor
    · rintro ⟨operation, -, read⟩
      exact ((kind.variant?_eq_some_iff distinct).mp read).1
    · intro accepted
      exact ⟨_, all.mem_iff.mpr (kind.operation_mem predicate),
        (kind.variant?_eq_some_iff distinct).mpr ⟨accepted, rfl⟩⟩
  have once : (order.filterMap (kind.variant? · (.object fields))).Nodup := by
    refine List.Nodup.filterMap ?_ (all.nodup_iff.mpr kind.nodup_operations)
    intro first second predicate one other
    exact ((kind.variant?_eq_some_iff distinct).mp one).2.symm.trans
      ((kind.variant?_eq_some_iff distinct).mp other).2
  cases checked : kind.check (.object fields) with
  | error issues =>
      refine List.eq_nil_iff_forall_not_mem.mpr fun predicate member => ?_
      have none := (members predicate).mp member
      rw [checked] at none
      cases none
  | ok predicate =>
      refine List.perm_singleton.mp
        ((List.perm_ext_iff_of_nodup once (List.nodup_singleton _)).mpr ?_)
      intro other
      rw [members, checked]
      rfl

end PredicateKind

/-! ## Fields -/

/-- The fields of entities that take a predicate. -/
inductive PredicateField where
  | mediaText (field : MediaText)
  | mediaMetadataText (field : MediaMetadataText)
  | mediaMetadataNumber (field : MediaMetadataNumber)
  | seriesText (field : SeriesText)
  | seriesMetadataText (field : SeriesMetadataText)
  | seriesMetadataNumber (field : SeriesMetadataNumber)
  | libraryText (field : LibraryText)
  | libraryUpdatedAt

namespace PredicateField

/-- The entity that a field belongs to. -/
def entity : PredicateField → Entity
  | mediaText _ => .media
  | mediaMetadataText _ => .mediaMetadata
  | mediaMetadataNumber _ => .mediaMetadata
  | seriesText _ => .series
  | seriesMetadataText _ => .seriesMetadata
  | seriesMetadataNumber _ => .seriesMetadata
  | libraryText _ => .library
  | libraryUpdatedAt => .library

/-- The name of a field. -/
def key : PredicateField → String
  | mediaText field => field.key
  | mediaMetadataText field => field.key
  | mediaMetadataNumber field => field.key
  | seriesText field => field.key
  | seriesMetadataText field => field.key
  | seriesMetadataNumber field => field.key
  | libraryText field => field.key
  | libraryUpdatedAt => "updated_at"

/-- The kind of the predicates on a field. -/
def kind : PredicateField → PredicateKind
  | mediaText _ => .text
  | mediaMetadataText _ => .text
  | mediaMetadataNumber _ => .number
  | seriesText _ => .text
  | seriesMetadataText _ => .text
  | seriesMetadataNumber _ => .number
  | libraryText _ => .text
  | libraryUpdatedAt => .moment

/-- The filter with a predicate on a field. -/
def filter : (field : PredicateField) → field.kind.Predicate → EntityFilter
  | mediaText field, predicate => .media (.text field predicate)
  | mediaMetadataText field, predicate => .mediaMetadata (.text field predicate)
  | mediaMetadataNumber field, predicate => .mediaMetadata (.number field predicate)
  | seriesText field, predicate => .series (.text field predicate)
  | seriesMetadataText field, predicate => .seriesMetadata (.text field predicate)
  | seriesMetadataNumber field, predicate => .seriesMetadata (.number field predicate)
  | libraryText field, predicate => .library (.text field predicate)
  | libraryUpdatedAt, predicate => .library (.updatedAt predicate)

end PredicateField

/-- A filter has a predicate on one of the fields, or leads to a related entity. -/
theorem EntityFilter.exists_field_or_related (entry : EntityFilter) :
    (∃ (field : PredicateField) (predicate : field.kind.Predicate),
      entry = field.filter predicate) ∨ ∃ inner, entry.test.2 = .related inner := by
  cases entry with
  | media filter =>
      cases filter with
      | text field predicate => exact Or.inl ⟨.mediaText field, predicate, rfl⟩
      | metadata inner => exact Or.inr ⟨_, rfl⟩
      | series inner => exact Or.inr ⟨_, rfl⟩
  | mediaMetadata filter =>
      cases filter with
      | text field predicate => exact Or.inl ⟨.mediaMetadataText field, predicate, rfl⟩
      | number field predicate => exact Or.inl ⟨.mediaMetadataNumber field, predicate, rfl⟩
  | series filter =>
      cases filter with
      | text field predicate => exact Or.inl ⟨.seriesText field, predicate, rfl⟩
      | metadata inner => exact Or.inr ⟨_, rfl⟩
      | library inner => exact Or.inr ⟨_, rfl⟩
  | seriesMetadata filter =>
      cases filter with
      | text field predicate => exact Or.inl ⟨.seriesMetadataText field, predicate, rfl⟩
      | number field predicate => exact Or.inl ⟨.seriesMetadataNumber field, predicate, rfl⟩
  | library filter =>
      cases filter with
      | text field predicate => exact Or.inl ⟨.libraryText field, predicate, rfl⟩
      | updatedAt predicate => exact Or.inl ⟨.libraryUpdatedAt, predicate, rfl⟩

namespace FieldReader

variable {α β γ : Type} {readers : List (FieldReader α)} {value : Value}

/-- An object with one field is read by the reader of that field alone. -/
theorem only_eq_ok_iff (model : String) (distinct : (readers.map (·.name)).Nodup)
    {reader : FieldReader α} (member : reader ∈ readers) (present : value.isNull = false)
    (filter : α) :
    only model readers (.object [((reader.name : Text), value)]) = .ok filter ↔
      reader.check value = .ok filter := by
  constructor
  · intro passed
    obtain ⟨other, known, named, checked⟩ := exists_mem_of_only passed
    have same : reader = other :=
      List.inj_on_of_nodup_map distinct member known (Text.ofString_inj.mp named)
    rwa [same]
  · exact only_of_mem model distinct member present

theorem map_only_eq_ok_iff {model name : String} {check : Value → Checked β} {inner : β → α}
    {outer : α → γ} (distinct : (readers.map (·.name)).Nodup)
    (member : ⟨name, fun value => (check value).map inner⟩ ∈ readers)
    (present : value.isNull = false) {entry : γ} :
    (only model readers (.object [((name : Text), value)])).map outer = .ok entry ↔
      ∃ found, check value = .ok found ∧ outer (inner found) = entry := by
  have read := only_eq_ok_iff model distinct member present
  simp only [Outcome.map_eq_ok, read]
  constructor
  · rintro ⟨_, ⟨found, checked, rfl⟩, made⟩
    exact ⟨found, checked, made⟩
  · rintro ⟨found, checked, made⟩
    exact ⟨_, ⟨found, checked, rfl⟩, made⟩

end FieldReader

namespace PredicateField

variable (field : PredicateField)

/-- A field accepts what is accepted as a predicate of its kind, and makes its filter of
it. -/
theorem check_eq_ok_iff {value : Value} (present : value.isNull = false) {entry : EntityFilter} :
    EntityFilter.check field.entity (.object [((field.key : Text), value)]) = .ok entry ↔
      ∃ predicate, field.kind.check value = .ok predicate ∧ field.filter predicate = entry := by
  cases field with
  | mediaText field =>
      have member : FieldReader.text field.key (MediaFilter.text field) ∈
          MediaFilter.readers := by
        cases field <;> simp [MediaFilter.readers]
      exact FieldReader.map_only_eq_ok_iff (by decide) member present
  | mediaMetadataText field =>
      have member : FieldReader.text field.key (MediaMetadataFilter.text field) ∈
          MediaMetadataFilter.readers := by
        cases field <;> simp [MediaMetadataFilter.readers]
      exact FieldReader.map_only_eq_ok_iff (by decide) member present
  | mediaMetadataNumber field =>
      have member : FieldReader.number field.key (MediaMetadataFilter.number field) ∈
          MediaMetadataFilter.readers := by
        cases field <;> simp [MediaMetadataFilter.readers]
      exact FieldReader.map_only_eq_ok_iff (by decide) member present
  | seriesText field =>
      have member : FieldReader.text field.key (SeriesFilter.text field) ∈
          SeriesFilter.readers := by
        cases field <;> simp [SeriesFilter.readers]
      exact FieldReader.map_only_eq_ok_iff (by decide) member present
  | seriesMetadataText field =>
      have member : FieldReader.text field.key (SeriesMetadataFilter.text field) ∈
          SeriesMetadataFilter.readers := by
        cases field <;> simp [SeriesMetadataFilter.readers]
      exact FieldReader.map_only_eq_ok_iff (by decide) member present
  | seriesMetadataNumber field =>
      have member : FieldReader.number field.key (SeriesMetadataFilter.number field) ∈
          SeriesMetadataFilter.readers := by
        cases field <;> simp [SeriesMetadataFilter.readers]
      exact FieldReader.map_only_eq_ok_iff (by decide) member present
  | libraryText field =>
      have member : FieldReader.text field.key (LibraryFilter.text field) ∈
          LibraryFilter.readers := by
        cases field <;> simp [LibraryFilter.readers]
      exact FieldReader.map_only_eq_ok_iff (by decide) member present
  | libraryUpdatedAt =>
      have member : FieldReader.moment "updated_at" LibraryFilter.updatedAt ∈
          LibraryFilter.readers := by
        simp [LibraryFilter.readers]
      exact FieldReader.map_only_eq_ok_iff (by decide) member present

/-- The wire form of a filter has the field with the wire form of the predicate. -/
theorem toWire_filter (predicate : field.kind.Predicate) :
    (field.filter predicate).toWire =
      .object [((field.key : Text), field.kind.toWire predicate)] := by
  cases field <;> rfl

/-- A field accepts an object exactly if it is what an operation of the kind of the field
takes.  The variants of the operations accept it once in whatever order they are tried,
which is how it is read.  The wire form of the filter that it becomes has the keys of the
operation in the spelling that is sent, and the field reads it as the very same filter. -/
theorem exact_and_unambiguous {fields : Fields Value} (distinct : fields.names.Nodup) :
    ((∃ entry, EntityFilter.check field.entity (.object [((field.key : Text), .object fields)]) =
        .ok entry) ↔
      ∃ operation ∈ field.kind.operations, operation.Takes field.kind.form.read? fields) ∧
    (∀ order : List Operation, order.Perm field.kind.operations →
      order.filterMap (field.kind.variant? · (.object fields)) =
        (field.kind.check (.object fields)).toOption.toList) ∧
    ∀ entry, EntityFilter.check field.entity (.object [((field.key : Text), .object fields)]) =
        .ok entry →
      ∃ predicate wire,
        field.kind.check (.object fields) = .ok predicate ∧ entry = field.filter predicate ∧
          (field.kind.operation predicate).Takes field.kind.form.read? fields ∧
            entry.toWire = .object [((field.key : Text), .object wire)] ∧
              (∃ keys ∈ (field.kind.operation predicate).sentKeys,
                Fields.names wire = keys.map Text.ofString) ∧
              EntityFilter.check field.entity entry.toWire = .ok entry := by
  refine ⟨?_, fun order all => field.kind.filterMap_variant? distinct all, ?_⟩
  · rw [← field.kind.exists_check_iff distinct]
    refine (exists_congr fun entry => field.check_eq_ok_iff rfl).trans ?_
    constructor
    · rintro ⟨entry, predicate, checked, -⟩
      exact ⟨predicate, checked⟩
    · rintro ⟨predicate, checked⟩
      exact ⟨_, predicate, checked, rfl⟩
  · intro entry accepted
    obtain ⟨predicate, checked, rfl⟩ := (field.check_eq_ok_iff rfl).mp accepted
    have taken := field.kind.takes_of_check distinct checked
    have object : field.kind.operation predicate ≠ .equals := by
      intro equals
      rw [equals] at taken
      cases taken
    obtain ⟨wire, written, keys⟩ := field.kind.names_toWire object
    have sent := field.toWire_filter predicate
    rw [written] at sent
    refine ⟨predicate, wire, checked, rfl, taken, sent, keys, ?_⟩
    rw [sent]
    refine (field.check_eq_ok_iff rfl).mpr ⟨predicate, ?_, rfl⟩
    rw [← written]
    exact field.kind.check_toWire predicate

/-- A range of years, with the start under its other name and behind the end, is sent with
plain keys in order. -/
theorem year_range_read_back :
    let fields : Fields Value := [("to", .int 2000), ("from_", .int 1990)]
    let entry : EntityFilter :=
      .mediaMetadata (.number .year (.range ⟨.int 1990, .int 2000, none⟩))
    fields.names.Nodup ∧
      EntityFilter.check .mediaMetadata (.object [("year", .object fields)]) = .ok entry ∧
        (∃ operation ∈ Operation.all, operation.Takes Number.read? fields) ∧
          entry.toWire = .object [("year", .object [("from", .int 1990), ("to", .int 2000)])] ∧
            EntityFilter.check .mediaMetadata entry.toWire = .ok entry := by
  intro fields entry
  have distinct : fields.names.Nodup := by decide
  have accepted :
      EntityFilter.check .mediaMetadata (.object [("year", .object fields)]) = .ok entry := rfl
  obtain ⟨accepted_iff, -, sound⟩ :=
    exact_and_unambiguous (.mediaMetadataNumber .year) distinct
  obtain ⟨_, _, -, -, -, -, -, again⟩ := sound entry accepted
  exact ⟨distinct, accepted, accepted_iff.mp ⟨entry, accepted⟩, rfl, again⟩

end PredicateField

end CatalogQuery
