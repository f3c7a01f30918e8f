import CatalogQuery.Filter.Reader
import CatalogQuery.Proofs.Predicate.Reading

/-!
# Entity filters read back

An object with one field is read as the filter on that field, if the reader of the
field accepts what stands there (`readFrom_field`).  What may stand there is left
open: a related filter, or a predicate in whatever form it is read from.
-/

namespace CatalogQuery

@[simp]
theorem Text.isAmong_ofString (strings : List String) (string : String) :
    (Text.ofString string).isAmong strings = decide (string ∈ strings) := by
  rw [Bool.eq_iff_iff]
  simp [Text.isAmong]

/-- A value that is read as a filter. -/
def EntityFilter.ReadFrom (value : Value) : EntityFilter → Prop
  | media filter => MediaFilter.check value = .ok filter
  | mediaMetadata filter => MediaMetadataFilter.check value = .ok filter
  | series filter => SeriesFilter.check value = .ok filter
  | seriesMetadata filter => SeriesMetadataFilter.check value = .ok filter
  | library filter => LibraryFilter.check value = .ok filter

/-- A value that is read as what a filter says about its field. -/
def FieldTest.ReadFrom (value : Value) : FieldTest → Prop
  | text predicate => TextPredicate.check value = .ok predicate
  | number predicate => NumberPredicate.check value = .ok predicate
  | moment predicate => MomentPredicate.check value = .ok predicate
  | related filter => filter.ReadFrom value

theorem FieldTest.ReadFrom.isNull_eq_false {test : FieldTest} {value : Value}
    (read : test.ReadFrom value) : value.isNull = false := by
  cases value with
  | null =>
      cases test with
      | text predicate => cases read
      | number predicate => cases read
      | moment predicate => cases read
      | related filter => cases filter <;> cases read
  | _ => rfl

namespace FieldReader

variable {α : Type} {readers : List (FieldReader α)} {name : String} {value : Value}

theorem checks_of_absent (absent : name ∉ readers.map (·.name)) :
    checks readers [((name : Text), value)] = [] := by
  induction readers with
  | nil => rfl
  | cons first rest ih =>
      simp only [List.map_cons, List.mem_cons, not_or] at absent
      have unset : Fields.get? (first.name : Text) [((name : Text), value)] = none := by
        simp [Fields.get?, absent.1]
      simp only [checks, List.filterMap_cons, unset]
      exact ih absent.2

/-- Of all readers only the one of the field finds it. -/
theorem checks_of_mem (distinct : (readers.map (·.name)).Nodup) {reader : FieldReader α}
    (member : reader ∈ readers) (present : value.isNull = false) :
    checks readers [((reader.name : Text), value)] =
      [(reader.name, Checked.inField reader.name (reader.check value))] := by
  induction readers with
  | nil => cases member
  | cons first rest ih =>
      simp only [List.map_cons, List.nodup_cons] at distinct
      rcases List.mem_cons.mp member with rfl | later
      · have found : Fields.get? (reader.name : Text) [((reader.name : Text), value)] =
            some value := by
          simp [Fields.get?]
        simp only [checks, List.filterMap_cons, found, present, Bool.false_eq_true, if_false]
        exact congrArg _ (checks_of_absent distinct.1)
      · have other : reader.name ≠ first.name := fun same =>
          distinct.1 (same ▸ List.mem_map_of_mem later)
        have unset : Fields.get? (first.name : Text) [((reader.name : Text), value)] = none := by
          simp [Fields.get?, other]
        simp only [checks, List.filterMap_cons, unset]
        exact ih distinct.2 later

theorem only_of_mem (model : String) (distinct : (readers.map (·.name)).Nodup)
    {reader : FieldReader α} (member : reader ∈ readers) (present : value.isNull = false)
    {filter : α} (checked : reader.check value = .ok filter) :
    only model readers (.object [((reader.name : Text), value)]) = .ok filter := by
  have known : (reader.name : Text).isAmong (readers.map (·.name)) = true := by
    rw [Text.isAmong_ofString]
    exact decide_eq_true (List.mem_map_of_mem member)
  simp [only, Value.fields?, Value.keys, Checked.closed, Checked.isBrokenKey,
    Checked.strayIssue?, known, Checked.withIssues, checks_of_mem distinct member present,
    checked, joined, Checked.inField, Checked.under, Checked.both, Except.map, bind, Except.bind]

/-- Readers that have one for the field of a filter. -/
inductive Know (readers : List (FieldReader α)) : String × FieldTest → α → Prop where
  | text {name : String} {wrap : TextPredicate → α} (member : FieldReader.text name wrap ∈ readers)
      (predicate : TextPredicate) : Know readers (name, .text predicate) (wrap predicate)
  | number {name : String} {wrap : NumberPredicate → α}
      (member : FieldReader.number name wrap ∈ readers) (predicate : NumberPredicate) :
      Know readers (name, .number predicate) (wrap predicate)
  | moment {name : String} {wrap : MomentPredicate → α}
      (member : FieldReader.moment name wrap ∈ readers) (predicate : MomentPredicate) :
      Know readers (name, .moment predicate) (wrap predicate)
  | related {β : Type} {name : String} {check : Value → Checked β} {wrap : β → α}
      (member : FieldReader.related name check wrap ∈ readers) {filter : EntityFilter} {inner : β}
      (reads : ∀ value, filter.ReadFrom value → check value = .ok inner) :
      Know readers (name, .related filter) (wrap inner)

theorem Know.only_eq {test : String × FieldTest} {filter : α} (known : Know readers test filter)
    (model : String) (distinct : (readers.map (·.name)).Nodup) (read : test.2.ReadFrom value) :
    only model readers (.object [((test.1 : Text), value)]) = .ok filter := by
  have present := read.isNull_eq_false
  cases known with
  | text member predicate =>
      exact only_of_mem model distinct member present (congrArg (Except.map _) read)
  | number member predicate =>
      exact only_of_mem model distinct member present (congrArg (Except.map _) read)
  | moment member predicate =>
      exact only_of_mem model distinct member present (congrArg (Except.map _) read)
  | related member reads =>
      exact only_of_mem model distinct member present (congrArg (Except.map _) (reads value read))

end FieldReader

theorem LibraryFilter.know_test (filter : LibraryFilter) :
    FieldReader.Know readers (EntityFilter.library filter).test filter := by
  cases filter with
  | text field predicate => exact .text (by cases field <;> simp [readers]) predicate
  | updatedAt predicate => exact .moment (by simp [readers]) predicate

theorem SeriesMetadataFilter.know_test (filter : SeriesMetadataFilter) :
    FieldReader.Know readers (EntityFilter.seriesMetadata filter).test filter := by
  cases filter with
  | text field predicate => exact .text (by cases field <;> simp [readers]) predicate
  | number field predicate => exact .number (by cases field <;> simp [readers]) predicate

theorem SeriesFilter.know_test (filter : SeriesFilter) :
    FieldReader.Know readers (EntityFilter.series filter).test filter := by
  cases filter with
  | text field predicate => exact .text (by cases field <;> simp [readers]) predicate
  | metadata inner => exact .related (by simp [readers]) fun _ read => read
  | library inner => exact .related (by simp [readers]) fun _ read => read

theorem MediaMetadataFilter.know_test (filter : MediaMetadataFilter) :
    FieldReader.Know readers (EntityFilter.mediaMetadata filter).test filter := by
  cases filter with
  | text field predicate => exact .text (by cases field <;> simp [readers]) predicate
  | number field predicate => exact .number (by cases field <;> simp [readers]) predicate

theorem MediaFilter.know_test (filter : MediaFilter) :
    FieldReader.Know readers (EntityFilter.media filter).test filter := by
  cases filter with
  | text field predicate => exact .text (by cases field <;> simp [readers]) predicate
  | metadata inner => exact .related (by simp [readers]) fun _ read => read
  | series inner => exact .related (by simp [readers]) fun _ read => read

/-- An object with the field of a filter is read as that filter. -/
theorem EntityFilter.readFrom_field (filter : EntityFilter) {value : Value}
    (read : filter.test.2.ReadFrom value) :
    filter.ReadFrom (.object [((filter.test.1 : Text), value)]) := by
  cases filter with
  | media filter => exact filter.know_test.only_eq _ (by decide) read
  | mediaMetadata filter => exact filter.know_test.only_eq _ (by decide) read
  | series filter => exact filter.know_test.only_eq _ (by decide) read
  | seriesMetadata filter => exact filter.know_test.only_eq _ (by decide) read
  | library filter => exact filter.know_test.only_eq _ (by decide) read

end CatalogQuery
