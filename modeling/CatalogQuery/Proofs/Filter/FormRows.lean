import CatalogQuery.Filter.Form
import CatalogQuery.Proofs.Filter.WireForm

/-!
# Query forms read back

A smart filter can always be shown as a form, and the form stands for that very
smart filter (`read_back_from_form`).  Of a row this takes three things: no rule of
rows is broken, what stands for the predicate is read as the predicate, and the path
of the source leads back to the field.
-/

namespace CatalogQuery

/-! ## Predicates as operations with operands -/

theorem Match.toValue_describe {α : Type} (f : α → Value) (predicate : Match α) :
    (predicate.describe f).1.toValue (predicate.describe f).2 = .ok (predicate.toValue f) := by
  cases predicate <;> rfl

theorem Match.isList_of_several {α : Type} {f : α → Value} {predicate : Match α}
    {operator : ListOperator} (several : (predicate.describe f).1 = .several operator) :
    (predicate.describe f).2.isList = true := by
  cases predicate with
  | equals value => cases several
  | single operator value => cases several
  | several operator values => rfl

theorem Match.isOrdered_describe {α : Type} (f : α → Value) (predicate : Match α) :
    (predicate.describe f).1.isOrdered = false := by
  cases predicate <;> rfl

theorem OrderedMatch.toValue_describe {α : Type} (f : α → Value) (predicate : OrderedMatch α) :
    (predicate.describe f).1.toValue (predicate.describe f).2 = .ok (predicate.toValue f) := by
  cases predicate with
  | plain predicate => exact predicate.toValue_describe f
  | bound operator value => rfl
  | range ends => rfl

theorem OrderedMatch.isList_of_several {α : Type} {f : α → Value} {predicate : OrderedMatch α}
    {operator : ListOperator} (several : (predicate.describe f).1 = .several operator) :
    (predicate.describe f).2.isList = true := by
  cases predicate with
  | plain predicate => exact Match.isList_of_several several
  | bound operator value => cases several
  | range ends => cases several

theorem EntityFilter.readFrom_toWire (filter : EntityFilter) : filter.ReadFrom filter.toWire := by
  cases filter with
  | media filter => exact filter.check_toWire
  | mediaMetadata filter => exact filter.check_toWire
  | series filter => exact filter.check_toWire
  | seriesMetadata filter => exact filter.check_toWire
  | library filter => exact filter.check_toWire

namespace FieldTest

/-- The value that an operation and its operand stand for is read as what they
describe. -/
theorem exists_readFrom_describe (test : FieldTest) :
    ∃ value, test.describe.1.toValue test.describe.2 = .ok value ∧ test.ReadFrom value := by
  cases test with
  | text predicate => exact ⟨_, predicate.toValue_describe .text, predicate.check_toWire⟩
  | number predicate =>
      exact ⟨_, predicate.toValue_describe Number.toValue, predicate.check_toWire⟩
  | moment predicate => exact ⟨_, predicate.toValue_describe .moment, predicate.check_toValue⟩
  | related filter => exact ⟨_, rfl, filter.readFrom_toWire⟩

theorem isList_of_several {test : FieldTest} {operator : ListOperator}
    (several : test.describe.1 = .several operator) : test.describe.2.isList = true := by
  cases test with
  | text predicate => exact Match.isList_of_several several
  | number predicate => exact OrderedMatch.isList_of_several several
  | moment predicate => exact OrderedMatch.isList_of_several several
  | related filter => cases several

end FieldTest

/-! ## Rows -/

/-- Only fields of numbers and timestamps are described by ordered operations, and none
of them has the name of a text field. -/
theorem EntityFilter.isOrdered_describe_test (filter : EntityFilter)
    (named : filter.test.1 ∈ textFieldNames) : filter.test.2.describe.1.isOrdered = false := by
  cases filter with
  | media filter =>
      cases filter with
      | text field predicate => exact predicate.isOrdered_describe _
      | metadata inner => rfl
      | series inner => rfl
  | mediaMetadata filter =>
      cases filter with
      | text field predicate => exact predicate.isOrdered_describe _
      | number field predicate =>
          have other : field.key ∉ textFieldNames := by cases field <;> decide
          exact absurd named other
  | series filter =>
      cases filter with
      | text field predicate => exact predicate.isOrdered_describe _
      | metadata inner => rfl
      | library inner => rfl
  | seriesMetadata filter =>
      cases filter with
      | text field predicate => exact predicate.isOrdered_describe _
      | number field predicate =>
          have other : field.key ∉ textFieldNames := by cases field <;> decide
          exact absurd named other
  | library filter =>
      cases filter with
      | text field predicate => exact predicate.isOrdered_describe _
      | updatedAt predicate =>
          have other : "updated_at" ∉ textFieldNames := by decide
          exact absurd named other

/-- A row is made of every description of a filter. -/
theorem FormFilter.make_describe_test (filter : EntityFilter) (source : Source) :
    make filter.test.1 filter.test.2.describe.1 source filter.test.2.describe.2 =
      .ok ⟨filter.test.1, filter.test.2.describe.1, source, filter.test.2.describe.2⟩ := by
  have allowed : ¬((filter.test.1 : Text).isAmong textFieldNames = true ∧
      filter.test.2.describe.1.isOrdered = true) := by
    rintro ⟨named, ordered⟩
    rw [Text.isAmong_ofString, decide_eq_true_eq] at named
    rw [filter.isOrdered_describe_test named] at ordered
    cases ordered
  unfold make
  rw [if_neg allowed]
  split
  · rename_i operator several
    rw [if_pos (FieldTest.isList_of_several several), several]
  · rfl

namespace MediaFilter

/-- What is read as the filter at the end of a path is, at the path's end, read as the
whole filter. -/
theorem check_nest_source (filter : MediaFilter) {value : Value}
    (read : filter.source.2.ReadFrom value) :
    check (Value.nest filter.source.1.path value) = .ok filter := by
  cases filter with
  | text field predicate => exact read
  | metadata inner => exact (EntityFilter.media (metadata inner)).readFrom_field read
  | series inner =>
      have outer {value : Value} (read : (EntityFilter.series inner).ReadFrom value) :
          check (.object [("series", value)]) = .ok (series inner) :=
        (EntityFilter.media (series inner)).readFrom_field read
      cases inner with
      | text field predicate => exact outer read
      | metadata leaf =>
          exact outer ((EntityFilter.series (.metadata leaf)).readFrom_field read)
      | library leaf => exact outer ((EntityFilter.series (.library leaf)).readFrom_field read)

theorem exists_toForm (filter : MediaFilter) :
    ∃ row, filter.toForm = .ok row ∧ row.toFilter = .ok filter := by
  obtain ⟨value, described, read⟩ := filter.source.2.test.2.exists_readFrom_describe
  have whole := filter.check_nest_source (filter.source.2.readFrom_field read)
  refine ⟨⟨filter.source.2.test.1, filter.source.2.test.2.describe.1, filter.source.1,
    filter.source.2.test.2.describe.2⟩, ?_, ?_⟩
  · simp only [toForm, FormFilter.make_describe_test, Checked.reported]
  · simp only [FormFilter.toFilter, described, bind, Except.bind, whole, Checked.reported]

end MediaFilter

/-! ## Groups -/

theorem Outcome.exists_mapM {α β : Type} {there : α → Outcome β} {back : β → Outcome α}
    (returns : ∀ x, ∃ y, there x = .ok y ∧ back y = .ok x) (xs : List α) :
    ∃ ys, xs.mapM there = .ok ys ∧ ys.mapM back = .ok xs := by
  induction xs with
  | nil => exact ⟨[], rfl, rfl⟩
  | cons first rest ih =>
      obtain ⟨y, forth, home⟩ := returns first
      obtain ⟨ys, forths, homes⟩ := ih
      refine ⟨y :: ys, ?_, ?_⟩
      · simp [forth, forths, bind, Except.bind, pure, Except.pure]
      · simp [home, homes, bind, Except.bind, pure, Except.pure]

theorem FilterGroup.exists_toForm (group : FilterGroup) :
    ∃ form, group.toForm = .ok form ∧ form.toGroup = .ok group := by
  obtain ⟨rows, flattened, nested⟩ := Outcome.exists_mapM MediaFilter.exists_toForm group.filters
  refine ⟨⟨group.joiner, rows⟩, ?_, ?_⟩
  · simp [toForm, flattened, bind, Except.bind]
  · simp [FormGroup.toGroup, nested, bind, Except.bind]

/-- Every smart filter can be shown as a form, and the form stands for it. -/
theorem SmartFilter.read_back_from_form (filter : SmartFilter) :
    ∃ form, filter.toForm = .ok form ∧ form.toFilter = .ok filter := by
  obtain ⟨groups, flattened, nested⟩ := Outcome.exists_mapM FilterGroup.exists_toForm filter.groups
  refine ⟨⟨groups, filter.joiner⟩, ?_, ?_⟩
  · simp [toForm, flattened, bind, Except.bind]
  · simp [FormConfig.toFilter, nested, bind, Except.bind]

end CatalogQuery
