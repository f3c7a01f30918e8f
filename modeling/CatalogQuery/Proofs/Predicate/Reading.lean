import CatalogQuery.Predicate.Reader
import CatalogQuery.Proofs.Timestamp.Text

/-!
# Predicates read back

A predicate is read back from the value that stands for it, whichever way its
operands are written, as long as reading undoes that way (`OperandForm`).  The
variants cannot be taken for each other: the keys of the operators differ, an
operand is never written as an object, and only a range has more than one key.
-/

namespace CatalogQuery

/-- A way to write the operands of predicates that reading undoes.  Objects are left
to the operators. -/
structure OperandForm (α : Type) where
  write : α → Value
  read? : Value → Option α
  read?_write : ∀ x, read? (write x) = some x
  read?_object : ∀ fields, read? (.object fields) = none

namespace OperandForm

/-- Texts as they are. -/
def text : OperandForm Text where
  write := .text
  read? := readText?
  read?_write _ := rfl
  read?_object _ := rfl

/-- Numbers as they are. -/
def number : OperandForm Number where
  write := Number.toValue
  read? := Number.read?
  read?_write x := by cases x <;> rfl
  read?_object _ := rfl

/-- Timestamps as they are. -/
def moment : OperandForm Timestamp where
  write := .moment
  read? := Checked.moment?
  read?_write _ := rfl
  read?_object _ := rfl

/-- Timestamps as texts. -/
def momentText : OperandForm Timestamp where
  write t := .text t.text
  read? := Checked.moment?
  read?_write t := by simp [Checked.moment?, Timestamp.ofText?_text]
  read?_object _ := rfl

end OperandForm

@[simp]
theorem Text.meaning?_ofString {α : Type} (meanings : List (String × α)) (string : String) :
    (Text.ofString string).meaning? meanings = meanings.lookup string := by
  simp [Text.meaning?]

/-- What a text means is listed under it. -/
theorem Text.mem_of_meaning? {α : Type} {meanings : List (String × α)} {text : Text} {meaning : α}
    (meant : text.meaning? meanings = some meaning) :
    ∃ string, text = Text.ofString string ∧ (string, meaning) ∈ meanings := by
  obtain ⟨string, read, found⟩ := Option.bind_eq_some_iff.mp meant
  obtain ⟨before, after, listed, -⟩ := List.lookup_eq_some_iff.mp found
  exact ⟨string, Text.eq_ofString_of_string? read, by simp [listed]⟩

theorem SingleOperator.lookup_key (operator : SingleOperator) :
    keyed.lookup operator.key = some operator := by
  cases operator <;> rfl

theorem ListOperator.lookup_key (operator : ListOperator) :
    keyed.lookup operator.key = some operator ∧
      SingleOperator.keyed.lookup operator.key = Option.none := by
  cases operator <;> exact ⟨rfl, rfl⟩

theorem BoundOperator.lookup_key (operator : BoundOperator) :
    keyed.lookup operator.key = some operator ∧
      SingleOperator.keyed.lookup operator.key = none ∧
        ListOperator.keyed.lookup operator.key = none := by
  cases operator <;> exact ⟨rfl, rfl, rfl⟩

variable {α : Type} (form : OperandForm α)

theorem readOperands?_map (values : List α) :
    readOperands? form.read? (.list (values.map form.write)) = some values := by
  simp only [readOperands?]
  induction values with
  | nil => rfl
  | cons first rest ih => simp [form.read?_write, ih]

theorem Match.read?_toValue (predicate : Match α) :
    read? form.read? (predicate.toValue form.write) = some predicate := by
  cases predicate with
  | equals value => simp [toValue, read?, form.read?_write]
  | single operator value =>
      simp [toValue, read?, form.read?_object, operator.lookup_key, form.read?_write]
  | several operator values =>
      simp [toValue, read?, form.read?_object, operator.lookup_key, readOperands?_map form]

/-- A range is an object with two or three entries, which no operator is. -/
theorem Range.read?_toValue (range : Range α) :
    OrderedMatch.read? form.read? (range.map form.write).toValue = some (.range range) := by
  obtain ⟨start, stop, inclusive⟩ := range
  cases inclusive with
  | none =>
      simp [toValue, Range.map, OrderedMatch.read?, Match.read?, form.read?_object, read?,
        readWith?, keys, Fields.has, Fields.get?, Fields.names, form.read?_write]
  | some inclusive =>
      simp [toValue, Range.map, OrderedMatch.read?, Match.read?, form.read?_object, read?,
        readWith?, keys, Fields.has, Fields.get?, Fields.set, Fields.names, form.read?_write,
        readInclusive?, Checked.optional, Checked.truth, Except.map, Except.toOption]

theorem OrderedMatch.read?_toValue (predicate : OrderedMatch α) :
    read? form.read? (predicate.toValue form.write) = some predicate := by
  cases predicate with
  | plain predicate => simp [toValue, read?, Match.read?_toValue form]
  | bound operator value =>
      have unmatched :
          Match.read? form.read? (.object [(operator.key, form.write value)]) = none := by
        simp [Match.read?, form.read?_object, operator.lookup_key]
      simp [toValue, read?, unmatched, operator.lookup_key, form.read?_write]
  | range ends => exact Range.read?_toValue form ends

theorem TextPredicate.check_eq_ok {value : Value} {predicate : TextPredicate} :
    check value = .ok predicate ↔ Match.read? readText? value = some predicate := by
  unfold check
  split <;> simp_all [Checked.fail]

theorem NumberPredicate.check_eq_ok {value : Value} {predicate : NumberPredicate} :
    check value = .ok predicate ↔ OrderedMatch.read? Number.read? value = some predicate := by
  unfold check
  split <;> simp_all [Checked.fail]

theorem MomentPredicate.check_eq_ok {value : Value} {predicate : MomentPredicate} :
    check value = .ok predicate ↔ OrderedMatch.read? Checked.moment? value = some predicate := by
  unfold check
  split <;> simp_all [Checked.fail]

theorem TextPredicate.check_toWire (predicate : TextPredicate) :
    check predicate.toWire = .ok predicate :=
  check_eq_ok.mpr (Match.read?_toValue .text predicate)

theorem NumberPredicate.check_toWire (predicate : NumberPredicate) :
    check predicate.toWire = .ok predicate :=
  check_eq_ok.mpr (OrderedMatch.read?_toValue .number predicate)

theorem MomentPredicate.check_toWire (predicate : MomentPredicate) :
    check predicate.toWire = .ok predicate :=
  check_eq_ok.mpr (OrderedMatch.read?_toValue .momentText predicate)

/-- A predicate on timestamps is read back also if its timestamps are not texts yet. -/
theorem MomentPredicate.check_toValue (predicate : MomentPredicate) :
    check (predicate.toValue .moment) = .ok predicate :=
  check_eq_ok.mpr (OrderedMatch.read?_toValue .moment predicate)

end CatalogQuery
