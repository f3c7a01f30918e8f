import CatalogQuery.Failure
import CatalogQuery.Validation.Scalar

/-!
# Checks that pass

A check of a whole passes only if the checks of its parts pass, and gives what they
give.  If only known fields may be there, no other one is.
-/

namespace CatalogQuery

/-- What is made of a result succeeds if the result is there. -/
theorem Outcome.map_eq_ok {ε α β : Type} {f : α → β} {made : Except ε α} {result : β} :
    made.map f = .ok result ↔ ∃ a, made = .ok a ∧ f a = result := by
  cases made <;> simp [Except.map]

namespace Checked

variable {α β : Type}

theorem of_closed {known : List String} {keys : List Value} {check : Checked α} {result : α}
    (passed : closed known keys check = .ok result) : check = .ok result := by
  unfold closed withIssues fail at passed
  split at passed
  · cases passed
  · split at passed
    · exact passed
    · split at passed <;> cases passed

theorem strayIssue?_of_closed {known : List String} {keys : List Value} {check : Checked α}
    {result : α} (passed : closed known keys check = .ok result) :
    ∀ key ∈ keys, strayIssue? known key = none := by
  unfold closed withIssues fail at passed
  split at passed
  · cases passed
  · split at passed
    · next silent => exact List.filterMap_eq_nil_iff.mp (List.isEmpty_iff.mp silent)
    · split at passed <;> cases passed

theorem both_eq_ok {first : Checked α} {second : Checked β} {a : α} {b : β} :
    first.both second = .ok (a, b) ↔ first = .ok a ∧ second = .ok b := by
  cases first <;> cases second <;> simp [both]

theorem fieldOr_of_absent {name : String} {fields : Fields Value}
    (absent : Fields.has name fields = false) (default : α) (check : Value → Checked α) :
    fieldOr name default check fields = .ok default := by
  unfold Fields.has at absent
  unfold fieldOr
  split
  · rename_i value there
    simp [there] at absent
  · rfl

theorem inField_eq_ok {name : String} {check : Checked α} {result : α} :
    inField name check = .ok result ↔ check = .ok result := by
  cases check <;> simp [inField, under]

theorem reported_eq_ok {title : String} {check : Checked α} {result : α} :
    check.reported title = .ok result ↔ check = .ok result := by
  cases check <;> simp [reported]

end Checked
end CatalogQuery
