import CatalogQuery.Text.Numeral

/-!
# Integers read back

A number that is written with the digits it needs is read back by `integer?`, unless
it has more digits than are read (`integer?_toString`).  Its digits are ASCII, so
there is nothing to trim, no sign to take and no underscore to drop.
-/

namespace CatalogQuery
namespace Text

theorem exists_lt_ten_of_isDigit {c : Char} (digit : c.isDigit = true) :
    ∃ d < 10, c = Char.ofNat (48 + d) := by
  have bounds : 48 ≤ c.toNat ∧ c.toNat ≤ 57 := by
    simpa [Char.isDigit, UInt32.le_iff_toNat_le] using digit
  refine ⟨c.toNat - 48, by omega, ?_⟩
  rw [Nat.add_sub_cancel' bounds.1, Char.ofNat_toNat]

/-- An ASCII digit stands for its distance to zero, and is neither a blank nor one of
the marks that a numeral may hold. -/
theorem digit_facts {c : Char} (digit : c.isDigit = true) :
    decimalValue? c = some (c.toNat - '0'.toNat) ∧ isWhiteSpace c = false ∧
      c ≠ '-' ∧ c ≠ '+' ∧ c ≠ '_' := by
  obtain ⟨d, small, rfl⟩ := exists_lt_ten_of_isDigit digit
  have each : ∀ d < 10, decimalValue? (Char.ofNat (48 + d)) =
        some ((Char.ofNat (48 + d)).toNat - '0'.toNat) ∧
      isWhiteSpace (Char.ofNat (48 + d)) = false ∧ Char.ofNat (48 + d) ≠ '-' ∧
        Char.ofNat (48 + d) ≠ '+' ∧ Char.ofNat (48 + d) ≠ '_' := by
    decide +kernel
  exact each d small

section Digits

variable {chars : List Char} (digits : ∀ c ∈ chars, c.isDigit = true)

include digits

theorem trim_of_digits : trim chars = chars := by
  have solid : ∀ c ∈ chars, isWhiteSpace c = false := fun c member =>
    (digit_facts (digits c member)).2.1
  have kept : ∀ {run : List Char}, (∀ c ∈ run, isWhiteSpace c = false) →
      run.dropWhile isWhiteSpace = run := by
    intro run solid
    cases run with
    | nil => rfl
    | cons c rest => simp [solid c (by simp)]
  rw [trim, kept solid, kept (by simpa using solid), List.reverse_reverse]

theorem takeSign_of_digits : takeSign chars = (false, chars) := by
  cases chars with
  | nil => rfl
  | cons c rest =>
      obtain ⟨_, _, minus, plus, _⟩ := digit_facts (digits c (by simp))
      unfold takeSign
      split
      · rename_i same
        exact absurd (List.cons.inj same).1 minus
      · rename_i same
        exact absurd (List.cons.inj same).1 plus
      · rfl

theorem withoutUnderscores?_of_digits : withoutUnderscores? chars = some chars := by
  induction chars with
  | nil => rfl
  | cons c rest ih =>
      have later : ∀ c ∈ rest, c.isDigit = true := fun c member => digits c (by simp [member])
      have known := ih later
      have first := (digit_facts (digits c (by simp))).2.2.2.2
      cases rest with
      | nil => simp [withoutUnderscores?]
      | cons next rest =>
          have second := (digit_facts (later next (by simp))).2.2.2.2
          simp [withoutUnderscores?, second, known]

theorem decimalValues?_of_digits :
    decimalValues? chars = some (chars.map fun c => c.toNat - '0'.toNat) := by
  unfold decimalValues?
  induction chars with
  | nil => rfl
  | cons c rest ih =>
      have later : ∀ c ∈ rest, c.isDigit = true := fun c member => digits c (by simp [member])
      simp [(digit_facts (digits c (by simp))).1, ih later]

end Digits

/-- A number has no more digits than are read from a text. -/
def Legible (n : Nat) : Prop := (Nat.toDigits 10 n).length ≤ numeralDigitLimit

instance (n : Nat) : Decidable (Legible n) :=
  inferInstanceAs (Decidable ((Nat.toDigits 10 n).length ≤ numeralDigitLimit))

/-- The numeral of a number is read as that number. -/
theorem integer?_toString {n : Nat} (legible : Legible n) :
    integer? (toString n) = some (n : Int) := by
  have digits : ∀ c ∈ Nat.toDigits 10 n, c.isDigit = true := fun c member =>
    Nat.isDigit_of_mem_toDigits (by decide) (by decide) member
  have value : (Nat.toDigits 10 n).foldl (fun m c => 10 * m + (c.toNat - '0'.toNat)) 0 = n :=
    Nat.ofDigitChars_ten_toDigits
  rw [integer?, Nat.toString_eq_ofList_toDigits, String.toList_ofList, trim_of_digits digits,
    takeSign_of_digits digits]
  simp only [withoutUnderscores?_of_digits digits, decimalValues?_of_digits digits,
    Option.bind_eq_bind, Option.bind_some, List.isEmpty_iff, List.map_eq_nil_iff,
    Nat.toDigits_ne_nil, List.length_map, List.foldl_map, value]
  rw [if_neg (by simpa using Nat.not_lt.mpr legible)]
  rfl

end Text
end CatalogQuery
