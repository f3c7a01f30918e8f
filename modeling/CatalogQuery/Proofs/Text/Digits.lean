import CatalogQuery.Text.Digits
import Mathlib.Algebra.Group.Nat.Defs

/-!
# Digits read back

A number written with a fixed number of digits is read back, whatever follows it,
if it fits (`takeFixed?_fixedDigits`).
-/

namespace CatalogQuery
namespace Text

theorem digitValue?_digitChar (n : Nat) : digitValue? (digitChar n) = some (n % 10) := by
  have each : ∀ d < 10, digitValue? (Char.ofNat (48 + d)) = some d := by decide
  exact each (n % 10) (Nat.mod_lt n (by decide))

theorem isDigit_digitChar (n : Nat) : isDigit (digitChar n) = true := by
  simp [isDigit, digitValue?_digitChar]

@[simp]
theorem length_fixedDigits (width n : Nat) : (fixedDigits width n).length = width := by
  induction width generalizing n with
  | zero => rfl
  | succ width ih => simp [fixedDigits, ih]

theorem isDigit_of_mem_fixedDigits {width n : Nat} {c : Char}
    (member : c ∈ fixedDigits width n) : isDigit c = true := by
  induction width generalizing n with
  | zero => cases member
  | succ width ih =>
      rcases List.mem_append.mp member with earlier | last
      · exact ih earlier
      · rw [List.mem_singleton.mp last]
        exact isDigit_digitChar n

theorem ofDigits_fixedDigits (width n : Nat) :
    ofDigits (fixedDigits width n) = n % 10 ^ width := by
  induction width generalizing n with
  | zero => simp [fixedDigits, ofDigits, foldDigits, Nat.mod_one]
  | succ width ih =>
      have last : ofDigits (fixedDigits (width + 1) n) =
          10 * ofDigits (fixedDigits width (n / 10)) + n % 10 := by
        simp [ofDigits, foldDigits, fixedDigits, List.foldl_append, digitValue?_digitChar]
      rw [last, ih, Nat.pow_succ, Nat.mul_comm (10 ^ width), Nat.mod_mul]
      omega

theorem takeFixed?_fixedDigits (width : Nat) {n : Nat} (fits : n < 10 ^ width)
    (rest : List Char) :
    takeFixed? width (fixedDigits width n ++ rest) = some (n, rest) := by
  have kept : (fixedDigits width n ++ rest).take width = fixedDigits width n :=
    List.take_left' (length_fixedDigits width n)
  have left : (fixedDigits width n ++ rest).drop width = rest :=
    List.drop_left' (length_fixedDigits width n)
  have digits : (fixedDigits width n).all isDigit = true :=
    List.all_eq_true.mpr fun c member => isDigit_of_mem_fixedDigits member
  simp only [takeFixed?, kept, left]
  rw [if_pos ⟨length_fixedDigits width n, digits⟩, ofDigits_fixedDigits, Nat.mod_eq_of_lt fits]

end Text
end CatalogQuery
