import CatalogQuery.Proofs.Text.Digits
import CatalogQuery.Timestamp.Reader
import CatalogQuery.Value.Display

/-!
# Timestamps read back

Either text of a timestamp is read as that very timestamp (`ofText?_text`,
`ofText?_display`): date, time of day and offset come back, and a local time stays one.
The parts are read in the order in which they are written, each with what follows it.
-/

namespace CatalogQuery
namespace Timestamp

open Text

/-- A text of an offset: it is read as the offset, and starts with no digit and with no
mark of a fraction. -/
structure SpellsOffset (offset : Option Int) (chars : List Char) : Prop where
  reads : readOffset? chars = some offset
  starts : chars = [] ∨ ∃ sign rest, chars = sign :: rest ∧ (sign = 'Z' ∨ sign = '-' ∨ sign = '+')

theorem spellsOffset_zoneChars {zone : Int} (inRange : zone.natAbs < 1440) :
    SpellsOffset (some zone) (zoneChars zone) := by
  have hours := takeFixed?_fixedDigits 2 (n := zone.natAbs / 60) (by omega)
  have minutes := takeFixed?_fixedDigits 2 (n := zone.natAbs % 60) (by omega) []
  rw [List.append_nil] at minutes
  have read : readOffsetSize? (fixedDigits 2 (zone.natAbs / 60) ++ ':' ::
      fixedDigits 2 (zone.natAbs % 60)) = some zone.natAbs := by
    simp only [readOffsetSize?, hours, minutes, Option.bind_eq_bind, Option.bind_some]
    simp
    omega
  by_cases behind : zone < 0
  · have size_eq : (zone.natAbs : Int) = -zone := by omega
    refine ⟨?_, Or.inr ⟨'-', _, by rw [zoneChars, if_pos behind]; rfl, by simp⟩⟩
    simp only [zoneChars, if_pos behind, List.cons_append, readOffset?, read]
    change some (some (-(zone.natAbs : Int))) = some (some zone)
    rw [size_eq, Int.neg_neg]
  · have size_eq : (zone.natAbs : Int) = zone := by omega
    refine ⟨?_, Or.inr ⟨'+', _, by rw [zoneChars, if_neg behind]; rfl, by simp⟩⟩
    simp only [zoneChars, if_neg behind, List.cons_append, readOffset?, read]
    change some (some (zone.natAbs : Int)) = some (some zone)
    rw [size_eq]

theorem spellsOffset_nil : SpellsOffset none [] := ⟨rfl, Or.inl rfl⟩

theorem spellsOffset_offsetChars {offset : Option Int}
    (inRange : ∀ zone ∈ offset, zone.natAbs < 1440) :
    SpellsOffset offset (offsetChars offset) := by
  cases offset with
  | none => exact spellsOffset_nil
  | some zone =>
      by_cases zero : zone = 0
      · subst zero
        exact ⟨rfl, Or.inr ⟨'Z', [], rfl, Or.inl rfl⟩⟩
      · rw [offsetChars, if_neg zero]
        exact spellsOffset_zoneChars (inRange zone rfl)

theorem microsOfDigits_fixedDigits {micro : Nat} (fits : micro < 1000000) :
    microsOfDigits (fixedDigits 6 micro) = micro := by
  have kept : (fixedDigits 6 micro).take 6 = fixedDigits 6 micro :=
    List.take_of_length_le (by simp)
  simp only [microsOfDigits, kept, length_fixedDigits, ofDigits_fixedDigits]
  simp
  omega

/-- The fraction is read up to the offset, which is left. -/
theorem readFraction?_append {micro : Nat} (fits : micro < 1000000) {offset : Option Int}
    {zone : List Char} (spells : SpellsOffset offset zone) :
    readFraction? ((if micro = 0 then [] else '.' :: fixedDigits 6 micro) ++ zone) =
      some (micro, zone) := by
  have starts := spells.starts
  by_cases whole : micro = 0
  · subst whole
    rcases starts with empty | ⟨sign, rest, signed, rfl | rfl | rfl⟩
    · simp [empty, readFraction?]
    all_goals simp [signed, readFraction?]
  · have digits : ∀ c ∈ fixedDigits 6 micro, isDigit c = true :=
      fun c member => isDigit_of_mem_fixedDigits member
    have ends : zone.takeWhile isDigit = [] ∧ zone.dropWhile isDigit = zone := by
      rcases starts with empty | ⟨sign, rest, signed, sign_eq⟩
      · simp [empty]
      · rw [signed]
        rcases sign_eq with rfl | rfl | rfl <;> exact ⟨rfl, rfl⟩
    have fraction : (fixedDigits 6 micro ++ zone).takeWhile isDigit = fixedDigits 6 micro := by
      rw [List.takeWhile_append_of_pos digits, ends.1, List.append_nil]
    have rest : (fixedDigits 6 micro ++ zone).dropWhile isDigit = zone := by
      rw [List.dropWhile_append_of_pos digits, ends.2]
    have present : (fixedDigits 6 micro).isEmpty = false := by simp [fixedDigits]
    simp [whole, readFraction?, fraction, rest, present, microsOfDigits_fixedDigits fits]

theorem readTime?_append (t : Timestamp) {zone : List Char} (spells : SpellsOffset t.offset zone) :
    readTime? (fixedDigits 2 t.hour ++ ':' :: fixedDigits 2 t.minute ++
        ':' :: fixedDigits 2 t.second ++
        (if t.micro = 0 then [] else '.' :: fixedDigits 6 t.micro) ++ zone) =
      some ⟨t.hour, t.minute, t.second, t.micro, t.offset⟩ := by
  obtain ⟨_, _, _, hour, minute, second, micro, _⟩ := t.inRange
  have hour_read := takeFixed?_fixedDigits 2 (n := t.hour) (by omega)
  have minute_read := takeFixed?_fixedDigits 2 (n := t.minute) (by omega)
  have second_read := takeFixed?_fixedDigits 2 (n := t.second) (by omega)
  simp only [readTime?, List.append_assoc, List.cons_append, hour_read, minute_read, second_read,
    readFraction?_append micro spells, spells.reads, Option.bind_eq_bind, Option.bind_some]

theorem daysInMonth_le (year month : Nat) : daysInMonth year month ≤ 31 := by
  unfold daysInMonth
  split
  · split <;> decide
  all_goals decide

/-- Date and time of day are read with a `T` or a space between them. -/
theorem ofCalendar?_append (t : Timestamp) {separator : Char} {zone : List Char}
    (separates : separator = 'T' ∨ separator = ' ') (spells : SpellsOffset t.offset zone) :
    ofCalendar? (t.partChars separator ++ zone) = some t := by
  obtain ⟨year, month, day, _⟩ := t.inRange
  have days := daysInMonth_le t.year t.month
  have year_read := takeFixed?_fixedDigits 4 (n := t.year) (by omega)
  have month_read := takeFixed?_fixedDigits 2 (n := t.month) (by omega)
  have day_read := takeFixed?_fixedDigits 2 (n := t.day) (by omega)
  have time_read := readTime?_append t spells
  simp only [List.append_assoc, List.cons_append] at time_read
  have whole : of? t.year t.month t.day t.hour t.minute t.second t.micro t.offset = some t :=
    dif_pos t.inRange
  have known : separator = 'T' ∨ separator = 't' ∨ separator = ' ' ∨ separator = '_' := by
    rcases separates with rfl | rfl <;> decide
  simp only [ofCalendar?, partChars, List.append_assoc, List.cons_append, year_read, month_read,
    day_read, time_read, Option.bind_eq_bind, Option.bind_some, if_pos known, whole]

theorem ofText?_of_ofCalendar? {chars : List Char} {t : Timestamp}
    (read : ofCalendar? chars = some t) : ofText? (String.ofList chars) = some t := by
  simp [ofText?, read]

theorem ofText?_text (t : Timestamp) : ofText? t.text = some t := by
  obtain ⟨_, _, _, _, _, _, _, zone⟩ := t.inRange
  exact ofText?_of_ofCalendar? (ofCalendar?_append t (Or.inl rfl) (spellsOffset_offsetChars zone))

theorem ofText?_display (t : Timestamp) : ofText? t.display = some t := by
  obtain ⟨_, _, _, _, _, _, _, inRange⟩ := t.inRange
  refine ofText?_of_ofCalendar? (ofCalendar?_append t (Or.inr rfl) ?_)
  cases offset : t.offset with
  | none => exact spellsOffset_nil
  | some zone => exact spellsOffset_zoneChars (inRange zone offset)

end Timestamp
end CatalogQuery
