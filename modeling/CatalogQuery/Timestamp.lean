import CatalogQuery.Text.Digits

/-!
# Timestamps

A timestamp is a calendar date and a time of day to the microsecond, with or
without an offset from universal time.  Only real dates are timestamps: the
ranges of all parts are part of the type.  `Timestamp.text` is the form in
which timestamps are sent, and `Timestamp.ofUnix?` finds the timestamp in
universal time of a number of seconds since the start of 1970.
-/

namespace CatalogQuery

/-- Whether a year has a 29th of February. -/
def isLeapYear (year : Nat) : Bool :=
  year % 4 == 0 && (year % 100 != 0 || year % 400 == 0)

/-- The number of days of a month. -/
def daysInMonth (year month : Nat) : Nat :=
  match month with
  | 2 => if isLeapYear year then 29 else 28
  | 4 | 6 | 9 | 11 => 30
  | _ => 31

/-- The ranges of the parts of a timestamp; an offset is below a whole day
either way. -/
def TimestampInRange (year month day hour minute second micro : Nat)
    (offset : Option Int) : Prop :=
  (1 ≤ year ∧ year ≤ 9999) ∧ (1 ≤ month ∧ month ≤ 12) ∧
    (1 ≤ day ∧ day ≤ daysInMonth year month) ∧
    hour < 24 ∧ minute < 60 ∧ second < 60 ∧ micro < 1000000 ∧
    ∀ zone ∈ offset, zone.natAbs < 1440

instance (year month day hour minute second micro : Nat) (offset : Option Int) :
    Decidable (TimestampInRange year month day hour minute second micro offset) := by
  unfold TimestampInRange; infer_instance

/-- A point in time on the calendar.  Without an offset it is a local time
whose place is not known. -/
structure Timestamp where
  year : Nat
  month : Nat
  day : Nat
  hour : Nat
  minute : Nat
  second : Nat
  micro : Nat
  /-- Minutes ahead of universal time. -/
  offset : Option Int
  inRange : TimestampInRange year month day hour minute second micro offset
deriving DecidableEq

namespace Timestamp

/-- The timestamp with the given parts, if they are in range. -/
def of? (year month day hour minute second micro : Nat) (offset : Option Int) :
    Option Timestamp :=
  if h : TimestampInRange year month day hour minute second micro offset then
    some ⟨year, month, day, hour, minute, second, micro, offset, h⟩
  else none

/-- An offset in digits: a sign, hours and minutes. -/
def zoneChars (zone : Int) : List Char :=
  (if zone < 0 then '-' else '+') ::
    Text.fixedDigits 2 (zone.natAbs / 60) ++ ':' :: Text.fixedDigits 2 (zone.natAbs % 60)

/-- The text of an offset: `Z` for universal time itself, digits otherwise, and
nothing for a local time. -/
def offsetChars : Option Int → List Char
  | none => []
  | some zone => if zone = 0 then ['Z'] else zoneChars zone

/-- Date and time of day, with a character between them: the microseconds are
left out if there are none. -/
def partChars (separator : Char) (t : Timestamp) : List Char :=
  Text.fixedDigits 4 t.year ++ '-' :: Text.fixedDigits 2 t.month ++
    '-' :: Text.fixedDigits 2 t.day ++ separator :: Text.fixedDigits 2 t.hour ++
    ':' :: Text.fixedDigits 2 t.minute ++ ':' :: Text.fixedDigits 2 t.second ++
    (if t.micro = 0 then [] else '.' :: Text.fixedDigits 6 t.micro)

/-- The characters of `Timestamp.text`. -/
def chars (t : Timestamp) : List Char := t.partChars 'T' ++ offsetChars t.offset

/-- The text of a timestamp: date, `T`, time of day, the microseconds if there
are any, and the offset. -/
def text (t : Timestamp) : String := String.ofList t.chars

/-- The number of days from the start of 1970 to a date. -/
def daysSinceEpoch (year month day : Nat) : Int :=
  let y : Int := if month ≤ 2 then (year : Int) - 1 else year
  let era := y / 400
  let yearOfEra := y - era * 400
  let shifted : Int := if 2 < month then (month : Int) - 3 else (month : Int) + 9
  let dayOfYear := (153 * shifted + 2) / 5 + day - 1
  let dayOfEra := yearOfEra * 365 + yearOfEra / 4 - yearOfEra / 100 + dayOfYear
  era * 146097 + dayOfEra - 719468

/-- The date that lies a number of days after the start of 1970. -/
def dateOfDays (days : Int) : Int × Int × Int :=
  let z := days + 719468
  let era := z / 146097
  let dayOfEra := z - era * 146097
  let yearOfEra :=
    (dayOfEra - dayOfEra / 1460 + dayOfEra / 36524 - dayOfEra / 146096) / 365
  let dayOfYear := dayOfEra - (365 * yearOfEra + yearOfEra / 4 - yearOfEra / 100)
  let shifted := (5 * dayOfYear + 2) / 153
  let day := dayOfYear - (153 * shifted + 2) / 5 + 1
  let month := if shifted < 10 then shifted + 3 else shifted - 9
  let year := yearOfEra + era * 400 + (if month ≤ 2 then 1 else 0)
  (year, month, day)

/-- The first second of the year 1. -/
def firstUnixSecond : Int := -62135596800

/-- The last second of the year 9999. -/
def lastUnixSecond : Int := 253402300799

/-- The timestamp in universal time that lies a number of seconds and
microseconds after the start of 1970. -/
def ofUnix? (seconds : Int) (micros : Nat) : Option Timestamp :=
  let seconds := seconds + (micros / 1000000 : Nat)
  if seconds < firstUnixSecond ∨ lastUnixSecond < seconds then none
  else
    let (year, month, day) := dateOfDays (seconds / 86400)
    let rest := (seconds % 86400).toNat
    of? year.toNat month.toNat day.toNat (rest / 3600) (rest / 60 % 60) (rest % 60)
      (micros % 1000000) (some 0)

/-- The microseconds from the start of 1970, were the offset zero. -/
def localMicros (t : Timestamp) : Int :=
  ((daysSinceEpoch t.year t.month t.day * 24 + t.hour) * 60 + t.minute) * 60000000 +
    t.second * 1000000 + t.micro

/-- Whether two timestamps are the same point in time; one with an offset is
never the same as one without. -/
def sameMoment (t u : Timestamp) : Bool :=
  match t.offset, u.offset with
  | none, none => t.localMicros == u.localMicros
  | some a, some b => t.localMicros - a * 60000000 == u.localMicros - b * 60000000
  | _, _ => false

end Timestamp
end CatalogQuery
