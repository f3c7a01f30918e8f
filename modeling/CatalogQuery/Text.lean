/-!
# Texts

A text is a sequence of code points.  Besides characters a document can name
halves of surrogate pairs that stand alone, so a code point is either.  A text
without halves is a string, and every string is a text.
-/

namespace CatalogQuery

/-- A code point: a character, or a half of a surrogate pair that stands
alone, by its place among all halves. -/
inductive CodePoint where
  | char (c : Char)
  | half (place : Fin 2048)
deriving DecidableEq, Repr

namespace CodePoint

/-- The number of the first half of a surrogate pair. -/
def firstHalf : Nat := 0xD800

/-- The number of a code point. -/
def toNat : CodePoint → Nat
  | char c => c.toNat
  | half place => firstHalf + place.val

/-- The code point with a number below `0x110000`. -/
def ofNat (number : Nat) : CodePoint :=
  if among : firstHalf ≤ number ∧ number < firstHalf + 2048 then
    half ⟨number - firstHalf, by omega⟩
  else char (Char.ofNat number)

/-- The character that a code point is. -/
def char? : CodePoint → Option Char
  | char c => some c
  | half _ => none

end CodePoint

/-- A sequence of code points. -/
structure Text where
  points : List CodePoint
deriving DecidableEq, Repr, Inhabited

namespace Text

/-- The text of characters. -/
def ofChars (chars : List Char) : Text := ⟨chars.map .char⟩

/-- The text that a string is. -/
def ofString (string : String) : Text := ofChars string.toList

instance : Coe String Text := ⟨ofString⟩

/-- The characters of a text without halves. -/
def chars? (text : Text) : Option (List Char) := text.points.mapM CodePoint.char?

/-- The string that a text without halves is. -/
def string? (text : Text) : Option String := text.chars?.map String.ofList

/-- Whether a text has no code points. -/
def isEmpty (text : Text) : Bool := text.points.isEmpty

instance : Append Text := ⟨fun first second => ⟨first.points ++ second.points⟩⟩

/-- The texts with a separator between each two of them. -/
def join (separator : Text) (texts : List Text) : Text :=
  ⟨separator.points.intercalate (texts.map (·.points))⟩

/-- Whether a text comes before another one in the order of code points. -/
def isBelow (first second : Text) : Bool :=
  decide (first.points.map CodePoint.toNat < second.points.map CodePoint.toNat)

/-- Whether a text is one of some strings. -/
def isAmong (strings : List String) (text : Text) : Bool :=
  strings.any fun string => ofString string == text

/-- What a text stands for among strings with their meanings. -/
def meaning? {α : Type} (meanings : List (String × α)) (text : Text) : Option α :=
  text.string?.bind fun string => meanings.lookup string

theorem chars?_ofChars (chars : List Char) : (ofChars chars).chars? = some chars := by
  induction chars with
  | nil => rfl
  | cons c rest ih =>
      simp only [ofChars, chars?, List.map_cons, List.mapM_cons, CodePoint.char?] at ih ⊢
      simp [ih]

@[simp]
theorem string?_ofString (string : String) : (ofString string).string? = some string := by
  simp [string?, ofString, chars?_ofChars]

theorem eq_ofChars_of_chars? {text : Text} {chars : List Char}
    (read : text.chars? = some chars) : text = ofChars chars := by
  obtain ⟨points⟩ := text
  induction points generalizing chars with
  | nil =>
      obtain rfl := Option.some.inj read
      rfl
  | cons point rest ih =>
      cases point with
      | half place => simp [chars?, CodePoint.char?] at read
      | char c =>
          cases tail : Text.chars? ⟨rest⟩ with
          | none =>
              simp only [chars?] at tail
              simp [chars?, CodePoint.char?, tail] at read
          | some others =>
              have known := ih tail
              simp only [chars?] at tail
              simp only [chars?, List.mapM_cons, CodePoint.char?, tail] at read
              obtain rfl := Option.some.inj read
              simp only [ofChars, Text.mk.injEq] at known
              simp [ofChars, known]

theorem eq_ofString_of_string? {text : Text} {string : String}
    (read : text.string? = some string) : text = ofString string := by
  obtain ⟨chars, known, rfl⟩ := Option.map_eq_some_iff.mp read
  simpa [ofString] using eq_ofChars_of_chars? known

/-- Different strings are different texts. -/
@[simp]
theorem ofString_inj {first second : String} :
    ofString first = ofString second ↔ first = second := by
  refine ⟨fun same => ?_, fun same => same ▸ rfl⟩
  have read := congrArg string? same
  simpa using read

end Text
end CatalogQuery
