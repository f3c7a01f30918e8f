import CatalogQuery.Text.Numeral
import CatalogQuery.Timestamp.Reader
import CatalogQuery.Validation
import CatalogQuery.Value.Display

/-!
# Checks of single values

Texts and lists are accepted as such only.  An integer may also be given as a
truth value, as a number without a fraction or as a numeral, a truth value as
zero, one or one of a few words, and a timestamp as a number or as a text.  A
text that must be read needs to be a string.
-/

namespace CatalogQuery
namespace Checked

/-- A text. -/
def text : Value → Checked Text
  | .text s => .ok s
  | _ => fail .notText

/-- The string that a text must be. -/
def string (text : Text) : Checked String :=
  match text.string? with
  | some s => .ok s
  | none => fail .brokenText

/-- Whether the integer that a real number is counts as one: its size is below
`2 ^ 63`. -/
def isWordSized (i : Int) : Bool := i.natAbs < 9223372036854775808

/-- The integer that a string writes. -/
def integerText (text : String) : Checked Int :=
  match Text.plainInteger text with
  | .ok i => .ok i
  | .error .notInteger => fail .unreadableInteger
  | .error .tooLong => fail .oversizedInteger

/-- An integer. -/
def integer : Value → Checked Int
  | .int i => .ok i
  | .bool b => .ok (if b then 1 else 0)
  | .real x =>
      match x.toInt? with
      | some i => if isWordSized i then .ok i else fail .oversizedInteger
      | none => if x.isFinite then fail .fractionalInteger else fail .notFinite
  | .text s => (string s).bind integerText
  | _ => fail .notInteger

/-- The truth value that a word stands for. -/
def truthWord? (word : String) : Option Bool :=
  let lower := String.ofList (word.toList.map Char.toLower)
  if lower ∈ ["1", "t", "y", "yes", "on", "true"] then some true
  else if lower ∈ ["0", "f", "n", "no", "off", "false"] then some false
  else none

/-- The truth value that a string names. -/
def truthText (text : String) : Checked Bool :=
  match truthWord? text with
  | some b => .ok b
  | none => fail .unreadableTruthValue

/-- A truth value. -/
def truth : Value → Checked Bool
  | .bool b => .ok b
  | .int i => if Text.fitsWord i then number i else fail .notTruthValue
  | .real x =>
      match x.toInt? with
      | some i => if isWordSized i then number i else fail .notTruthValue
      | none => fail .notTruthValue
  | .text s => (string s).bind truthText
  | _ => fail .notTruthValue
where
  /-- The truth value that zero or one stands for. -/
  number (i : Int) : Checked Bool :=
    if i = 0 then .ok false else if i = 1 then .ok true else fail .unreadableTruthValue

/-- The real number that a string writes. -/
def realText (text : String) : Checked Binary64 :=
  match Text.plainReal? text with
  | some x => .ok x
  | none => fail .unreadableReal

/-- A real number. -/
def real : Value → Checked Binary64
  | .real x => .ok x
  | .int i =>
      let x := Binary64.ofInt i
      if x.isFinite then .ok x else fail .notReal
  | .bool b => .ok (Binary64.ofInt (if b then 1 else 0))
  | .text s => (string s).bind realText
  | _ => fail .notReal

/-- A timestamp. -/
def moment? : Value → Option Timestamp
  | .moment t => some t
  | .int i => Timestamp.ofInt? i
  | .real x => Timestamp.ofReal? x
  | .text s => s.string?.bind Timestamp.ofText?
  | _ => none

/-- A value that may be null. -/
def optional {α : Type} (check : Value → Checked α) : Value → Checked (Option α)
  | .null => .ok none
  | value => (check value).map some

/-- A list of values. -/
def list {α : Type} (check : Value → Checked α) : Value → Checked (List α)
  | .list values => items check 0 values
  | _ => fail .notList

/-- One of a few words, each with its meaning. -/
def word {α : Type} (meanings : List (String × α)) : Value → Checked α
  | .text s => (string s).bind fun s =>
      match meanings.lookup s with
      | some meaning => .ok meaning
      | none => fail .notAmongLiterals
  | _ => fail .notAmongLiterals

/-- The field of an object, with a default for an absent one. -/
def fieldOr {α : Type} (name : String) (default : α) (check : Value → Checked α)
    (fields : Fields Value) : Checked α :=
  match Fields.get? name fields with
  | some value => inField name (check value)
  | none => .ok default

/-- The field of an object that must be present. -/
def field {α : Type} (name : String) (check : Value → Checked α)
    (fields : Fields Value) : Checked α :=
  match Fields.get? name fields with
  | some value => inField name (check value)
  | none => inField name (fail .missing)

/-- The step to an entry: a text leads to a field, a number or truth value that
fits in 64 bits to its place, and any other key to what is shown of it. -/
def keyStep : Value → Step
  | .int i => if Text.fitsWord i then .index i else .field (toString i)
  | .bool b => .index (if b then 1 else 0)
  | .text name => .field (name.string?.getD (Text.quoted name))
  | key => .field key.inspect

/-- Whether a key is a text that is no string. -/
def isBrokenKey : Value → Bool
  | .text name => name.string?.isNone
  | _ => false

/-- The issue that an entry with a key is, unless it is one of the known
fields. -/
def strayIssue? (known : List String) (key : Value) : Option Issue :=
  match key with
  | .text name => if name.isAmong known then none else some ⟨[keyStep key], .extraField⟩
  | _ => some ⟨[keyStep key], .foreignKey⟩

/-- A check of entries of which only the known fields may be there.  A key that
is no string is the only fault that is reported. -/
def closed {α : Type} (known : List String) (keys : List Value) (check : Checked α) :
    Checked α :=
  if keys.any isBrokenKey then fail .brokenText
  else withIssues (keys.filterMap (strayIssue? known)) check

/-- The fields of an object. -/
def object {α : Type} (check : Fields Value → Checked α) (value : Value) : Checked α :=
  match value.fields? with
  | some fields => check fields
  | none => fail .notModel

end Checked
end CatalogQuery
