import CatalogQuery.Text.Composition
import CatalogQuery.Text.Joining
import CatalogQuery.Text.LabelChar
import CatalogQuery.Text.Punycode
import CatalogQuery.Text.Script
import CatalogQuery.Text.Split

/-!
# Domain names

The labels of a domain name are written in small letters, digits and hyphens;
a label with letters of other scripts is written in Punycode after the mark
`xn--`.  Which characters a label may hold depends in part on their neighbours,
and letters that run to the left do not mix with others.
-/

namespace CatalogQuery

/-- Why a domain name is none. -/
inductive DomainFault where
  /-- The form of a label is wrong. -/
  | form
  /-- A label holds a character that no label may hold. -/
  | character
  /-- A label holds a character in a place where it may not stand. -/
  | place
  /-- A label mixes the directions of its characters. -/
  | direction
deriving DecidableEq, Repr

namespace Domain

/-- The mark of a label that is written in Punycode. -/
def mark : List Char := "xn--".toList

/-- The greatest length of a label. -/
def labelLimit : Nat := 63

/-- The greatest length of a domain name, a dot at its end not counted. -/
def nameLimit : Nat := 253

/-- Whether a character is one that joins consonants. -/
def isJoiningMark (c : Char) : Bool := Text.combiningClass c == 9

/-- Whether a character has joined letters on both sides: the nearest letter
before it joins with the next one, and the nearest after it with the one
before. -/
def isBetweenJoined (before after : List Char) : Bool :=
  (before.find? (!Text.isPassedOver ·)).any Text.joinsNext &&
    (after.find? (!Text.isPassedOver ·)).any Text.joinsPrevious

/-- Whether a character lies in the digits that start with another one. -/
def isDigitFrom (zero c : Char) : Bool := zero ≤ c && c.toNat ≤ zero.toNat + 9

/-- The characters that labels may hold in some places only, each with whether
it may stand there; `before` are the characters before it, the nearest first. -/
def placedChar? (before : List Char) (c : Char) (after : List Char) : Option Bool :=
  if c = '\u200C' then
    some (before.head?.any isJoiningMark || isBetweenJoined before after)
  else if c = '\u200D' then some (before.head?.any isJoiningMark)
  else if c = '\u00B7' then some (before.head? == some 'l' && after.head? == some 'l')
  else if c = '\u0375' then some (after.head?.any Text.isGreek)
  else if c = '\u05F3' ∨ c = '\u05F4' then some (before.head?.any Text.isHebrew)
  else if c = '\u30FB' then some (before.any Text.isJapanese || after.any Text.isJapanese)
  else if isDigitFrom '\u0660' c then
    some (!before.any (isDigitFrom '\u06F0') && !after.any (isDigitFrom '\u06F0'))
  else if isDigitFrom '\u06F0' c then
    some (!before.any (isDigitFrom '\u0660') && !after.any (isDigitFrom '\u0660'))
  else none

/-- The check of the characters of a label behind those in `before`, the nearest
first. -/
def checkChars (before : List Char) : List Char → Except DomainFault Unit
  | [] => .ok ()
  | c :: rest =>
      match placedChar? before c rest with
      | some true => checkChars (c :: before) rest
      | some false => .error .place
      | none => if Text.isLabelChar c then checkChars (c :: before) rest else .error .character

/-- Whether the hyphens of a label are where they may be: not at its ends, and
not at both the third and the fourth place. -/
def hasSoundHyphens (label : List Char) : Bool :=
  label.head? != some '-' && label.getLast? != some '-' && (label.drop 2).take 2 != ['-', '-']

/-- Whether the directions of the characters of a label agree.  If letters run
to the left, or there are digits that go with them, then the label starts with
such a letter, ends with such a letter or a digit and marks behind it, has no
letters that run to the right, and only digits of one kind. -/
def hasSoundDirections (label : List Char) : Bool :=
  let directions := label.map Text.direction
  if directions.contains .leftward || directions.contains .leftwardDigit then
    let last := directions.reverse.find? (· != .mark)
    directions.head? == some .leftward &&
      (last == some .leftward || last == some .leftwardDigit || last == some .digit) &&
      !directions.contains .rightward &&
      !(directions.contains .digit && directions.contains .leftwardDigit)
  else true

/-- The check of the characters of a label. -/
def checkLabel (label : List Char) : Except DomainFault Unit := do
  if label.isEmpty ∨ nameLimit + 1 < label.length ∨ !Text.isComposed label ∨
      !hasSoundHyphens label ∨ label.head?.any Text.isMark then
    .error .form
  checkChars [] label
  if hasSoundDirections label then .ok () else .error .direction

/-- The check of a label that is written in ASCII. -/
def checkWritten (label : List Char) : Except DomainFault Unit :=
  if mark.isPrefixOf label then
    let digits := label.drop mark.length
    if digits.isEmpty ∨ digits.getLast? = some '-' then .error .form
    else
      match Text.Punycode.decode? digits with
      | none => .error .form
      | some points =>
          match (Text.mk points).chars? with
          | some chars => checkLabel chars
          | none => .error .character
  else checkLabel label

/-- A label written in ASCII. -/
def writeLabel (label : List Char) : Except DomainFault (List Char) := do
  let written ←
    if label.all Text.Punycode.isBasic then do
      checkWritten label
      .ok label
    else do
      checkLabel label
      .ok (mark ++ Text.Punycode.encode label)
  if written.length ≤ labelLimit then .ok written else .error .form

/-- The dots that labels are set apart by. -/
def dots : List Char := ['.', '\u3002', '\uFF0E', '\uFF61']

/-- The labels of a domain name, and whether it ends with a dot. -/
def labels (name : List Char) : List (List Char) × Bool :=
  let labels := Text.splitAll '.' (name.map fun c => if dots.contains c then '.' else c)
  if labels.getLast? = some [] then (labels.dropLast, true) else (labels, false)

/-- A domain name in small letters written in ASCII. -/
def write (name : List Char) : Except DomainFault (List Char) :=
  if nameLimit + 1 < name.length then .error .form
  else do
    let (labels, dotted) := labels name
    let written := ['.'].intercalate (← labels.mapM writeLabel)
    if written.length ≤ nameLimit then .ok (if dotted then written ++ ['.'] else written)
    else .error .form

/-- The check of a domain name that is written in ASCII. -/
def check (name : List Char) : Except DomainFault Unit :=
  if nameLimit + 1 < name.length then .error .form
  else (labels name).1.forM checkWritten

end Domain
end CatalogQuery
