import CatalogQuery.Binary64.Shortest
import CatalogQuery.Text.Hexadecimal
import CatalogQuery.Value

/-!
# Writing JSON documents

`Json.compact` writes a value on one line and `Json.indented` one item a line.
Every character but the printable ones of ASCII is written as an escape of its
UTF-16 code units, so the text is the same in any encoding.  A timestamp is
written as a text, and a table as an object.
-/

namespace CatalogQuery
namespace Json

/-- The escape of a UTF-16 code unit. -/
def unitEscape (unit : Nat) : List Char := '\\' :: 'u' :: Text.fixedHex 4 unit

/-- How a character is written inside quotes. -/
def escapeChar (c : Char) : List Char :=
  match c with
  | '"' => ['\\', '"']
  | '\\' => ['\\', '\\']
  | '\n' => ['\\', 'n']
  | '\r' => ['\\', 'r']
  | '\t' => ['\\', 't']
  | '\x08' => ['\\', 'b']
  | '\x0c' => ['\\', 'f']
  | _ =>
      let code := c.toNat
      if 0x10000 ≤ code then
        unitEscape (0xD800 + (code - 0x10000) / 0x400) ++
          unitEscape (0xDC00 + (code - 0x10000) % 0x400)
      else if code < 0x20 ∨ 0x7F ≤ code then unitEscape code
      else [c]

/-- How a code point is written inside quotes. -/
def escapePoint : CodePoint → List Char
  | .char c => escapeChar c
  | .half place => unitEscape (CodePoint.toNat (.half place))

/-- A text in quotes. -/
def quote (text : Text) : String :=
  String.ofList ('"' :: text.points.flatMap escapePoint ++ ['"'])

/-- The name that the key of an entry has as the name of a field. -/
def keyName : Value → Text
  | .null => "null"
  | .bool b => if b then "true" else "false"
  | .int i => toString i
  | .real x => x.write .json
  | .moment t => t.text
  | .text name => name
  | _ => ""

/-- How the parts of a document are set apart: what stands between items, and
what follows a name. -/
structure Layout where
  /-- The text between two items on a line. -/
  separator : String
  /-- The spaces a level of nesting is indented by; none for one line. -/
  indent : Option Nat

/-- The layout on one line. -/
def Layout.oneLine : Layout := ⟨", ", none⟩

/-- The layout with an item a line, two spaces a level. -/
def Layout.itemPerLine : Layout := ⟨",", some 2⟩

/-- The start of a new line at a level of nesting. -/
def Layout.newLine (layout : Layout) (level : Nat) : String :=
  match layout.indent with
  | some width => "\n" ++ String.ofList (List.replicate (width * level) ' ')
  | none => ""

/-- Items in brackets. -/
def Layout.enclose (layout : Layout) (opening closing : String) (level : Nat)
    (items : List String) : String :=
  if items.isEmpty then opening ++ closing
  else
    opening ++ layout.newLine (level + 1) ++
      String.intercalate (layout.separator ++ layout.newLine (level + 1)) items ++
      layout.newLine level ++ closing

mutual

/-- The text of a value at a level of nesting. -/
def write (layout : Layout) (level : Nat) : Value → String
  | .null => "null"
  | .bool b => if b then "true" else "false"
  | .int i => toString i
  | .real x => x.write .json
  | .text s => quote s
  | .moment t => quote t.text
  | .list items => layout.enclose "[" "]" level (writeItems layout (level + 1) items)
  | .object fields =>
      layout.enclose "\x7b" "\x7d" level (writeFields layout (level + 1) fields)
  | .table entries =>
      layout.enclose "\x7b" "\x7d" level (writeEntries layout (level + 1) entries)

/-- The texts of the items of a list. -/
def writeItems (layout : Layout) (level : Nat) : List Value → List String
  | [] => []
  | item :: rest => write layout level item :: writeItems layout level rest

/-- The texts of the fields of an object. -/
def writeFields (layout : Layout) (level : Nat) : List (Text × Value) → List String
  | [] => []
  | (name, value) :: rest =>
      (quote name ++ ": " ++ write layout level value) :: writeFields layout level rest

/-- The texts of the entries of a table. -/
def writeEntries (layout : Layout) (level : Nat) : List (Value × Value) → List String
  | [] => []
  | (key, value) :: rest =>
      (quote (keyName key) ++ ": " ++ write layout level value) :: writeEntries layout level rest

end

/-- The document of a value on one line. -/
def compact (value : Value) : String := write .oneLine 0 value

/-- The document of a value with an item a line. -/
def indented (value : Value) : String := write .itemPerLine 0 value

end Json
end CatalogQuery
