import CatalogQuery.Binary64.Shortest
import CatalogQuery.Text.Quoted
import CatalogQuery.Value

/-!
# Values in running text

Messages and query parameters show values of any kind: `None`, `True` and
`False`, numbers by their digits, lists in brackets, and objects in braces.
Texts and timestamps stand as they are when they are shown alone; inside another
value a text is put between quotes, and a timestamp is spelled out by its parts.
-/

namespace CatalogQuery

namespace Timestamp

/-- A timestamp as a text of its own: date and time of day with a space between
them, and the offset in digits. -/
def display (t : Timestamp) : String :=
  String.ofList (t.partChars ' ' ++ (t.offset.map zoneChars).getD [])

/-- An offset as a part of a message.  A span of time is shown as a number of
days, which may be negative, and of seconds, which may not. -/
def inspectZone (zone : Int) : String :=
  if zone = 0 then "datetime.timezone.utc"
  else
    let days := if zone < 0 then "days=-1, " else ""
    "datetime.timezone(datetime.timedelta(" ++ days ++ "seconds=" ++
      toString (zone % 1440 * 60) ++ "))"

/-- A timestamp as a part of a message.  Seconds and microseconds are left out
if they and all that follows them are zero. -/
def inspect (t : Timestamp) : String :=
  let fraction :=
    if t.micro ≠ 0 then [t.second, t.micro] else if t.second ≠ 0 then [t.second] else []
  let parts := [t.year, t.month, t.day, t.hour, t.minute] ++ fraction
  let zone := t.offset.toList.map fun zone => "tzinfo=" ++ inspectZone zone
  "datetime.datetime(" ++ String.intercalate ", " (parts.map toString ++ zone) ++ ")"

end Timestamp

namespace Value

mutual

/-- A value as a part of a message. -/
def inspect : Value → String
  | null => "None"
  | bool b => if b then "True" else "False"
  | int i => toString i
  | real x => x.write .plain
  | text s => Text.quoted s
  | moment t => t.inspect
  | list items => "[" ++ String.intercalate ", " (inspectItems items) ++ "]"
  | object fields => "\x7b" ++ String.intercalate ", " (inspectFields fields) ++ "\x7d"
  | table entries => "\x7b" ++ String.intercalate ", " (inspectEntries entries) ++ "\x7d"

/-- The items of a list as parts of a message. -/
def inspectItems : List Value → List String
  | [] => []
  | item :: rest => inspect item :: inspectItems rest

/-- The fields of an object as parts of a message. -/
def inspectFields : List (Text × Value) → List String
  | [] => []
  | (name, value) :: rest =>
      (Text.quoted name ++ ": " ++ inspect value) :: inspectFields rest

/-- The entries of a table as parts of a message. -/
def inspectEntries : List (Value × Value) → List String
  | [] => []
  | (key, value) :: rest =>
      (inspect key ++ ": " ++ inspect value) :: inspectEntries rest

end

/-- A value as a text of its own: a text stands without quotes. -/
def display : Value → Text
  | text s => s
  | moment t => t.display
  | value => inspect value

end Value
end CatalogQuery
