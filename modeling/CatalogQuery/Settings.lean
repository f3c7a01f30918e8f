import CatalogQuery.Failure
import CatalogQuery.Text.LetterCase
import CatalogQuery.Validation.Scalar

/-!
# Settings

Settings come from the environment, from values that are given directly, and
from defaults; a given value counts before one of the environment.  Every
setting has a name in the environment and a short one, and both are read
without regard to case.
-/

namespace CatalogQuery

/-- The settings of a client. -/
structure Settings where
  apiUrl : Text
  apiTimeout : Binary64
  apiToken : Text
  defaultPageSize : Int
  largePageSize : Int
  /-- The bound of the cursor history; without one it is unbounded. -/
  cursorCacheMaxEntries : Option Int
  logLevel : Text
deriving DecidableEq

/-- The two names of a setting. -/
structure SettingName where
  environment : String
  short : String

namespace SettingName

/-- The name of a setting in the environment. -/
def ofShort (short : String) : SettingName :=
  ⟨"QUERY_" ++ String.ofList (short.toList.map Char.toUpper), short⟩

/-- The short names of the settings. -/
def shorts : List String :=
  ["api_url", "api_timeout", "api_token", "default_page_size", "large_page_size",
    "cursor_cache_max_entries", "log_level"]

/-- The variables of the environment that settings may stand in. -/
def variableNames : List String :=
  shorts.flatMap fun short => [(ofShort short).environment, short]

/-- Whether two names are equal but for the case of letters. -/
def sameName (name other : String) : Bool := Text.lower name == Text.lower other

/-- The first value that is given under a name. -/
def find? (name : String) (values : Fields Value) : Option Value :=
  (values.find? fun entry => entry.1.string?.any (sameName · name)).map (·.2)

/-- The value that is given under either name, that of the environment first.
It is reported under the short name if that one occurs as it is, and under the
name of the environment otherwise. -/
def given? (name : SettingName) (values : Fields Value) : Option (String × Value) :=
  let reported := if Fields.has name.short values then name.short else name.environment
  ((find? name.environment values).or (find? name.short values)).map (reported, ·)

/-- The text of a variable of the environment; of several spellings the last
one counts. -/
def lookUp? (name : String) (environment : List (String × String)) : Option String :=
  (environment.reverse.find? fun entry => sameName entry.1 name).map (·.2)

/-- The value of a setting in the environment, with the name that was used. -/
def environment? (name : SettingName) (environment : List (String × String)) :
    Option (String × Value) :=
  match lookUp? name.environment environment with
  | some text => some (name.environment, .text text)
  | none => (lookUp? name.short environment).map fun text => (name.short, .text text)

end SettingName

/-- Where settings are looked up. -/
structure SettingSources where
  given : Fields Value
  environment : List (String × String)

/-- A setting, with a default for one that no source has. -/
def SettingSources.read {α : Type} (short : String) (default : α) (check : Value → Checked α)
    (sources : SettingSources) : Checked α :=
  let name := SettingName.ofShort short
  match name.given? sources.given with
  | some (key, value) => Checked.inField key (check value)
  | none =>
      match name.environment? sources.environment with
      | some (key, value) => Checked.inField key (check value)
      | none => .ok default

namespace Settings

/-- The settings with all parts of the right kind. -/
def parts (sources : SettingSources) : Checked Settings :=
  ((sources.read "api_url" ("http://localhost:10801" : Text) Checked.text).both
    ((sources.read "api_timeout" (Binary64.ofInt 30) Checked.real).both
      ((sources.read "api_token" ("" : Text) Checked.text).both
        ((sources.read "default_page_size" 20 Checked.integer).both
          ((sources.read "large_page_size" 40 Checked.integer).both
            ((sources.read "cursor_cache_max_entries" none
                (Checked.optional Checked.integer)).both
              (sources.read "log_level" ("INFO" : Text) Checked.text))))))).map
                fun (url, timeout, token, page, largePage, entries, level) =>
                  ⟨url, timeout, token, page, largePage, entries, level⟩

/-- The rules between the settings: a page holds at least one item, and so does
a bounded history. -/
def checkSizes (settings : Settings) : Checked Settings :=
  if settings.defaultPageSize < 1 ∨ settings.largePageSize < 1 then
    Checked.fail (.violated .pageSizeTooSmall)
  else
    match settings.cursorCacheMaxEntries with
    | some entries =>
        if entries < 1 then Checked.fail (.violated .cacheBoundTooSmall) else .ok settings
    | none => .ok settings

/-- The settings that the sources give. -/
def load (sources : SettingSources) : Outcome Settings :=
  Checked.reported "Settings" do checkSizes (← parts sources)

/-- The settings of an environment. -/
def ofEnvironment (environment : List (String × String)) : Outcome Settings :=
  load ⟨[], environment⟩

end Settings
end CatalogQuery
