import CatalogQuery.Ordering
import CatalogQuery.Text.Numeral

/-!
# Command line arguments

The command takes the entity to list and options.  Long options may be
abbreviated as long as only one fits, and an option takes its value from the
next argument or after an equals sign.  A negative number, and an argument with
a space in it, is never an option; after `--` nothing is.  Arguments that do
not fit end the command with code 2.
-/

namespace CatalogQuery

/-- The options of the command. -/
inductive CommandOption where
  | help
  | filter
  | orderBy
  | pageSize
  | cursorMode
  | limit
  | pages
  | token
deriving DecidableEq, Repr

/-- What an option of the command was given. -/
inductive OptionValue (α : Type) where
  /-- The option was not used. -/
  | absent
  /-- The separator stood in the place of the value, so there is none. -/
  | blank
  | given (value : α)
deriving DecidableEq

/-- The value of an option, if it was given one. -/
def OptionValue.get? {α : Type} : OptionValue α → Option α
  | given value => some value
  | _ => none

/-- What the command is called with. -/
structure Arguments where
  entity : Entity
  filterJson : OptionValue String
  /-- The orders that were asked for; none where the separator stood for one. -/
  orderBy : List (Option QueryOrder)
  pageSize : OptionValue Int
  cursorMode : Bool
  limit : OptionValue Int
  pages : OptionValue Int
  token : OptionValue String
deriving DecidableEq

namespace CommandOption

/-- The names of the options. -/
def named : List (String × CommandOption) :=
  [("-h", help), ("--help", help), ("--filter", filter), ("--order-by", orderBy),
    ("--page-size", pageSize), ("--cursor-mode", cursorMode), ("--limit", limit),
    ("--pages", pages), ("--token", token)]

/-- Whether an option takes a value. -/
def takesValue : CommandOption → Bool
  | help => false
  | cursorMode => false
  | _ => true

end CommandOption

/-- An argument by what it looks like. -/
inductive Argument where
  /-- A value of an option, or the entity. -/
  | value (text : String)
  /-- The end of the options. -/
  | separator
  /-- An option without a value of its own. -/
  | bare (option : CommandOption)
  /-- An option with a value after an equals sign. -/
  | assigned (option : CommandOption) (text : String)
  /-- An option of one letter with further letters behind it. -/
  | cluster (option : CommandOption) (letters : List Char)
  /-- Something that looks like an option but is none. -/
  | unknown
deriving DecidableEq, Repr

namespace Argument

/-- The failure that ends the command when its arguments do not fit. -/
def misuse : Failure := .exit 2

/-- An argument cut at its first equals sign. -/
def cutEquals (text : String) : String × Option String :=
  let chars := text.toList
  match chars.dropWhile (· != '=') with
  | [] => (text, none)
  | _ :: rest => (String.ofList (chars.takeWhile (· != '=')), some (String.ofList rest))

/-- Whether a name has a single dash. -/
def isShort (name : String) : Bool :=
  match name.toList with
  | '-' :: '-' :: _ => false
  | _ => true

/-- An option with the value after its equals sign.  What follows the equals sign
of an option of one letter that takes no value counts as further letters. -/
def ofAssigned (name : String) (found : CommandOption) (text : String) : Argument :=
  if isShort name ∧ !found.takesValue then cluster found text.toList else assigned found text

/-- An option with the value after its equals sign, if there is one. -/
def ofOption (found : CommandOption) : Option String → Argument
  | none => bare found
  | some text => assigned found text

/-- The options whose name an argument with two dashes abbreviates. -/
def abbreviated (text : String) : List Argument :=
  let (start, explicit) := cutEquals text
  (CommandOption.named.filter fun entry => start.toList.isPrefixOf entry.1.toList).map
    fun entry => ofOption entry.2 explicit

/-- The options that an argument with one dash fits: by its first letter, the
rest being a value, or as an abbreviation. -/
def clustered (text : String) : List Argument :=
  CommandOption.named.filterMap fun (name, found) =>
    if name.toList = text.toList.take 2 then
      some (cluster found (text.toList.drop 2))
    else if text.toList.isPrefixOf name.toList then some (bare found)
    else none

/-- Whether digits are decimal digits of any script, and there is one. -/
def areDigits (chars : List Char) : Bool :=
  !chars.isEmpty && chars.all fun c => (Text.decimalValue? c).isSome

/-- The characters without a line feed at their end. -/
def withoutLineFeed (chars : List Char) : List Char :=
  if chars.getLast? = some '\n' then chars.dropLast else chars

/-- Whether an argument is a negative number, with or without a fraction; a line
feed may follow. -/
def isNegativeNumber (chars : List Char) : Bool :=
  match withoutLineFeed chars with
  | '-' :: body =>
      areDigits body ||
        match body.dropWhile (· != '.') with
        | _ :: fraction =>
            areDigits fraction &&
              (body.takeWhile (· != '.')).all fun c => (Text.decimalValue? c).isSome
        | [] => false
  | _ => false

/-- An argument that looks like an option but has no option's name. -/
def ofDashed (text : String) : Outcome Argument :=
  match if isShort text then clustered text else abbreviated text with
  | [found] => .ok found
  | _ :: _ :: _ => .error misuse
  | [] =>
      if isNegativeNumber text.toList ∨ text.toList.contains ' ' then .ok (value text)
      else .ok unknown

/-- What an argument before the end of the options looks like. -/
def ofText (text : String) : Outcome Argument :=
  match text.toList with
  | '-' :: _ :: _ =>
      match CommandOption.named.lookup text with
      | some found => .ok (bare found)
      | none =>
          let (name, explicit) := cutEquals text
          match explicit, CommandOption.named.lookup name with
          | some explicit, some found => .ok (ofAssigned name found explicit)
          | _, _ => ofDashed text
  | _ => .ok (value text)

/-- What the arguments look like. -/
def ofTexts : List String → Outcome (List Argument)
  | [] => .ok []
  | "--" :: rest => .ok (separator :: rest.map value)
  | text :: rest => do
      let first ← ofText text
      .ok (first :: (← ofTexts rest))

end Argument

/-- The arguments that have been gone through so far. -/
structure ArgumentDraft where
  entity : Option Entity
  filterJson : OptionValue String
  orderBy : List (Option QueryOrder)
  pageSize : OptionValue Int
  cursorMode : Bool
  limit : OptionValue Int
  pages : OptionValue Int
  token : OptionValue String
  /-- Whether an argument was left over. -/
  extra : Bool

namespace ArgumentDraft

/-- Nothing but the defaults. -/
def empty : ArgumentDraft :=
  ⟨none, .absent, [], .absent, false, .absent, .given 1, .absent, false⟩

/-- The integer that the value of an option is. -/
def integer (text : String) : Outcome Int :=
  match Text.integer? text with
  | some i => .ok i
  | none => .error Argument.misuse

/-- The order that the value of an option is. -/
def order (text : String) : Outcome QueryOrder :=
  match QueryOrder.ofText text with
  | .ok order => .ok order
  | .error _ => .error Argument.misuse

/-- The draft with the value of an option. -/
def withValue (draft : ArgumentDraft) (option : CommandOption) (text : String) :
    Outcome ArgumentDraft :=
  match option with
  | .filter => .ok { draft with filterJson := .given text }
  | .orderBy => do .ok { draft with orderBy := draft.orderBy ++ [some (← order text)] }
  | .pageSize => do .ok { draft with pageSize := .given (← integer text) }
  | .limit => do .ok { draft with limit := .given (← integer text) }
  | .pages => do .ok { draft with pages := .given (← integer text) }
  | .token => .ok { draft with token := .given text }
  | .help => .error Argument.misuse
  | .cursorMode => .error Argument.misuse

/-- The draft with an option in the place of whose value the separator stood. -/
def withBlank (draft : ArgumentDraft) (option : CommandOption) : ArgumentDraft :=
  match option with
  | .filter => { draft with filterJson := .blank }
  | .orderBy => { draft with orderBy := draft.orderBy ++ [none] }
  | .pageSize => { draft with pageSize := .blank }
  | .limit => { draft with limit := .blank }
  | .pages => { draft with pages := .blank }
  | .token => { draft with token := .blank }
  | .help => draft
  | .cursorMode => draft

/-- The draft with what stood after the equals sign of an option. -/
def withAssigned (draft : ArgumentDraft) (option : CommandOption) (text : String) :
    Outcome ArgumentDraft :=
  if !option.takesValue then .error Argument.misuse
  else if text = "--" then .ok (draft.withBlank option)
  else draft.withValue option text

/-- The draft with an option that takes no value. -/
def withFlag (draft : ArgumentDraft) : CommandOption → Outcome ArgumentDraft
  | .help => .error (.exit 0)
  | _ => .ok { draft with cursorMode := true }

/-- Whether letters may stand behind the option for help, the only one of one
letter: each must be that option again. -/
def mayFollowHelp (letters : List Char) : Bool := !letters.isEmpty && letters.all (· == 'h')

/-- The draft with the entity. -/
def withEntity (draft : ArgumentDraft) (text : String) : Outcome ArgumentDraft :=
  match Entity.ofName? text with
  | some entity => .ok { draft with entity := some entity }
  | none => .error Argument.misuse

/-- The draft with an argument left over. -/
def withExtra (draft : ArgumentDraft) : ArgumentDraft := { draft with extra := true }

/-- Go through arguments one after the other. -/
def consume (draft : ArgumentDraft) : List Argument → Outcome ArgumentDraft
  | [] => .ok draft
  | .unknown :: rest => consume draft.withExtra rest
  | .assigned option text :: rest => do consume (← draft.withAssigned option text) rest
  | .cluster option letters :: rest =>
      if mayFollowHelp letters then do consume (← draft.withFlag option) rest
      else .error Argument.misuse
  | .bare option :: .value text :: rest =>
      if option.takesValue then do consume (← draft.withValue option text) rest
      else do consume (← draft.withFlag option) (.value text :: rest)
  | .bare option :: rest =>
      if option.takesValue then .error Argument.misuse
      else do consume (← draft.withFlag option) rest
  | .value text :: .separator :: rest =>
      if draft.entity.isSome then consume draft.withExtra (.separator :: rest)
      else do consume (← draft.withEntity text) rest
  | .value text :: rest =>
      if draft.entity.isSome then consume draft.withExtra rest
      else do consume (← draft.withEntity text) rest
  | .separator :: .value text :: rest =>
      if draft.entity.isSome then consume draft.withExtra rest
      else do consume (← draft.withEntity text) rest
  | .separator :: rest => consume draft.withExtra rest

/-- The finished arguments: the entity must be there, and nothing left over. -/
def finish (draft : ArgumentDraft) : Outcome Arguments :=
  match draft.entity with
  | some entity =>
      if draft.extra then .error Argument.misuse
      else
        .ok ⟨entity, draft.filterJson, draft.orderBy, draft.pageSize, draft.cursorMode,
          draft.limit, draft.pages, draft.token⟩
  | none => .error Argument.misuse

end ArgumentDraft

/-- The arguments that texts stand for. -/
def Arguments.ofTexts (texts : List String) : Outcome Arguments := do
  let draft ← ArgumentDraft.empty.consume (← Argument.ofTexts texts)
  draft.finish

end CatalogQuery
