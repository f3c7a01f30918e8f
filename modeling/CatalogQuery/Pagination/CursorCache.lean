import CatalogQuery.Pagination.Page

/-!
# Cursor history

A list that is addressed by cursors only ever hands out the next cursor.  The
history remembers, for every cursor it was told of, which cursor comes after it
and which cursor was left to reach it.  Entries stand in the order in which
they were last recorded, and with a bound the ones recorded longest ago are
forgotten.
-/

namespace CatalogQuery

/-- The known neighbours of a cursor. -/
structure CursorLinks where
  next : Option Text
  previous : Option Text
deriving DecidableEq, Repr, Inhabited

/-- A history of cursors, the one recorded last at the end. -/
structure CursorCache where
  /-- The greatest number of entries, if there is one. -/
  bound : Option Count
  entries : Fields CursorLinks
deriving DecidableEq

namespace CursorCache

/-- The empty history with a bound. -/
def empty (bound : Option Count) : CursorCache := ⟨bound, []⟩

/-- The empty history with a bound that has yet to be checked. -/
def withBound (bound : Option Int) : Outcome CursorCache :=
  match bound with
  | none => .ok (empty none)
  | some size =>
      match Checked.countOf size with
      | .ok count => .ok (empty (some count))
      | .error _ => .error .cacheBound

/-- The neighbours of a cursor. -/
def get? (cursor : Text) (cache : CursorCache) : Option CursorLinks :=
  Fields.get? cursor cache.entries

/-- Whether a cursor is remembered. -/
def contains (cursor : Text) (cache : CursorCache) : Bool := (cache.get? cursor).isSome

/-- The number of cursors that are remembered. -/
def size (cache : CursorCache) : Nat := cache.entries.length

/-- The cursor after a cursor. -/
def next? (cursor : Text) (cache : CursorCache) : Option Text :=
  (cache.get? cursor).bind (·.next)

/-- The cursor that was left to reach a cursor. -/
def previous? (cursor : Text) (cache : CursorCache) : Option Text :=
  (cache.get? cursor).bind (·.previous)

/-- The last entries that a bound leaves room for. -/
def newest (bound : Option Count) (entries : Fields CursorLinks) : Fields CursorLinks :=
  match bound with
  | none => entries
  | some count => entries.drop (entries.length - count.val)

/-- Record a change of the neighbours of a cursor, which becomes the one
recorded last. -/
def record (cursor : Text) (change : CursorLinks → CursorLinks) (cache : CursorCache) :
    CursorCache :=
  let links := (cache.get? cursor).getD ⟨none, none⟩
  { cache with
    entries :=
      newest cache.bound (Fields.erase cursor cache.entries ++ [(cursor, change links)]) }

/-- Record the cursor after a cursor. -/
def recordNext (cursor next : Text) (cache : CursorCache) : CursorCache :=
  cache.record cursor fun links => { links with next := some next }

/-- Record the cursor that was left to reach a cursor. -/
def recordPrevious (cursor previous : Text) (cache : CursorCache) : CursorCache :=
  cache.record cursor fun links => { links with previous := some previous }

/-- Forget everything. -/
def clear (cache : CursorCache) : CursorCache := { cache with entries := [] }

end CursorCache

/-- Whether there is a page before and after a page. -/
structure Availability where
  hasNext : Bool
  hasPrevious : Bool
deriving DecidableEq, Repr

/-- Whether there are pages around a page: by the page counters, or by the next
cursor and the history. -/
def PageInfo.availability (cache : CursorCache) : PageInfo → Availability
  | offset info =>
      let place := if info.zeroBased then info.currentPage + 1 else info.currentPage
      { hasNext := place < info.totalPages, hasPrevious := 1 < place }
  | cursor info =>
      { hasNext := info.nextCursor.isSome
        hasPrevious := (cache.previous? info.currentCursor).isSome }

/-- The name of the kind of a value. -/
def Value.kindName : Value → String
  | null => "NoneType"
  | bool _ => "bool"
  | int _ => "int"
  | real _ => "float"
  | text _ => "str"
  | moment _ => "datetime"
  | list _ => "list"
  | object _ => "dict"
  | table _ => "dict"

/-- Whether there are pages around something that is no page description at
all. -/
def Value.availability (value : Value) : Outcome Availability :=
  .error (.pagination (.unknownTag (Text.quoted value.kindName)))

end CatalogQuery
