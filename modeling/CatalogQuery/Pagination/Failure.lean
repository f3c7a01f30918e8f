import CatalogQuery.Text.Quoted

/-!
# Failures of pagination

What can go wrong while a list is paged through, and the message for it.  A
page description that cannot be matched to a mode of pagination is never
guessed at.
-/

namespace CatalogQuery

/-- The two ways to address a page. -/
inductive PaginationMode where
  | offset
  | cursor
deriving DecidableEq, Repr, Inhabited

/-- The name of a mode. -/
def PaginationMode.name : PaginationMode → String
  | offset => "offset"
  | cursor => "cursor"

/-- The names of the modes with the modes. -/
def PaginationMode.named : List (String × PaginationMode) :=
  [(offset.name, offset), (cursor.name, cursor)]

/-- A failure of pagination. -/
inductive PaginationFailure where
  /-- The response describes no page. -/
  | noPageInfo
  /-- The description of the page carries no tag. -/
  | missingTag
  /-- The tag, shown as it came, names no mode. -/
  | unknownTag (shown : String)
  /-- The page was described in another mode than it was requested in. -/
  | tagMismatch (requested received : PaginationMode)
  /-- The way back from the cursor is not known. -/
  | noPreviousCursor (cursor : Text)
  /-- The last page is reached. -/
  | noNextPage
  /-- No page has been seen yet. -/
  | nothingObserved
  /-- The history cannot be dropped while a page is loading. -/
  | resetInFlight
  /-- The operation belongs to the other mode. -/
  | wrongMode (mode : PaginationMode)
deriving DecidableEq, Repr

/-- The message for a failure of pagination. -/
def PaginationFailure.message : PaginationFailure → String
  | noPageInfo => "No pagination info found in the response"
  | missingTag =>
      "Page info has no '__kind' (or '__typename') tag. " ++
        "Be sure to select it as part of the query."
  | unknownTag shown => "Unknown page info tag: " ++ shown
  | tagMismatch requested received =>
      "Requested " ++ requested.name ++ " pagination but the response carried " ++
        received.name ++ " page info"
  | noPreviousCursor cursor =>
      "No previous cursor found in cache for " ++ Text.quoted cursor
  | noNextPage => "There is no next page to load"
  | nothingObserved => "No page info observed yet; fetch the first page before navigating"
  | resetInFlight => "Cannot reset pagination while a request is in flight"
  | wrongMode mode => "Page numbers do not apply to " ++ mode.name ++ " pagination"

end CatalogQuery
