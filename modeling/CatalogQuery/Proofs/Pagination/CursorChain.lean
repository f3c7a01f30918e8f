import CatalogQuery.Proofs.Pagination.Walk

/-!
# Chains of cursors

A list that is served by cursors is a chain of pages, each of which knows the
cursor of the next one.  An index into the chain says where a walk along it is
(`move`) and what is seen there (`IndexedBy`).
-/

namespace CatalogQuery

/-- A list of pages, each named by a cursor of its own. -/
structure CursorChain where
  cursors : List Text
  nonempty : 0 < cursors.length
  distinct : cursors.Nodup

namespace CursorChain

/-- An index into the pages. -/
abbrev Place (chain : CursorChain) := Fin chain.cursors.length

/-- The index of the first page. -/
def first (chain : CursorChain) : chain.Place := ⟨0, chain.nonempty⟩

variable (chain : CursorChain)

/-- The cursor of a page. -/
def cursor (place : chain.Place) : Text := chain.cursors[place]

/-- The description of a page; the last one has no next cursor. -/
def info (place : chain.Place) : CursorPageInfo :=
  ⟨chain.cursor place, chain.cursors[place.val + 1]?⟩

/-- The index after an index. -/
def next? (place : chain.Place) : Option chain.Place :=
  if more : place.val + 1 < chain.cursors.length then some ⟨place.val + 1, more⟩ else none

/-- The index before an index. -/
def previous? (place : chain.Place) : Option chain.Place :=
  if 0 < place.val then some ⟨place.val - 1, by omega⟩ else none

/-- The request that names a page. -/
def request (limit : Option Count) (place : chain.Place) : Pagination :=
  .cursor ⟨some (chain.cursor place), limit⟩

/-- A request for a page with a limit: by its cursor, or by none if it is the
first page. -/
def Asks (limit : Option Count) (place : chain.Place) (request : Pagination) : Prop :=
  request = chain.request limit place ∨ place = chain.first ∧ request = .cursor ⟨none, limit⟩

/-- A server of the chain: the page that is asked for with a limit is the one that
comes, if one comes. -/
def Serves (limit : Option Count) (reply : Pagination → Fetched) : Prop :=
  ∀ place request, chain.Asks limit place request →
    ∀ page, (reply request).read = .ok page → page.pageInfo = .cursor (chain.info place)

/-- The server that knows the chain and nothing else. -/
def serve : Pagination → Fetched
  | .cursor ⟨none, _⟩ => .page ⟨[], .cursor (chain.info chain.first)⟩
  | .cursor ⟨some cursor, _⟩ =>
      match chain.cursors.finIdxOf? cursor with
      | some place => .page ⟨[], .cursor (chain.info place)⟩
      | none => .cancelled
  | .offset _ => .cancelled

/-- The index that a fetch of a page leads to. -/
def reach (limit : Option Count) (reply : Pagination → Fetched) (place target : chain.Place) :
    chain.Place :=
  if (reply (chain.request limit target)).read.isOk then target else place

/-- The index after a call: it moves only if there is a page to move to and its
fetch does not fail. -/
def move (limit : Option Count) (place : chain.Place) (visit : Visit) : chain.Place :=
  match visit.navigation with
  | .next => ((chain.next? place).map (chain.reach limit visit.reply place)).getD place
  | .previous => ((chain.previous? place).map (chain.reach limit visit.reply place)).getD place
  | .refetch => place

/-- What a call does to an engine at an index, and what shows of it. -/
def Tells (limit : Option Count) (place : chain.Place) (engine : Engine) (visit : Visit) : Prop :=
  match visit.navigation with
  | .next =>
      match chain.next? place with
      | none => engine.visit visit = (engine, .nothing)
      | some target =>
          (engine.visit visit).2 = .fetched (chain.request limit target)
            (visit.reply (chain.request limit target)).read
  | .previous =>
      match chain.previous? place with
      | none =>
          engine.visit visit =
            (engine, .refused (.pagination (.noPreviousCursor (chain.cursor place))))
      | some target =>
          (engine.visit visit).2 = .fetched (chain.request limit target)
            (visit.reply (chain.request limit target)).read
  | .refetch =>
      ∃ request, chain.Asks limit place request ∧
        (engine.visit visit).2 = .fetched request (visit.reply request).read

/-- An engine that behaves as an index into the chain. -/
structure IndexedBy (limit : Option Count) (place : chain.Place) (engine : Engine) : Prop where
  idle : engine.state = .idle
  cursor : engine.currentCursor? = some (chain.cursor place)
  hasNext : engine.availability.hasNext = decide (place.val + 1 < chain.cursors.length)
  hasPrevious : engine.availability.hasPrevious = decide (0 < place.val)
  tells : ∀ visit, chain.Serves limit visit.reply → chain.Tells limit place engine visit

variable {chain} {limit : Option Count} {place target : chain.Place}

theorem cursor_inj {first second : chain.Place} :
    chain.cursor first = chain.cursor second ↔ first = second := by
  constructor
  · intro same
    exact Fin.ext ((List.getElem_inj chain.distinct).mp same)
  · intro same
    rw [same]

theorem val_of_next? (leads : chain.next? place = some target) :
    target.val = place.val + 1 := by
  unfold next? at leads
  split at leads
  · rw [← Option.some.inj leads]
  · cases leads

theorem val_of_previous? (leads : chain.previous? place = some target) :
    0 < place.val ∧ target.val = place.val - 1 := by
  unfold previous? at leads
  split at leads
  · rename_i positive
    rw [← Option.some.inj leads]
    exact ⟨positive, rfl⟩
  · cases leads

theorem previous?_of_next? (leads : chain.next? place = some target) :
    chain.previous? target = some place := by
  have step := val_of_next? leads
  unfold previous?
  rw [if_pos (by omega)]
  exact congrArg some (Fin.ext (by simp [step]))

theorem nextCursor_info (place : chain.Place) :
    (chain.info place).nextCursor = (chain.next? place).map chain.cursor := by
  unfold info next?
  split
  · rename_i more
    exact List.getElem?_eq_getElem more
  · rename_i less
    exact List.getElem?_eq_none (Nat.le_of_not_lt less)

theorem Asks.exists_cursor {request : Pagination} (asks : chain.Asks limit place request) :
    ∃ cursor, request = .cursor ⟨cursor, limit⟩ := by
  rcases asks with named | ⟨_, opening⟩
  · exact ⟨_, named⟩
  · exact ⟨_, opening⟩

theorem serves_cancelled : chain.Serves limit fun _ => .cancelled := by
  intro place request asks page read
  cases read

theorem serve_of_asks {request : Pagination} (asks : chain.Asks limit place request) :
    chain.serve request = .page ⟨[], .cursor (chain.info place)⟩ := by
  rcases asks with named | ⟨opens, unnamed⟩
  · have found : chain.cursors.finIdxOf? (chain.cursor place) = some place := by
      rw [List.finIdxOf?_eq_some_iff]
      refine ⟨rfl, ?_⟩
      intro earlier before same
      exact absurd (cursor_inj.mp same) (Fin.ne_of_lt before)
    simp only [named, CursorChain.request, serve, found]
  · simp only [unnamed, serve, opens]

theorem serves_serve : chain.Serves limit chain.serve := by
  intro place request asks page read
  simp only [serve_of_asks asks, Fetched.read, Except.ok.injEq] at read
  rw [← read]

theorem isSome_next? (place : chain.Place) :
    (chain.next? place).isSome = decide (place.val + 1 < chain.cursors.length) := by
  unfold next?
  split <;> simp_all

theorem isSome_previous? (place : chain.Place) :
    (chain.previous? place).isSome = decide (0 < place.val) := by
  unfold previous?
  split <;> simp_all

end CursorChain
end CatalogQuery
