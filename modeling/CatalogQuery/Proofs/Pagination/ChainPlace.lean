import CatalogQuery.Proofs.Pagination.CursorChain
import CatalogQuery.Proofs.Pagination.History

/-!
# Standing at a page of a chain

What an engine that shows a page of a chain of cursors does next, whatever its
history remembers of the way there.  Where its steps back go is left to the way
back that the history knows.
-/

namespace CatalogQuery
namespace CursorChain

/-- An engine at rest that shows a page of the chain and would ask for it again. -/
structure PlacedAt (chain : CursorChain) (limit : Option Count) (place : chain.Place)
    (engine : Engine) : Prop where
  grounded : engine.flight = none
  asks : chain.Asks limit place engine.request
  shows : engine.pageInfo = some (.cursor (chain.info place))

variable {chain : CursorChain} {limit : Option Count} {place target : chain.Place}
  {engine : Engine}

/-- A fetch of a page of the chain brings that page or leaves the engine as it was. -/
theorem visit_toward (grounded : engine.flight = none) {visit : Visit} {origin : Option Text}
    {request : Pagination}
    (begins : visit.navigation.start.begin engine =
      engine.depart visit.navigation origin request)
    (asks : chain.Asks limit target request) (serves : chain.Serves limit visit.reply) :
    (∃ failure, (visit.reply request).read = .error failure ∧
        engine.visit visit = (engine, .fetched request (.error failure))) ∨
      ∃ page flight, (visit.reply request).read = .ok page ∧
        page.pageInfo = .cursor (chain.info target) ∧ flight.origin = origin ∧
          engine.visit visit =
            ((engine.aloft request flight).arrived flight (.cursor (chain.info target)),
              .fetched request (.ok page)) := by
  obtain ⟨cursor, named⟩ := asks.exists_cursor
  have mode : ∀ page, (visit.reply request).read = .ok page →
      page.pageInfo.mode = request.mode := by
    intro page read
    rw [serves target request asks page read, named]
    rfl
  rcases Engine.visit_of_departs grounded begins mode with
    lost | ⟨page, flight, read, left, visited⟩
  · exact Or.inl lost
  · have described := serves target request asks page read
    rw [described] at visited
    exact Or.inr ⟨page, flight, read, described, left, visited⟩

namespace PlacedAt

theorem limit_eq (placed : chain.PlacedAt limit place engine) :
    engine.request.limit? = limit := by
  obtain ⟨cursor, request⟩ := placed.asks.exists_cursor
  rw [request]
  rfl

theorem inFlight_eq (placed : chain.PlacedAt limit place engine) :
    engine.inFlight = false := by
  simp [Engine.inFlight, placed.grounded]

theorem currentCursor?_eq (placed : chain.PlacedAt limit place engine) :
    engine.currentCursor? = some (chain.cursor place) := by
  simp [Engine.currentCursor?, placed.shows, info]

theorem hasNext_eq (placed : chain.PlacedAt limit place engine) :
    engine.availability.hasNext = (chain.next? place).isSome := by
  simp [Engine.availability, placed.shows, PageInfo.availability, nextCursor_info]

theorem hasPrevious_eq (placed : chain.PlacedAt limit place engine) :
    engine.availability.hasPrevious =
      (engine.cache.previous? (chain.cursor place)).isSome := by
  simp [Engine.availability, placed.shows, PageInfo.availability, info]

theorem loadNext_of_last (placed : chain.PlacedAt limit place engine)
    (last : chain.next? place = none) : engine.loadNext = (engine, .none) := by
  simp [Engine.loadNext, placed.hasNext_eq, last]

theorem loadNext_of_next? (placed : chain.PlacedAt limit place engine)
    (leads : chain.next? place = some target) :
    engine.loadNext =
      engine.depart .next (some (chain.cursor place)) (chain.request limit target) := by
  have derived : engine.nextRequest = .ok (chain.request limit target) := by
    simp [Engine.nextRequest, Engine.requirePage, placed.shows, nextCursor_info, leads,
      placed.limit_eq, request, bind, Except.bind]
  simp [Engine.loadNext, placed.inFlight_eq, placed.hasNext_eq, leads, derived,
    placed.currentCursor?_eq, Engine.departWith]

theorem loadPrevious_eq (placed : chain.PlacedAt limit place engine) :
    engine.loadPrevious = engine.departWith .previous none engine.previousRequest := by
  simp [Engine.loadPrevious, placed.inFlight_eq, placed.shows]

theorem loadPrevious_of_unknown (placed : chain.PlacedAt limit place engine)
    (unknown : engine.cache.previous? (chain.cursor place) = none) :
    engine.loadPrevious =
      (engine, .failed (.pagination (.noPreviousCursor (chain.cursor place)))) := by
  have derived : engine.previousRequest =
      .error (.pagination (.noPreviousCursor (chain.cursor place))) := by
    simp [Engine.previousRequest, Engine.requirePage, placed.shows, info, unknown, bind,
      Except.bind]
  rw [placed.loadPrevious_eq, derived]
  rfl

theorem loadPrevious_of_known (placed : chain.PlacedAt limit place engine)
    (known : engine.cache.previous? (chain.cursor place) = some (chain.cursor target)) :
    engine.loadPrevious = engine.depart .previous none (chain.request limit target) := by
  have derived : engine.previousRequest = .ok (chain.request limit target) := by
    simp [Engine.previousRequest, Engine.requirePage, placed.shows, info, known,
      placed.limit_eq, request, bind, Except.bind]
  rw [placed.loadPrevious_eq, derived]
  rfl

theorem refetch_eq (placed : chain.PlacedAt limit place engine) :
    engine.refetch none = engine.depart .refetch none engine.request := by
  simp [Engine.refetch, placed.inFlight_eq]

/-- A step back that the history does not know of is refused. -/
theorem visit_previous_of_unknown (placed : chain.PlacedAt limit place engine)
    (unknown : engine.cache.previous? (chain.cursor place) = none) {visit : Visit}
    (navigates : visit.navigation = .previous) :
    engine.visit visit =
      (engine, .refused (.pagination (.noPreviousCursor (chain.cursor place)))) := by
  simp [Engine.visit, navigates, Navigation.start, Start.begin,
    placed.loadPrevious_of_unknown unknown]

end PlacedAt

/-- The engine that a fetched page of the chain leaves behind. -/
theorem placedAt_arrived {request : Pagination} (asks : chain.Asks limit target request)
    (flight : Flight) (engine : Engine) :
    chain.PlacedAt limit target
      ((engine.aloft request flight).arrived flight (.cursor (chain.info target))) where
  grounded := rfl
  asks := asks
  shows := rfl

end CursorChain
end CatalogQuery
