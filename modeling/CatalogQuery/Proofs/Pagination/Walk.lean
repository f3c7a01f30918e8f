import CatalogQuery.Proofs.Pagination.Rollback

/-!
# Walks

A walk is made of calls that navigate and follow each other, each of which ends, one
way or another, before the next one.  A call whose fetch fails leaves the engine as
it was, and one whose fetch brings a page in the right mode takes note of the page
(`visit_of_departs`).
-/

namespace CatalogQuery

/-- A call that navigates, with what its fetch would come to. -/
structure Visit where
  navigation : Navigation
  /-- What comes of each request that could be sent. -/
  reply : Pagination → Fetched

/-- What shows of a call that navigates. -/
inductive Sighting where
  /-- Nothing was given back, without a fetch. -/
  | nothing
  /-- The call failed without a fetch. -/
  | refused (failure : Failure)
  /-- A request was sent, and this came of it. -/
  | fetched (request : Pagination) (result : Outcome PageResponse)

/-- Whether a page was loaded. -/
def Sighting.isLoaded : Sighting → Bool
  | fetched _ (.ok _) => true
  | _ => false

/-- How a navigation is asked for; a refetch is given no request. -/
def Navigation.start : Navigation → Start
  | next => .next
  | previous => .previous
  | refetch => .refetch none

/-- The request that was sent, if one was. -/
def Sighting.request? : Sighting → Option Pagination
  | fetched request _ => some request
  | _ => none

namespace Engine

/-- The engine after a call whose fetch, if there is one, has ended. -/
def visit (engine : Engine) (visit : Visit) : Engine × Sighting :=
  match visit.navigation.start.begin engine with
  | (engine, .none) => (engine, .nothing)
  | (engine, .failed failure) => (engine, .refused failure)
  | (engine, .fetching request) =>
      let (engine, result) := engine.land (visit.reply request).read
      (engine, .fetched request result)

/-- The engine after calls that follow each other, with what showed of each. -/
def walk (engine : Engine) : List Visit → Engine × List Sighting
  | [] => (engine, [])
  | first :: rest =>
      let (engine, sighting) := engine.visit first
      let (engine, sightings) := engine.walk rest
      (engine, sighting :: sightings)

theorem walk_cons (engine : Engine) (visit : Visit) (rest : List Visit) :
    engine.walk (visit :: rest) =
      (((engine.visit visit).1.walk rest).1,
        (engine.visit visit).2 :: ((engine.visit visit).1.walk rest).2) :=
  rfl

theorem walk_append (engine : Engine) (first second : List Visit) :
    engine.walk (first ++ second) =
      (((engine.walk first).1.walk second).1,
        (engine.walk first).2 ++ ((engine.walk first).1.walk second).2) := by
  induction first generalizing engine with
  | nil => rfl
  | cons visit rest ih => rw [List.cons_append, walk_cons, walk_cons, ih, List.cons_append]

/-- A fetch brings a page or leaves the engine as it was. -/
theorem visit_of_departs {engine : Engine} (grounded : engine.flight = none) {visit : Visit}
    {origin : Option Text} {request : Pagination}
    (begins : visit.navigation.start.begin engine =
      engine.depart visit.navigation origin request)
    (mode : ∀ page, (visit.reply request).read = .ok page →
      page.pageInfo.mode = request.mode) :
    (∃ failure, (visit.reply request).read = .error failure ∧
        engine.visit visit = (engine, .fetched request (.error failure))) ∨
      ∃ page flight, (visit.reply request).read = .ok page ∧ flight.origin = origin ∧
        engine.visit visit =
          ((engine.aloft request flight).arrived flight page.pageInfo,
            .fetched request (.ok page)) := by
  let flight : Flight := ⟨visit.navigation, engine.request, origin⟩
  have flies : (engine.aloft request flight).flight = some flight := rfl
  have visited : engine.visit visit =
      (((engine.aloft request flight).land (visit.reply request).read).1,
        .fetched request ((engine.aloft request flight).land (visit.reply request).read).2) := by
    simp only [Engine.visit, begins, Engine.depart]
    rfl
  rw [visited]
  cases read : (visit.reply request).read with
  | error failure =>
      -- The old request is put back, and nothing else was touched.
      have back : (engine.aloft request flight).rolledBack flight = engine := by
        simp [Engine.rolledBack, Engine.aloft, flight, ← grounded]
      rw [Engine.land_of_error flies, back]
      exact Or.inl ⟨failure, rfl, rfl⟩
  | ok page =>
      rw [Engine.land_of_page flies (mode page read)]
      exact Or.inr ⟨page, flight, rfl, rfl, rfl⟩

theorem start_refetch (request : Pagination) (cache : CursorCache) :
    (Navigation.start .refetch).begin (Engine.start request cache) =
      (Engine.start request cache).depart .refetch none request := by
  simp [Navigation.start, Start.begin, Engine.refetch, Engine.start, Engine.inFlight]

end Engine
end CatalogQuery
