import CatalogQuery.Proofs.Pagination.ChainPlace

/-!
# Walking along a chain of cursors

An engine that walks along a chain behaves as an index into it, whatever the
order of the calls and whichever fetches fail.  The invariant is `BookmarkAt`:
the engine shows the page at the index, asks for it again when it refetches, and
knows the way back from that page and from every page before it.
-/

namespace CatalogQuery
namespace CursorChain

/-- An engine that is at a page of the chain, as far as its calls can tell. -/
structure BookmarkAt (chain : CursorChain) (limit : Option Count) (place : chain.Place)
    (engine : Engine) : Prop where
  grounded : engine.flight = none
  asks : chain.Asks limit place engine.request
  shows : engine.pageInfo = some (.cursor (chain.info place))
  unbounded : engine.cache.bound = none
  /-- The way back is known from the page and from every page before it. -/
  behind : ∀ earlier : chain.Place, earlier ≤ place →
    engine.cache.previous? (chain.cursor earlier) =
      (chain.previous? earlier).map chain.cursor

variable {chain : CursorChain} {limit : Option Count} {place target : chain.Place}
  {engine : Engine}

namespace BookmarkAt

theorem placed (bookmark : chain.BookmarkAt limit place engine) :
    chain.PlacedAt limit place engine :=
  ⟨bookmark.grounded, bookmark.asks, bookmark.shows⟩

theorem previous?_eq (bookmark : chain.BookmarkAt limit place engine) :
    engine.cache.previous? (chain.cursor place) =
      (chain.previous? place).map chain.cursor :=
  bookmark.behind place (Fin.le_refl place)

theorem hasPrevious_eq (bookmark : chain.BookmarkAt limit place engine) :
    engine.availability.hasPrevious = (chain.previous? place).isSome := by
  rw [bookmark.placed.hasPrevious_eq, bookmark.previous?_eq, Option.isSome_map]

/-- A fetch that loads the page at an earlier index, or at the same one, leads
there. -/
theorem arrived_back (bookmark : chain.BookmarkAt limit place engine) (back : target ≤ place)
    {request : Pagination} (asks : chain.Asks limit target request) (flight : Flight)
    (origin : flight.origin = none) :
    chain.BookmarkAt limit target
      ((engine.aloft request flight).arrived flight (.cursor (chain.info target))) where
  grounded := rfl
  asks := asks
  shows := rfl
  unbounded := by simp [Engine.arrived, Engine.aloft, bookmark.unbounded]
  behind := by
    intro earlier before
    have kept := Engine.previous?_rememberNext bookmark.unbounded
      (.cursor (chain.info target)) (chain.cursor earlier)
    simp only [Engine.arrived, Engine.aloft, Engine.rememberOrigin, origin]
    rw [kept]
    exact bookmark.behind earlier (Fin.le_trans before back)

/-- A fetch that loads the next page leads there, and the way back is the page
that was left. -/
theorem arrived_forward (bookmark : chain.BookmarkAt limit place engine)
    (leads : chain.next? place = some target) {request : Pagination}
    (asks : chain.Asks limit target request) (flight : Flight)
    (origin : flight.origin = some (chain.cursor place)) :
    chain.BookmarkAt limit target
      ((engine.aloft request flight).arrived flight (.cursor (chain.info target))) where
  grounded := rfl
  asks := asks
  shows := rfl
  unbounded := by simp [Engine.arrived, Engine.aloft, bookmark.unbounded]
  behind := by
    have step := val_of_next? leads
    have other : chain.cursor target ≠ chain.cursor place := by
      intro same
      have := congrArg Fin.val (cursor_inj.mp same)
      omega
    have seen : (Engine.rememberNext (.cursor (chain.info target)) engine.cache).bound = none := by
      rw [Engine.bound_rememberNext, bookmark.unbounded]
    intro earlier before
    have arrives : (chain.info target).currentCursor = chain.cursor target := rfl
    simp only [Engine.arrived, Engine.aloft, Engine.rememberOrigin, origin, arrives, other,
      if_false]
    -- Only the link of the page that was reached is new; its cursor is no earlier one's.
    by_cases reached : earlier = target
    · rw [reached, CursorCache.previous?_recordPrevious_self, previous?_of_next? leads]
      rfl
    · have behind : earlier ≤ place := by
        have : earlier.val ≠ target.val := fun same => reached (Fin.ext same)
        have : earlier.val ≤ target.val := before
        exact Fin.le_def.mpr (by omega)
      have apart : chain.cursor earlier ≠ chain.cursor target := fun same =>
        reached (cursor_inj.mp same)
      have room : CursorCache.HasRoom (chain.cursor target) _ :=
        CursorCache.hasRoom_of_unbounded seen
      rw [CursorCache.previous?_recordPrevious_of_room room _ apart,
        Engine.previous?_rememberNext bookmark.unbounded]
      exact bookmark.behind earlier behind

/-- A fetch of a page leads there if it succeeds, and nowhere if it fails. -/
theorem visit_toward (bookmark : chain.BookmarkAt limit place engine) {visit : Visit}
    {origin : Option Text} {request : Pagination}
    (begins : visit.navigation.start.begin engine =
      engine.depart visit.navigation origin request)
    (asks : chain.Asks limit target request) (serves : chain.Serves limit visit.reply)
    (arrives : ∀ flight : Flight, flight.origin = origin →
      chain.BookmarkAt limit target
        ((engine.aloft request flight).arrived flight (.cursor (chain.info target)))) :
    (engine.visit visit).2 = .fetched request (visit.reply request).read ∧
      chain.BookmarkAt limit (if (visit.reply request).read.isOk then target else place)
        (engine.visit visit).1 := by
  rcases CursorChain.visit_toward bookmark.grounded begins asks serves with
    ⟨failure, read, visited⟩ | ⟨page, flight, read, _, left, visited⟩
  · rw [visited, read]
    exact ⟨rfl, bookmark⟩
  · rw [visited, read]
    exact ⟨rfl, arrives flight left⟩

theorem visit_next (bookmark : chain.BookmarkAt limit place engine) {visit : Visit}
    (navigates : visit.navigation = .next) (serves : chain.Serves limit visit.reply) :
    chain.Tells limit place engine visit ∧
      chain.BookmarkAt limit (chain.move limit place visit) (engine.visit visit).1 := by
  simp only [Tells, move, navigates]
  cases leads : chain.next? place with
  | none =>
      have stays : engine.visit visit = (engine, .nothing) := by
        simp [Engine.visit, navigates, Navigation.start, Start.begin,
          bookmark.placed.loadNext_of_last leads]
      rw [stays]
      exact ⟨rfl, bookmark⟩
  | some target =>
      have asks : chain.Asks limit target (chain.request limit target) := Or.inl rfl
      have begins : visit.navigation.start.begin engine =
          engine.depart visit.navigation (some (chain.cursor place))
            (chain.request limit target) := by
        rw [navigates]
        exact bookmark.placed.loadNext_of_next? leads
      exact bookmark.visit_toward begins asks serves (bookmark.arrived_forward leads asks)

theorem visit_previous (bookmark : chain.BookmarkAt limit place engine) {visit : Visit}
    (navigates : visit.navigation = .previous) (serves : chain.Serves limit visit.reply) :
    chain.Tells limit place engine visit ∧
      chain.BookmarkAt limit (chain.move limit place visit) (engine.visit visit).1 := by
  simp only [Tells, move, navigates]
  have known := bookmark.previous?_eq
  cases leads : chain.previous? place with
  | none =>
      rw [leads] at known
      have stays := bookmark.placed.visit_previous_of_unknown known navigates
      rw [stays]
      exact ⟨rfl, bookmark⟩
  | some target =>
      have asks : chain.Asks limit target (chain.request limit target) := Or.inl rfl
      have begins : visit.navigation.start.begin engine =
          engine.depart visit.navigation none (chain.request limit target) := by
        rw [leads] at known
        rw [navigates]
        exact bookmark.placed.loadPrevious_of_known known
      have back : target ≤ place := by
        have := (val_of_previous? leads).2
        exact Fin.le_def.mpr (by omega)
      exact bookmark.visit_toward begins asks serves (bookmark.arrived_back back asks)

theorem visit_refetch (bookmark : chain.BookmarkAt limit place engine) {visit : Visit}
    (navigates : visit.navigation = .refetch) (serves : chain.Serves limit visit.reply) :
    chain.Tells limit place engine visit ∧
      chain.BookmarkAt limit (chain.move limit place visit) (engine.visit visit).1 := by
  have begins : visit.navigation.start.begin engine =
      engine.depart visit.navigation none engine.request := by
    rw [navigates]
    exact bookmark.placed.refetch_eq
  obtain ⟨shown, after⟩ := bookmark.visit_toward begins bookmark.asks serves
    (bookmark.arrived_back (Fin.le_refl place) bookmark.asks)
  rw [ite_self] at after
  simp only [Tells, move, navigates]
  exact ⟨⟨engine.request, bookmark.asks, shown⟩, after⟩

/-- Every call at an index does what the index does, and leads to the index that
it moves to. -/
theorem visit_step (bookmark : chain.BookmarkAt limit place engine) (visit : Visit)
    (serves : chain.Serves limit visit.reply) :
    chain.Tells limit place engine visit ∧
      chain.BookmarkAt limit (chain.move limit place visit) (engine.visit visit).1 := by
  cases navigates : visit.navigation with
  | next => exact bookmark.visit_next navigates serves
  | previous => exact bookmark.visit_previous navigates serves
  | refetch => exact bookmark.visit_refetch navigates serves

theorem indexedBy (bookmark : chain.BookmarkAt limit place engine) :
    chain.IndexedBy limit place engine where
  idle := Engine.state_eq_idle_iff.mpr bookmark.grounded
  cursor := bookmark.placed.currentCursor?_eq
  hasNext := by rw [bookmark.placed.hasNext_eq, isSome_next?]
  hasPrevious := by rw [bookmark.hasPrevious_eq, isSome_previous?]
  tells := fun visit serves => (bookmark.visit_step visit serves).1

theorem walk (bookmark : chain.BookmarkAt limit place engine) {visits : List Visit}
    (serves : ∀ visit ∈ visits, chain.Serves limit visit.reply) :
    chain.BookmarkAt limit (visits.foldl (chain.move limit) place) (engine.walk visits).1 := by
  -- The bookmark is what each call hands on to the next.
  induction visits generalizing place engine with
  | nil => exact bookmark
  | cons first rest ih =>
      have step := (bookmark.visit_step first (serves first (by simp))).2
      exact ih step fun visit member => serves visit (by simp [member])

theorem visit_request? (bookmark : chain.BookmarkAt limit place engine) {visit : Visit}
    (serves : chain.Serves limit visit.reply) {request : Pagination}
    (sent : (engine.visit visit).2.request? = some request) :
    ∃ cursor, request = .cursor ⟨cursor, limit⟩ := by
  have tells := (bookmark.visit_step visit serves).1
  unfold Tells at tells
  split at tells
  · split at tells
    · simp [tells, Sighting.request?] at sent
    · rw [tells] at sent
      exact ⟨_, (Option.some.inj sent).symm⟩
  · split at tells
    · simp [tells, Sighting.request?] at sent
    · rw [tells] at sent
      exact ⟨_, (Option.some.inj sent).symm⟩
  · obtain ⟨asked, asks, shown⟩ := tells
    rw [shown] at sent
    rw [← Option.some.inj sent]
    exact asks.exists_cursor

/-- Every request that is sent along the way is by cursor and has the limit. -/
theorem walk_request? (bookmark : chain.BookmarkAt limit place engine) {visits : List Visit}
    (serves : ∀ visit ∈ visits, chain.Serves limit visit.reply) {sighting : Sighting}
    (seen : sighting ∈ (engine.walk visits).2) {request : Pagination}
    (sent : sighting.request? = some request) : ∃ cursor, request = .cursor ⟨cursor, limit⟩ := by
  induction visits generalizing place engine with
  | nil => cases seen
  | cons first rest ih =>
      have served := serves first (by simp)
      rcases List.mem_cons.mp seen with now | later
      · exact bookmark.visit_request? served (now ▸ sent)
      · exact ih (bookmark.visit_step first served).2
          (fun visit member => serves visit (by simp [member])) later

end BookmarkAt

/-- A first fetch that loads a page leads to the first page, and is sent with the
limit. -/
theorem visit_opening (chain : CursorChain) (limit : Option Count) {visit : Visit}
    (refetches : visit.navigation = .refetch)
    (loads : (visit.reply (.cursor ⟨none, limit⟩)).read.isOk = true)
    (serves : chain.Serves limit visit.reply) :
    chain.BookmarkAt limit chain.first
        ((Engine.start (.cursor ⟨none, limit⟩) (.empty none)).visit visit).1 ∧
      ((Engine.start (.cursor ⟨none, limit⟩) (.empty none)).visit visit).2.request? =
        some (.cursor ⟨none, limit⟩) := by
  have asks : chain.Asks limit chain.first (.cursor ⟨none, limit⟩) := Or.inr ⟨rfl, rfl⟩
  have begins : visit.navigation.start.begin
      (Engine.start (.cursor ⟨none, limit⟩) (.empty none)) =
        (Engine.start (.cursor ⟨none, limit⟩) (.empty none)).depart visit.navigation none
          (.cursor ⟨none, limit⟩) := by
    rw [refetches]
    exact Engine.start_refetch _ _
  rcases visit_toward rfl begins asks serves with
    ⟨failure, read, _⟩ | ⟨page, flight, _, _, left, visited⟩
  · rw [read] at loads
    cases loads
  · rw [visited]
    obtain ⟨grounded, asks, shows⟩ := placedAt_arrived asks flight
      (Engine.start (.cursor ⟨none, limit⟩) (.empty none))
    have fresh : (Engine.start (.cursor ⟨none, limit⟩) (.empty none)).cache.bound = none := rfl
    refine ⟨⟨grounded, asks, shows, ?_, ?_⟩, rfl⟩
    · simp [Engine.arrived, Engine.aloft, fresh]
    · intro earlier before
      have opens : chain.previous? earlier = none := by
        have : earlier.val ≤ 0 := before
        unfold previous?
        rw [if_neg (by omega)]
      simp only [Engine.arrived, Engine.aloft, Engine.rememberOrigin, left]
      rw [Engine.previous?_rememberNext fresh, opens]
      rfl

/-- An engine that was started with a limit and has loaded its first page behaves
as an index into the chain, from the first page on, whatever the calls and
whichever of their fetches fail.  Every request has the limit. -/
theorem walk_follows_index (chain : CursorChain) (limit : Option Count) {opening : Visit}
    {rest : List Visit} (refetches : opening.navigation = .refetch)
    (loads : (opening.reply (.cursor ⟨none, limit⟩)).read.isOk = true)
    (serves : ∀ visit ∈ opening :: rest, chain.Serves limit visit.reply) :
    let walked := (Engine.start (.cursor ⟨none, limit⟩) (.empty none)).walk (opening :: rest)
    chain.IndexedBy limit (rest.foldl (chain.move limit) chain.first) walked.1 ∧
      ∀ sighting ∈ walked.2, ∀ request, sighting.request? = some request →
        request.mode = .cursor ∧ request.limit? = limit := by
  intro walked
  obtain ⟨bookmark, sent_first⟩ := visit_opening chain limit refetches loads
    (serves opening (by simp))
  have serves_rest : ∀ visit ∈ rest, chain.Serves limit visit.reply := fun visit member =>
    serves visit (by simp [member])
  refine ⟨(bookmark.walk serves_rest).indexedBy, ?_⟩
  intro sighting seen request sent
  have named : ∃ cursor, request = .cursor ⟨cursor, limit⟩ := by
    rcases List.mem_cons.mp seen with now | later
    · have same : sighting.request? = some (.cursor ⟨none, limit⟩) := by
        rw [now]
        exact sent_first
      exact ⟨none, Option.some.inj (sent.symm.trans same)⟩
    · exact bookmark.walk_request? serves_rest later sent
  obtain ⟨cursor, rfl⟩ := named
  exact ⟨rfl, rfl⟩

/-- Two pages, of which the first has the empty cursor: a step forward, a step
back that is cancelled, a step back, and one that has nowhere to go. -/
theorem there_and_back_from_empty_cursor :
    let chain : CursorChain := ⟨["", "b"], by decide, by decide⟩
    let opening : Visit := ⟨.refetch, chain.serve⟩
    let rest : List Visit :=
      [⟨.next, chain.serve⟩, ⟨.previous, fun _ => .cancelled⟩, ⟨.previous, chain.serve⟩,
        ⟨.previous, chain.serve⟩]
    (opening.reply (.cursor ⟨none, none⟩)).read.isOk = true ∧
      (∀ visit ∈ opening :: rest, chain.Serves none visit.reply) ∧
        chain.IndexedBy none chain.first
          ((Engine.start (.cursor ⟨none, none⟩) (.empty none)).walk (opening :: rest)).1 := by
  intro chain opening rest
  have serves : ∀ visit ∈ opening :: rest, chain.Serves none visit.reply := by
    intro visit member
    simp only [opening, rest, List.mem_cons, List.not_mem_nil, or_false] at member
    rcases member with rfl | rfl | rfl | rfl | rfl
    · exact serves_serve
    · exact serves_serve
    · exact serves_cancelled
    · exact serves_serve
    · exact serves_serve
  refine ⟨rfl, serves, ?_⟩
  exact (walk_follows_index chain none rfl rfl serves).1

end CursorChain
end CatalogQuery
