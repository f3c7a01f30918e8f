import CatalogQuery.Proofs.Pagination.ChainPlace
import CatalogQuery.Proofs.Pagination.Recency

/-!
# How far back a bounded history reaches

An engine with a bounded history that walks forward along a chain of cursors can
walk back as many pages as it has come, but at most as many as the bound
(`history_reaches_back`).

On the way forward the history holds the cursors seen last (`trail`), so the way
back is lost from the page that the bound leaves behind and from all pages before
it.  On the way back the pages are still remembered, so nothing is forgotten before
the last page that can be reached, and the way back from there is not known: the
history goes on knowing the way back from the same pages (`Knows`).
-/

namespace CatalogQuery

namespace CursorChain

variable (chain : CursorChain)

/-- A server that always brings the page of the chain that is asked for. -/
def Answers (limit : Option Count) (reply : Pagination → Fetched) : Prop :=
  ∀ place request, chain.Asks limit place request →
    ∃ page, (reply request).read = .ok page ∧ page.pageInfo = .cursor (chain.info place)

/-- What a step back comes to at a page, if there are more pages to go back to and if
there are none. -/
structure Retreats (limit : Option Count) (place : chain.Place) (more : Bool)
    (engine : Engine) : Prop where
  idle : engine.state = .idle
  cursor : engine.currentCursor? = some (chain.cursor place)
  hasPrevious : engine.availability.hasPrevious = more
  onward : more = true → ∃ target, chain.previous? place = some target ∧
    ∀ visit, visit.navigation = .previous → chain.Answers limit visit.reply →
      ∃ page, (engine.visit visit).2 = .fetched (chain.request limit target) (.ok page) ∧
        page.pageInfo = .cursor (chain.info target)
  ends : more = false → ∀ visit, visit.navigation = .previous →
    engine.visit visit =
      (engine, .refused (.pagination (.noPreviousCursor (chain.cursor place))))

/-- The cursors of the pages seen last on the way to a page, as many as fit. -/
def trail (bound : Count) (place : chain.Place) : List Text :=
  (chain.cursors.take (place.val + 1)).drop (place.val + 1 - bound.val)

/-- The history after a step forward from a page to another one. -/
def advance (place target : chain.Place) (cache : CursorCache) : CursorCache :=
  (Engine.rememberNext (.cursor (chain.info target)) cache).recordPrevious
    (chain.cursor target) (chain.cursor place)

/-- A history that knows the way back from the pages above a floor, and from no other
page up to a place. -/
structure Knows (bound : Count) (floor : Nat) (place : chain.Place) (cache : CursorCache) :
    Prop where
  bounded : cache.bound = some bound
  fits : cache.size ≤ bound.val
  distinct : cache.Distinct
  behind : ∀ earlier : chain.Place, earlier ≤ place →
    cache.previous? (chain.cursor earlier) =
      if floor < earlier.val then (chain.previous? earlier).map chain.cursor else none

/-- An engine at a page from which it can go back to the floor. -/
structure ReachAt (limit : Option Count) (bound : Count) (floor : Nat)
    (place : chain.Place) (engine : Engine) : Prop where
  placed : chain.PlacedAt limit place engine
  knows : chain.Knows bound floor place engine.cache

/-- An engine that has only walked forward. -/
structure TrailAt (limit : Option Count) (bound : Count) (place : chain.Place)
    (engine : Engine) : Prop where
  placed : chain.PlacedAt limit place engine
  knows : chain.Knows bound (place.val - bound.val) place engine.cache
  /-- A chain of one page leaves no trail. -/
  trail : chain.next? place ≠ none ∨ 0 < place.val →
    engine.cache.cursors = chain.trail bound place

variable {chain} {limit : Option Count} {bound : Count} {floor : Nat}
  {place target earlier : chain.Place} {engine : Engine} {cache : CursorCache}

theorem Answers.serves {reply : Pagination → Fetched} (answers : chain.Answers limit reply) :
    chain.Serves limit reply := by
  intro place request asks page read
  obtain ⟨answer, given, described⟩ := answers place request asks
  rw [given] at read
  rw [← Except.ok.inj read]
  exact described

theorem answers_serve : chain.Answers limit chain.serve := by
  intro place request asks
  refine ⟨⟨[], .cursor (chain.info place)⟩, ?_, rfl⟩
  rw [serve_of_asks asks]
  rfl

/-- A fetch from such a server brings the page. -/
theorem Answers.visit_toward {visit : Visit} (answers : chain.Answers limit visit.reply)
    (grounded : engine.flight = none) {origin : Option Text} {request : Pagination}
    (begins : visit.navigation.start.begin engine =
      engine.depart visit.navigation origin request)
    (asks : chain.Asks limit target request) :
    ∃ page flight, page.pageInfo = .cursor (chain.info target) ∧ flight.origin = origin ∧
      engine.visit visit =
        ((engine.aloft request flight).arrived flight (.cursor (chain.info target)),
          .fetched request (.ok page)) := by
  obtain ⟨answer, given, _⟩ := answers target request asks
  rcases CursorChain.visit_toward grounded begins asks answers.serves with
    ⟨failure, read, _⟩ | ⟨page, flight, _, described, left, visited⟩
  · rw [given] at read
    cases read
  · exact ⟨page, flight, described, left, visited⟩

/-! ## The history along the chain -/

theorem cursor_mem_trail :
    chain.cursor earlier ∈ chain.trail bound place ↔
      place.val + 1 - bound.val ≤ earlier.val ∧ earlier.val ≤ place.val := by
  have short := place.isLt
  constructor
  · intro member
    obtain ⟨index, inside, found⟩ := List.mem_iff_getElem.mp member
    simp only [trail, List.length_drop, List.length_take] at inside
    simp only [trail, List.getElem_drop, List.getElem_take] at found
    have same := (List.getElem_inj chain.distinct).mp found
    omega
  · rintro ⟨recently, before⟩
    refine List.mem_iff_getElem.mpr ⟨earlier.val - (place.val + 1 - bound.val), ?_, ?_⟩
    · simp only [trail, List.length_drop, List.length_take]
      omega
    · simp only [trail, List.getElem_drop, List.getElem_take]
      congr 1
      omega

theorem trail_first : chain.trail bound chain.first = [chain.cursor chain.first] := by
  have positive := bound.property
  have only : (1 : Nat) - bound.val = 0 := by omega
  have first : chain.cursors.take 1 = [chain.cursor chain.first] := by
    have := List.take_succ_eq_append_getElem chain.nonempty
    simpa [cursor, CursorChain.first] using this
  simp [trail, CursorChain.first, only, first]

/-- The trail moves along with the pages. -/
theorem recent_trail (leads : chain.next? place = some target) :
    recent bound (chain.cursor target) (chain.trail bound place) = chain.trail bound target := by
  have step := val_of_next? leads
  have short := target.isLt
  have positive := bound.property
  have absent : chain.cursor target ∉ chain.trail bound place := by
    rw [cursor_mem_trail]
    omega
  have extended : chain.cursors.take (target.val + 1) =
      chain.cursors.take (place.val + 1) ++ [chain.cursor target] := by
    rw [← step]
    exact List.take_succ_eq_append_getElem target.isLt
  have passed : (chain.cursors.take (place.val + 1)).length = place.val + 1 := by
    rw [List.length_take]
    omega
  have stays : target.val + 1 - bound.val ≤ (chain.cursors.take (place.val + 1)).length := by
    omega
  rw [recent_eq_concat, filter_ne_of_not_mem absent, trail, trail, extended,
    List.drop_append_of_le_length stays, List.drop_drop, List.length_drop, passed]
  congr 2
  omega

namespace Knows

theorem previous?_eq (knows : chain.Knows bound floor place cache) :
    cache.previous? (chain.cursor place) =
      if floor < place.val then (chain.previous? place).map chain.cursor else none :=
  knows.behind place (Fin.le_refl place)

/-- The pages above the floor are remembered, so there is room for them. -/
theorem hasRoom (knows : chain.Knows bound floor place cache) (back : target ≤ place)
    (above : floor < target.val) : cache.HasRoom (chain.cursor target) := by
  have leads : chain.previous? target = some ⟨target.val - 1, by omega⟩ := if_pos (by omega)
  have known := knows.behind target back
  rw [if_pos above, leads] at known
  refine CursorCache.hasRoom_of_mem ?_ (CursorCache.mem_cursors_of_previous? known)
  intro count bounded
  rw [knows.bounded] at bounded
  rw [← Option.some.inj bounded]
  exact knows.fits

/-- Seeing a page again keeps the ways back from the pages above the floor. -/
theorem rememberNext (knows : chain.Knows bound floor place cache) (back : target ≤ place) :
    chain.Knows bound floor target
      (Engine.rememberNext (.cursor (chain.info target)) cache) where
  bounded := (Engine.bound_rememberNext _ _).trans knows.bounded
  fits := Engine.size_rememberNext_le knows.bounded knows.fits _
  distinct := Engine.distinct_rememberNext knows.distinct _
  behind := by
    intro earlier before
    have behind := knows.behind earlier (Fin.le_trans before back)
    by_cases above : floor < earlier.val
    · -- The page that is seen again is above the floor too, so nothing is forgotten for it.
      have reached : floor < target.val := Nat.lt_of_lt_of_le above before
      have room : cache.HasRoom (chain.info target).currentCursor := knows.hasRoom back reached
      rw [Engine.previous?_rememberNext_of_room room]
      exact behind
    · -- Below the floor a way back may only be forgotten, and there is none.
      rw [if_neg above] at behind ⊢
      rcases Engine.backWithin_rememberNext knows.distinct (.cursor (chain.info target))
        (chain.cursor earlier) with same | forgotten
      · rw [same]
        exact behind
      · exact forgotten

/-- A step forward moves the trail along. -/
theorem cursors_advance (knows : chain.Knows bound floor place cache)
    (trail : cache.cursors = chain.trail bound place)
    (leads : chain.next? place = some target) :
    (chain.advance place target cache).cursors = chain.trail bound target := by
  have moved := Engine.cursors_recordPrevious_rememberNext knows.bounded (chain.info target)
    (chain.cursor place)
  rw [trail] at moved
  exact moved.trans (recent_trail leads)

/-- A page that is remembered after a step forward has the way back that it had. -/
theorem previous?_advance_of_mem (knows : chain.Knows bound floor place cache)
    (apart : chain.cursor earlier ≠ chain.cursor target)
    (kept : chain.cursor earlier ∈ (chain.advance place target cache).cursors) :
    (chain.advance place target cache).previous? (chain.cursor earlier) =
      cache.previous? (chain.cursor earlier) := by
  have seen := Engine.distinct_rememberNext knows.distinct (.cursor (chain.info target))
  have before := CursorCache.mem_cursors_of_mem_record apart kept
  calc
    _ = (Engine.rememberNext (.cursor (chain.info target)) cache).previous?
          (chain.cursor earlier) := CursorCache.previous?_record_of_mem seen _ apart kept
    _ = _ := Engine.previous?_rememberNext_of_mem knows.distinct _ before

/-- A step forward raises the floor to the page that no longer fits. -/
theorem previous?_advance (knows : chain.Knows bound (place.val - bound.val) place cache)
    (trail : cache.cursors = chain.trail bound place)
    (leads : chain.next? place = some target) (before : earlier ≤ target) :
    (chain.advance place target cache).previous? (chain.cursor earlier) =
      if target.val - bound.val < earlier.val then (chain.previous? earlier).map chain.cursor
      else none := by
  have step := val_of_next? leads
  have positive := bound.property
  have cursors := knows.cursors_advance trail leads
  by_cases arrives : earlier = target
  · rw [arrives, advance, CursorCache.previous?_recordPrevious_self, previous?_of_next? leads,
      if_pos (by omega)]
    rfl
  · have apart : chain.cursor earlier ≠ chain.cursor target := fun same =>
      arrives (cursor_inj.mp same)
    have behind : earlier ≤ place := by
      have : earlier.val ≠ target.val := fun same => arrives (Fin.ext same)
      have : earlier.val ≤ target.val := before
      exact Fin.le_def.mpr (by omega)
    by_cases kept : chain.cursor earlier ∈ chain.trail bound target
    · -- A page that is kept lies above both floors, or it is the first one.
      have recently := (cursor_mem_trail.mp kept).1
      rw [knows.previous?_advance_of_mem apart (cursors ▸ kept), knows.behind earlier behind]
      by_cases first : earlier.val = 0
      · have opens : chain.previous? earlier = none := if_neg (by omega)
        simp [opens]
      · rw [if_pos (by omega), if_pos (by omega)]
    · have old : ¬ target.val - bound.val < earlier.val := by
        intro recently
        exact kept (cursor_mem_trail.mpr ⟨by omega, before⟩)
      rw [if_neg old]
      exact CursorCache.previous?_eq_none_of_not_mem (cursors ▸ kept)

theorem advance (knows : chain.Knows bound (place.val - bound.val) place cache)
    (trail : cache.cursors = chain.trail bound place)
    (leads : chain.next? place = some target) :
    chain.Knows bound (target.val - bound.val) target (chain.advance place target cache) where
  bounded := (Engine.bound_rememberNext _ _).trans knows.bounded
  fits := by
    rw [CursorCache.size_eq_length, knows.cursors_advance trail leads]
    simp only [CursorChain.trail, List.length_drop, List.length_take]
    omega
  distinct := by
    have seen := Engine.distinct_rememberNext knows.distinct (.cursor (chain.info target))
    exact CursorCache.distinct_record seen _ _
  behind := fun _ before => knows.previous?_advance trail leads before

end Knows

/-! ## Back to the floor -/

namespace ReachAt

theorem visit_previous (reach : chain.ReachAt limit bound floor place engine)
    (above : floor < place.val) (leads : chain.previous? place = some target) {visit : Visit}
    (navigates : visit.navigation = .previous) (answers : chain.Answers limit visit.reply) :
    (∃ page, (engine.visit visit).2 = .fetched (chain.request limit target) (.ok page) ∧
        page.pageInfo = .cursor (chain.info target)) ∧
      chain.ReachAt limit bound floor target (engine.visit visit).1 := by
  have known := reach.knows.previous?_eq
  rw [if_pos above, leads] at known
  have asks : chain.Asks limit target (chain.request limit target) := Or.inl rfl
  have begins : visit.navigation.start.begin engine =
      engine.depart visit.navigation none (chain.request limit target) := by
    rw [navigates]
    exact reach.placed.loadPrevious_of_known known
  have back : target ≤ place := by
    have := (val_of_previous? leads).2
    exact Fin.le_def.mpr (by omega)
  obtain ⟨page, flight, described, left, visited⟩ :=
    answers.visit_toward reach.placed.grounded begins asks
  rw [visited]
  refine ⟨⟨page, rfl, described⟩, placedAt_arrived asks flight engine, ?_⟩
  simp only [Engine.arrived, Engine.aloft, Engine.rememberOrigin, left]
  exact reach.knows.rememberNext back

theorem retreats (reach : chain.ReachAt limit bound floor place engine) :
    chain.Retreats limit place (decide (floor < place.val)) engine where
  idle := Engine.state_eq_idle_iff.mpr reach.placed.grounded
  cursor := reach.placed.currentCursor?_eq
  hasPrevious := by
    rw [reach.placed.hasPrevious_eq, reach.knows.previous?_eq]
    split
    · rename_i above
      have positive : 0 < place.val := by omega
      rw [Option.isSome_map, isSome_previous?]
      simp [above, positive]
    · rename_i below
      simp [below]
  onward := by
    intro more
    have above : floor < place.val := of_decide_eq_true more
    have leads : chain.previous? place = some ⟨place.val - 1, by omega⟩ := if_pos (by omega)
    refine ⟨_, leads, ?_⟩
    intro visit navigates answers
    exact (reach.visit_previous above leads navigates answers).1
  ends := by
    intro finished visit navigates
    have below : ¬ floor < place.val := of_decide_eq_false finished
    have unknown := reach.knows.previous?_eq
    rw [if_neg below] at unknown
    exact reach.placed.visit_previous_of_unknown unknown navigates

/-- Steps back down to the floor all load their pages. -/
theorem walk_back (reach : chain.ReachAt limit bound floor place engine) {back : List Visit}
    (returns : ∀ visit ∈ back, visit.navigation = .previous)
    (answers : ∀ visit ∈ back, chain.Answers limit visit.reply)
    (leads : target.val + back.length = place.val) (above : floor ≤ target.val) :
    (∀ sighting ∈ (engine.walk back).2, sighting.isLoaded = true) ∧
      chain.ReachAt limit bound floor target (engine.walk back).1 := by
  induction back generalizing place engine with
  | nil =>
      have same : target = place := Fin.ext leads
      exact ⟨by simp [Engine.walk], same ▸ reach⟩
  | cons visit rest ih =>
      simp only [List.length_cons] at leads
      have higher : floor < place.val := by omega
      have before : chain.previous? place = some ⟨place.val - 1, by omega⟩ := if_pos (by omega)
      obtain ⟨⟨page, shown, _⟩, reached⟩ := reach.visit_previous higher before
        (returns visit (by simp)) (answers visit (by simp))
      have rest_leads : target.val + rest.length = place.val - 1 := by omega
      obtain ⟨loaded, further⟩ := ih reached
        (fun visit member => returns visit (by simp [member]))
        (fun visit member => answers visit (by simp [member])) rest_leads
      rw [Engine.walk_cons]
      exact ⟨List.forall_mem_cons.mpr ⟨by rw [shown]; rfl, loaded⟩, further⟩

end ReachAt

/-! ## On the way forward -/

namespace TrailAt

theorem visit_next (trail : chain.TrailAt limit bound place engine)
    (leads : chain.next? place = some target) {visit : Visit}
    (navigates : visit.navigation = .next) (answers : chain.Answers limit visit.reply) :
    (engine.visit visit).2.isLoaded = true ∧
      chain.TrailAt limit bound target (engine.visit visit).1 := by
  have asks : chain.Asks limit target (chain.request limit target) := Or.inl rfl
  have begins : visit.navigation.start.begin engine =
      engine.depart visit.navigation (some (chain.cursor place))
        (chain.request limit target) := by
    rw [navigates]
    exact trail.placed.loadNext_of_next? leads
  obtain ⟨page, flight, _, left, visited⟩ :=
    answers.visit_toward trail.placed.grounded begins asks
  -- The cursors are distinct, so the step forward is one between two pages.
  have apart : chain.cursor target ≠ chain.cursor place := by
    intro same
    have := congrArg Fin.val (cursor_inj.mp same)
    have := val_of_next? leads
    omega
  have history : ((engine.aloft (chain.request limit target) flight).arrived flight
      (.cursor (chain.info target))).cache = chain.advance place target engine.cache := by
    have arrives : (chain.info target).currentCursor = chain.cursor target := rfl
    simp only [Engine.arrived, Engine.aloft, Engine.rememberOrigin, left, arrives, apart,
      if_false, advance]
  have followed := trail.trail (Or.inl (by simp [leads]))
  rw [visited]
  refine ⟨rfl, placedAt_arrived asks flight engine, ?_, ?_⟩
  · rw [history]
    exact trail.knows.advance followed leads
  · intro _
    rw [history]
    exact trail.knows.cursors_advance followed leads

/-- Steps forward all load their pages. -/
theorem walk_forward (trail : chain.TrailAt limit bound place engine) {forward : List Visit}
    (steps : ∀ visit ∈ forward, visit.navigation = .next)
    (answers : ∀ visit ∈ forward, chain.Answers limit visit.reply)
    (leads : place.val + forward.length = target.val) :
    (∀ sighting ∈ (engine.walk forward).2, sighting.isLoaded = true) ∧
      chain.TrailAt limit bound target (engine.walk forward).1 := by
  induction forward generalizing place engine with
  | nil =>
      have same : place = target := Fin.ext leads
      exact ⟨by simp [Engine.walk], same ▸ trail⟩
  | cons visit rest ih =>
      simp only [List.length_cons] at leads
      have inside : place.val + 1 < chain.cursors.length := by
        have := target.isLt
        omega
      have after : chain.next? place = some ⟨place.val + 1, inside⟩ := dif_pos inside
      obtain ⟨shown, reached⟩ := trail.visit_next after (steps visit (by simp))
        (answers visit (by simp))
      have rest_leads : place.val + 1 + rest.length = target.val := by omega
      obtain ⟨loaded, further⟩ := ih reached
        (fun visit member => steps visit (by simp [member]))
        (fun visit member => answers visit (by simp [member])) rest_leads
      rw [Engine.walk_cons]
      exact ⟨List.forall_mem_cons.mpr ⟨shown, loaded⟩, further⟩

end TrailAt

/-- The history of an engine that has seen nothing. -/
theorem knows_empty (chain : CursorChain) (bound : Count) (floor : Nat) :
    chain.Knows bound floor chain.first (.empty (some bound)) where
  bounded := rfl
  fits := Nat.zero_le _
  distinct := List.nodup_nil
  behind := by
    intro earlier before
    have opens : ¬ floor < earlier.val := by
      have : earlier.val ≤ 0 := before
      omega
    rw [if_neg opens]
    rfl

/-- The first fetch of a fresh engine starts the trail. -/
theorem trailAt_opening {request : Pagination} (asks : chain.Asks limit chain.first request)
    {visit : Visit} (refetches : visit.navigation = .refetch)
    (answers : chain.Answers limit visit.reply) :
    ((Engine.start request (.empty (some bound))).visit visit).2.isLoaded = true ∧
      chain.TrailAt limit bound chain.first
        ((Engine.start request (.empty (some bound))).visit visit).1 := by
  have begins : visit.navigation.start.begin (Engine.start request (.empty (some bound))) =
      (Engine.start request (.empty (some bound))).depart visit.navigation none request := by
    rw [refetches]
    exact Engine.start_refetch _ _
  obtain ⟨page, flight, _, left, visited⟩ := answers.visit_toward rfl begins asks
  rw [visited]
  refine ⟨rfl, placedAt_arrived asks flight _, ?_, ?_⟩
  · simp only [Engine.arrived, Engine.aloft, Engine.rememberOrigin, left]
    exact (knows_empty chain bound _).rememberNext (Fin.le_refl _)
  · -- A first page with a next cursor is recorded; in a chain of one page nothing is.
    intro more
    have onward : chain.next? chain.first ≠ none := by
      rcases more with onward | positive
      · exact onward
      · exact absurd positive (Nat.lt_irrefl 0)
    obtain ⟨target, leads⟩ := Option.ne_none_iff_exists'.mp onward
    have next : chain.info chain.first =
        ⟨chain.cursor chain.first, some (chain.cursor target)⟩ := by
      have := nextCursor_info chain.first
      rw [leads] at this
      exact congrArg (CursorPageInfo.mk _) this
    simp only [Engine.arrived, Engine.aloft, Engine.rememberOrigin, left, next]
    have recorded := CursorCache.cursors_record
      (show (CursorCache.empty (some bound)).bound = some bound from rfl)
      (chain.cursor chain.first) fun links => { links with next := some (chain.cursor target) }
    rw [trail_first, ← recent_nil bound]
    exact recorded

/-- A fresh engine with a bounded history that has walked forward to a page can go back
as many pages, but at most as many as the bound; all fetches on the way load their
pages, and the step back after that is refused. -/
theorem history_reaches_back (chain : CursorChain) (limit : Option Count) (bound : Count)
    {request : Pagination} (asks : chain.Asks limit chain.first request)
    {opening : Visit} {forward back : List Visit} {furthest place : chain.Place}
    (refetches : opening.navigation = .refetch)
    (steps : ∀ visit ∈ forward, visit.navigation = .next)
    (returns : ∀ visit ∈ back, visit.navigation = .previous)
    (answers : ∀ visit ∈ opening :: forward ++ back, chain.Answers limit visit.reply)
    (there : forward.length = furthest.val) (again : place.val + back.length = furthest.val)
    (within : back.length ≤ min furthest.val bound.val) :
    let walked := (Engine.start request (.empty (some bound))).walk (opening :: forward ++ back)
    (∀ sighting ∈ walked.2, sighting.isLoaded = true) ∧
      chain.Retreats limit place (decide (back.length < min furthest.val bound.val))
        walked.1 := by
  intro walked
  obtain ⟨opened, start⟩ := trailAt_opening asks refetches (answers opening (by simp))
  obtain ⟨went, reached⟩ := start.walk_forward steps
    (fun visit member => answers visit (by simp [member]))
    (show chain.first.val + forward.length = furthest.val by simp [CursorChain.first, there])
  have turned : chain.ReachAt limit bound (furthest.val - bound.val) furthest _ :=
    ⟨reached.placed, reached.knows⟩
  obtain ⟨returned, stands⟩ := turned.walk_back returns
    (fun visit member => answers visit (by simp [member])) again (by omega)
  have path : walked = _ := Engine.walk_append _ (opening :: forward) back
  rw [Engine.walk_cons] at path
  rw [path]
  refine ⟨?_, ?_⟩
  · intro sighting seen
    rcases List.mem_append.mp seen with before | after
    · rcases List.mem_cons.mp before with rfl | later
      · exact opened
      · exact went sighting later
    · exact returned sighting after
  · have same : decide (back.length < min furthest.val bound.val) =
        decide (furthest.val - bound.val < place.val) := by
      rw [decide_eq_decide]
      omega
    rw [same]
    exact stands.retreats

/-- With room for two cursors, three steps forward leave two steps back. -/
theorem two_steps_back_of_three :
    let chain : CursorChain := ⟨["", "b", "c", "d"], by decide, by decide⟩
    let opening : Visit := ⟨.refetch, chain.serve⟩
    let forward : List Visit := List.replicate 3 ⟨.next, chain.serve⟩
    let back : List Visit := List.replicate 2 ⟨.previous, chain.serve⟩
    let walked := (Engine.start (.cursor ⟨none, none⟩) (.empty (some ⟨2, by decide⟩))).walk
      (opening :: forward ++ back)
    (∀ visit ∈ opening :: forward ++ back, chain.Answers none visit.reply) ∧
      (∀ sighting ∈ walked.2, sighting.isLoaded = true) ∧
        walked.1.currentCursor? = some "b" ∧
          walked.1.visit ⟨.previous, chain.serve⟩ =
            (walked.1, .refused (.pagination (.noPreviousCursor "b"))) := by
  intro chain opening forward back walked
  have answers : ∀ visit ∈ opening :: forward ++ back, chain.Answers none visit.reply := by
    intro visit member
    have same : visit.reply = chain.serve := by
      simp [opening, forward, back] at member
      rcases member with rfl | rfl | rfl <;> rfl
    rw [same]
    exact answers_serve
  have steps : ∀ visit ∈ forward, visit.navigation = .next := by
    intro visit member
    rw [List.eq_of_mem_replicate member]
  have returns : ∀ visit ∈ back, visit.navigation = .previous := by
    intro visit member
    rw [List.eq_of_mem_replicate member]
  let furthest : chain.Place := ⟨3, by decide⟩
  let place : chain.Place := ⟨1, by decide⟩
  obtain ⟨loaded, retreats⟩ := history_reaches_back chain none ⟨2, by decide⟩
    (Or.inr ⟨rfl, rfl⟩) (show opening.navigation = .refetch from rfl) steps returns answers
    (show forward.length = furthest.val from rfl)
    (show place.val + back.length = furthest.val from rfl) (by decide)
  exact ⟨answers, loaded, retreats.cursor, retreats.ends rfl _ rfl⟩

end CursorChain
end CatalogQuery
