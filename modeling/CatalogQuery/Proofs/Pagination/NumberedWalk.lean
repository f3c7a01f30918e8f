import CatalogQuery.Proofs.Pagination.Walk

/-!
# Walking through numbered pages

A list whose pages are numbered from zero or from one, all of one size, may report a
different number of pages with each page.  Where a walk through it is, and how many
pages were reported last, follows from the replies alone (`move`), and so does the
page that a call may ask for (`target?`).  The invariant is `StandsAt`: the engine
shows the page where the walk is and asks for it again when it refetches.
-/

namespace CatalogQuery

/-- A size of pages and a way to number them. -/
structure PageNumbering where
  pageSize : Count
  zeroBased : Bool

/-- The page where a walk is, with the number of pages that was reported with it. -/
structure Spot where
  page : Nat
  total : Int

/-- The number of the page that an engine shows. -/
def Engine.currentPage? (engine : Engine) : Option Int :=
  match engine.pageInfo with
  | some (.offset info) => some info.currentPage
  | _ => none

namespace PageNumbering

variable (numbering : PageNumbering)

/-- The number of the first page. -/
def first : Nat := if numbering.zeroBased then 0 else 1

/-- The index of a page, counted from one. -/
def ordinal (page : Nat) : Nat := page + 1 - numbering.first

/-- The request for a page. -/
def request (page : Nat) : Pagination :=
  .offset ⟨page, numbering.pageSize, numbering.zeroBased⟩

/-- The description of a page. -/
def info (spot : Spot) (pageOffset : Int) : PageInfo :=
  .offset ⟨spot.page, spot.total, numbering.pageSize.val, pageOffset, numbering.zeroBased⟩

/-- A server that describes the page that is asked for, if it brings one, but may
report any number of pages. -/
def Echoes (reply : Pagination → Fetched) : Prop :=
  ∀ page, numbering.first ≤ page → ∀ answer,
    (reply (numbering.request page)).read = .ok answer →
      ∃ total pageOffset, answer.pageInfo = numbering.info ⟨page, total⟩ pageOffset

/-- The server that always reports the same number of pages. -/
def serve (total : Int) : Pagination → Fetched
  | .offset request =>
      .page ⟨[], .offset ⟨request.page, total, request.pageSize.val, 0, request.zeroBased⟩⟩
  | .cursor _ => .cancelled

/-- The page that a walk is at; before any page was seen it is the first one. -/
def here : Option Spot → Nat
  | none => numbering.first
  | some spot => spot.page

/-- The page that a call asks for, if there is one to ask for. -/
def target? (spot : Option Spot) : Navigation → Option Nat
  | .next =>
      spot.bind fun spot =>
        if numbering.ordinal spot.page < spot.total then some (spot.page + 1) else none
  | .previous =>
      spot.bind fun spot => if numbering.first < spot.page then some (spot.page - 1) else none
  | .refetch => some (numbering.here spot)

/-- Where a fetch of a page leads. -/
def reach (spot : Option Spot) (page : Nat) : Outcome PageResponse → Option Spot
  | .ok ⟨_, .offset info⟩ => some ⟨page, info.totalPages⟩
  | _ => spot

/-- Where a walk is after a call. -/
def move (spot : Option Spot) (visit : Visit) : Option Spot :=
  match numbering.target? spot visit.navigation with
  | none => spot
  | some page => reach spot page (visit.reply (numbering.request page)).read

/-- What is shown at a spot. -/
inductive Shows : Option Spot → Option PageInfo → Prop where
  | nothing : Shows none none
  | page (spot : Spot) (pageOffset : Int) :
      Shows (some spot) (some (numbering.info spot pageOffset))

/-- An engine at rest where a walk is. -/
structure StandsAt (spot : Option Spot) (engine : Engine) : Prop where
  grounded : engine.flight = none
  asks : engine.request = numbering.request (numbering.here spot)
  shows : numbering.Shows spot engine.pageInfo
  inside : numbering.first ≤ numbering.here spot

/-- The page that is shown once a call has loaded its page. -/
def stepped : Navigation → Option Int → Option Int
  | .next, shown => shown.map (· + 1)
  | .previous, shown => shown.map (· - 1)
  | .refetch, shown => some (shown.getD numbering.first)

/-- What a call does to an engine at a spot, and what shows of it. -/
structure Takes (spot : Option Spot) (engine : Engine) (visit : Visit) : Prop where
  sighting : (engine.visit visit).2 =
    match numbering.target? spot visit.navigation with
    | none => .nothing
    | some page =>
        .fetched (numbering.request page) (visit.reply (numbering.request page)).read
  notBefore : ∀ page, numbering.target? spot visit.navigation = some page →
    numbering.first ≤ page
  /-- A step forward stays among the pages that were reported last. -/
  notBeyond : visit.navigation = .next →
    ∀ page, numbering.target? spot visit.navigation = some page →
      ∃ stood, spot = some stood ∧ numbering.ordinal page ≤ stood.total
  unmoved : (engine.visit visit).2.isLoaded = false → (engine.visit visit).1 = engine
  moved : (engine.visit visit).2.isLoaded = true →
    (engine.visit visit).1.currentPage? =
      numbering.stepped visit.navigation engine.currentPage?

variable {numbering} {spot : Option Spot} {page : Nat} {engine : Engine} {visit : Visit}

theorem offsetRequest_eq (numbering : PageNumbering) (page : Nat) :
    Engine.offsetRequest page numbering.pageSize.val numbering.zeroBased =
      .ok (numbering.request page) := by
  have natural : Checked.naturalOf (page : Int) = .ok page := by simp [Checked.naturalOf]
  have count : Checked.countOf (numbering.pageSize.val : Int) = .ok numbering.pageSize := by
    simp [Checked.countOf, numbering.pageSize.property]
  simp [Engine.offsetRequest, OffsetPagination.ofIntegers, natural, count, request,
    Checked.inField, Checked.under, Checked.both, Checked.reported, Except.map]

theorem echoes_serve (total : Int) : numbering.Echoes (serve total) := by
  intro page _ answer read
  simp only [request, serve, Fetched.read, Except.ok.injEq] at read
  exact ⟨total, 0, by rw [← read]; rfl⟩

theorem echoes_cancelled : numbering.Echoes fun _ => .cancelled := by
  intro page _ answer read
  cases read

/-! ## The page to ask for -/

theorem target?_next_eq_some_iff :
    numbering.target? spot .next = some page ↔
      ∃ stood, spot = some stood ∧ numbering.ordinal stood.page < stood.total ∧
        page = stood.page + 1 := by
  cases spot with
  | none => simp [target?]
  | some stood => simp [target?, eq_comm]

theorem target?_previous_eq_some_iff :
    numbering.target? spot .previous = some page ↔
      ∃ stood, spot = some stood ∧ numbering.first < stood.page ∧ page = stood.page - 1 := by
  cases spot with
  | none => simp [target?]
  | some stood => simp [target?, eq_comm]

theorem first_le_target? (inside : numbering.first ≤ numbering.here spot)
    {navigation : Navigation} (asked : numbering.target? spot navigation = some page) :
    numbering.first ≤ page := by
  cases navigation with
  | next =>
      obtain ⟨stood, rfl, _, rfl⟩ := target?_next_eq_some_iff.mp asked
      exact Nat.le_succ_of_le inside
  | previous =>
      obtain ⟨stood, rfl, above, rfl⟩ := target?_previous_eq_some_iff.mp asked
      omega
  | refetch => exact Option.some.inj asked ▸ inside

theorem ordinal_target?_le (inside : numbering.first ≤ numbering.here spot)
    (asked : numbering.target? spot .next = some page) :
    ∃ stood, spot = some stood ∧ numbering.ordinal page ≤ stood.total := by
  obtain ⟨stood, rfl, below, rfl⟩ := target?_next_eq_some_iff.mp asked
  refine ⟨stood, rfl, ?_⟩
  have : numbering.first ≤ stood.page := inside
  simp only [ordinal] at below ⊢
  omega

theorem isSome_target?_next (stood : Spot) :
    (numbering.target? (some stood) .next).isSome =
      decide (numbering.ordinal stood.page < stood.total) := by
  simp only [target?, Option.bind_some]
  split <;> simp_all

theorem isSome_target?_previous (stood : Spot) :
    (numbering.target? (some stood) .previous).isSome =
      decide (numbering.first < stood.page) := by
  simp only [target?, Option.bind_some]
  split <;> simp_all

/-- The page to ask for is one page on, one page back or the same page. -/
theorem stepped_of_target? {navigation : Navigation}
    (asked : numbering.target? spot navigation = some page) :
    numbering.stepped navigation (spot.map fun spot => (spot.page : Int)) = some (page : Int) := by
  cases navigation with
  | next =>
      obtain ⟨stood, rfl, _, rfl⟩ := target?_next_eq_some_iff.mp asked
      rfl
  | previous =>
      obtain ⟨stood, rfl, above, rfl⟩ := target?_previous_eq_some_iff.mp asked
      have before : (stood.page : Int) - 1 = ((stood.page - 1 : Nat) : Int) := by omega
      exact congrArg some before
  | refetch =>
      rw [← Option.some.inj asked]
      cases spot <;> rfl

namespace StandsAt

theorem inFlight_eq (stands : numbering.StandsAt spot engine) : engine.inFlight = false := by
  simp [Engine.inFlight, stands.grounded]

theorem pageInfo_eq_none (stands : numbering.StandsAt none engine) : engine.pageInfo = none := by
  have shows := stands.shows
  generalize engine.pageInfo = shown at shows ⊢
  cases shows
  rfl

theorem exists_shown {stood : Spot} (stands : numbering.StandsAt (some stood) engine) :
    ∃ pageOffset, engine.pageInfo = some (numbering.info stood pageOffset) := by
  have shows := stands.shows
  generalize engine.pageInfo = shown at shows ⊢
  cases shows with
  | page _ pageOffset => exact ⟨pageOffset, rfl⟩

theorem currentCursor?_eq (stands : numbering.StandsAt spot engine) :
    engine.currentCursor? = none := by
  have shows := stands.shows
  unfold Engine.currentCursor?
  cases shown : engine.pageInfo with
  | none => rfl
  | some info =>
      rw [shown] at shows
      cases shows
      rfl

theorem currentPage?_eq (stands : numbering.StandsAt spot engine) :
    engine.currentPage? = spot.map fun spot => (spot.page : Int) := by
  have shows := stands.shows
  unfold Engine.currentPage?
  generalize engine.pageInfo = shown at shows
  cases shows <;> rfl

/-- There are pages around the page that is shown if there is one to ask for. -/
theorem availability_eq (stands : numbering.StandsAt spot engine) :
    engine.availability =
      ⟨(numbering.target? spot .next).isSome, (numbering.target? spot .previous).isSome⟩ := by
  have shows := stands.shows
  unfold Engine.availability
  generalize engine.pageInfo = shown at shows
  cases shows with
  | nothing => rfl
  | page stood pageOffset =>
      have below : ((numbering.ordinal stood.page : Nat) : Int) =
          if numbering.zeroBased then (stood.page : Int) + 1 else stood.page := by
        unfold ordinal first
        split <;> omega
      have above : numbering.first < stood.page ↔
          1 < if numbering.zeroBased then (stood.page : Int) + 1 else stood.page := by
        unfold first
        split <;> omega
      simp only [info, PageInfo.availability, isSome_target?_next, isSome_target?_previous,
        below, above]

theorem refetch_eq (stands : numbering.StandsAt spot engine) :
    engine.refetch none =
      engine.depart .refetch none (numbering.request (numbering.here spot)) := by
  simp [Engine.refetch, stands.inFlight_eq, stands.asks]

theorem loadNext_eq (stands : numbering.StandsAt spot engine) :
    engine.loadNext =
      match numbering.target? spot .next with
      | none => (engine, .none)
      | some page => engine.depart .next none (numbering.request page) := by
  have hasNext : engine.availability.hasNext = (numbering.target? spot .next).isSome := by
    rw [stands.availability_eq]
  unfold Engine.loadNext
  rw [stands.inFlight_eq, stands.currentCursor?_eq, hasNext]
  cases asked : numbering.target? spot .next with
  | none => rfl
  | some page =>
      obtain ⟨stood, rfl, below, rfl⟩ := target?_next_eq_some_iff.mp asked
      obtain ⟨pageOffset, shown⟩ := stands.exists_shown
      have derived : engine.nextRequest = .ok (numbering.request (stood.page + 1)) := by
        have made := offsetRequest_eq numbering (stood.page + 1)
        push_cast at made
        simp [Engine.nextRequest, Engine.requirePage, shown, info, hasNext, asked, made, bind,
          Except.bind]
      simp [derived, Engine.departWith]

theorem loadPrevious_eq (stands : numbering.StandsAt spot engine) :
    engine.loadPrevious =
      match numbering.target? spot .previous with
      | none => (engine, .none)
      | some page => engine.depart .previous none (numbering.request page) := by
  have hasPrevious :
      engine.availability.hasPrevious = (numbering.target? spot .previous).isSome := by
    rw [stands.availability_eq]
  unfold Engine.loadPrevious
  rw [stands.inFlight_eq, hasPrevious]
  cases spot with
  | none =>
      rw [stands.pageInfo_eq_none]
      rfl
  | some stood =>
      obtain ⟨pageOffset, shown⟩ := stands.exists_shown
      rw [shown]
      cases asked : numbering.target? (some stood) .previous with
      | none => rfl
      | some page =>
          obtain ⟨_, same, above, rfl⟩ := target?_previous_eq_some_iff.mp asked
          cases same
          -- Above the first page the page before is not below it.
          have before : max (if numbering.zeroBased then 0 else 1) ((stood.page : Int) - 1) =
              ((stood.page - 1 : Nat) : Int) := by
            unfold first at above
            split at above <;> simp_all <;> omega
          have derived : engine.previousRequest = .ok (numbering.request (stood.page - 1)) := by
            simp [Engine.previousRequest, Engine.requirePage, shown, info, before,
              offsetRequest_eq, bind, Except.bind]
          simp [info, derived, Engine.departWith]

/-- A call puts the fetch of the page to ask for under way, if there is one. -/
theorem begin_eq (stands : numbering.StandsAt spot engine) (navigation : Navigation) :
    navigation.start.begin engine =
      match numbering.target? spot navigation with
      | none => (engine, .none)
      | some page => engine.depart navigation none (numbering.request page) := by
  cases navigation with
  | next => exact stands.loadNext_eq
  | previous => exact stands.loadPrevious_eq
  | refetch => exact stands.refetch_eq

/-- A fetch of a page leads there, or it fails and nothing changes. -/
theorem visit_of_target? (stands : numbering.StandsAt spot engine)
    (echoes : numbering.Echoes visit.reply)
    (asked : numbering.target? spot visit.navigation = some page) :
    (∃ failure, (visit.reply (numbering.request page)).read = .error failure ∧
        engine.visit visit = (engine, .fetched (numbering.request page) (.error failure))) ∨
      ∃ answer total, (visit.reply (numbering.request page)).read = .ok answer ∧
        (engine.visit visit).2 = .fetched (numbering.request page) (.ok answer) ∧
          numbering.move spot visit = some ⟨page, total⟩ ∧
            numbering.StandsAt (some ⟨page, total⟩) (engine.visit visit).1 := by
  have inside := first_le_target? stands.inside asked
  have begins : visit.navigation.start.begin engine =
      engine.depart visit.navigation none (numbering.request page) := by
    rw [stands.begin_eq, asked]
  have mode : ∀ answer, (visit.reply (numbering.request page)).read = .ok answer →
      answer.pageInfo.mode = (numbering.request page).mode := by
    intro answer read
    obtain ⟨total, pageOffset, described⟩ := echoes page inside answer read
    rw [described]
    rfl
  rcases Engine.visit_of_departs stands.grounded begins mode with
    lost | ⟨answer, flight, read, _, visited⟩
  · exact Or.inl lost
  · obtain ⟨total, pageOffset, described⟩ := echoes page inside answer read
    refine Or.inr ⟨answer, total, read, by rw [visited], ?_, ?_⟩
    · obtain ⟨nodes, pageInfo⟩ := answer
      have described : pageInfo = numbering.info ⟨page, total⟩ pageOffset := described
      simp [move, asked, read, described, info, reach]
    · rw [visited, described]
      exact ⟨rfl, rfl, .page _ pageOffset, inside⟩

/-- What a call may ask for goes by the spot alone. -/
theorem takes (stands : numbering.StandsAt spot engine)
    (sighting : (engine.visit visit).2 =
      match numbering.target? spot visit.navigation with
      | none => .nothing
      | some page =>
          .fetched (numbering.request page) (visit.reply (numbering.request page)).read)
    (unmoved : (engine.visit visit).2.isLoaded = false → (engine.visit visit).1 = engine)
    (moved : (engine.visit visit).2.isLoaded = true →
      (engine.visit visit).1.currentPage? =
        numbering.stepped visit.navigation engine.currentPage?) :
    numbering.Takes spot engine visit where
  sighting := sighting
  notBefore := fun _ => first_le_target? stands.inside
  notBeyond := by
    intro navigates page asked
    rw [navigates] at asked
    exact ordinal_target?_le stands.inside asked
  unmoved := unmoved
  moved := moved

/-- A call comes to what the replies say, and the walk goes on from there. -/
theorem visit_step (stands : numbering.StandsAt spot engine)
    (echoes : numbering.Echoes visit.reply) :
    numbering.Takes spot engine visit ∧
      numbering.StandsAt (numbering.move spot visit) (engine.visit visit).1 := by
  cases asked : numbering.target? spot visit.navigation with
  | none =>
      have stays : engine.visit visit = (engine, .nothing) := by
        simp only [Engine.visit, stands.begin_eq, asked]
      have still : numbering.move spot visit = spot := by simp only [move, asked]
      refine ⟨stands.takes ?_ ?_ ?_, ?_⟩
      · rw [stays, asked]
      · intro _
        rw [stays]
      · intro loaded
        rw [stays] at loaded
        cases loaded
      · rw [stays, still]
        exact stands
  | some page =>
      rcases stands.visit_of_target? echoes asked with
        ⟨failure, read, lost⟩ | ⟨answer, total, read, shown, leads, reached⟩
      · -- A fetch that fails is like no fetch, except that the request shows.
        have still : numbering.move spot visit = spot := by
          simp only [move, asked, read, reach]
        refine ⟨stands.takes ?_ ?_ ?_, ?_⟩
        · rw [lost, asked]
          simp only [read]
        · intro _
          rw [lost]
        · intro loaded
          rw [lost] at loaded
          cases loaded
        · rw [lost, still]
          exact stands
      · refine ⟨stands.takes ?_ ?_ ?_, ?_⟩
        · rw [shown, asked]
          simp only [read]
        · intro unloaded
          rw [shown] at unloaded
          cases unloaded
        · intro _
          rw [reached.currentPage?_eq, stands.currentPage?_eq]
          exact (stepped_of_target? asked).symm
        · rw [leads]
          exact reached

end StandsAt

/-- A walk goes where the replies lead. -/
theorem StandsAt.walk (stands : numbering.StandsAt spot engine) {made : List Visit}
    (echoes : ∀ visit ∈ made, numbering.Echoes visit.reply) :
    numbering.StandsAt (made.foldl numbering.move spot) (engine.walk made).1 := by
  induction made generalizing spot engine with
  | nil => exact stands
  | cons visit rest ih =>
      have reached := (stands.visit_step (echoes visit (by simp))).2
      rw [Engine.walk_cons]
      exact ih reached fun later member => echoes later (by simp [member])

/-- An engine that was started on the first page walks where the replies lead, whatever
the calls, whichever of their fetches fail and however many pages are reported. -/
theorem walk_stays_in_list (numbering : PageNumbering) (cache : CursorCache)
    {made : List Visit} {visit : Visit}
    (echoed : ∀ earlier ∈ made, numbering.Echoes earlier.reply)
    (echoes : numbering.Echoes visit.reply) :
    let engine := ((Engine.start (numbering.request numbering.first) cache).walk made).1
    let spot := made.foldl numbering.move none
    numbering.StandsAt spot engine ∧ numbering.Takes spot engine visit := by
  intro engine spot
  have opens : numbering.StandsAt none
      (Engine.start (numbering.request numbering.first) cache) :=
    ⟨rfl, rfl, .nothing, Nat.le_refl _⟩
  have stands : numbering.StandsAt spot engine := opens.walk echoed
  exact ⟨stands, (stands.visit_step echoes).1⟩

/-- A list numbered from zero that shrinks to one page while its second page is shown:
there is no page to go on to. -/
theorem second_page_is_last_after_shrinking :
    let numbering : PageNumbering := ⟨⟨2, by decide⟩, true⟩
    let made : List Visit :=
      [⟨.next, serve 3⟩, ⟨.refetch, serve 3⟩, ⟨.next, serve 3⟩, ⟨.next, fun _ => .cancelled⟩,
        ⟨.refetch, serve 1⟩]
    let engine := ((Engine.start (numbering.request 0) (.empty none)).walk made).1
    (∀ earlier ∈ made, numbering.Echoes earlier.reply) ∧
      engine.currentPage? = some 1 ∧ (engine.visit ⟨.next, serve 9⟩).2 = .nothing ∧
        (engine.visit ⟨.previous, serve 9⟩).2.request? = some (numbering.request 0) := by
  intro numbering made engine
  have echoed : ∀ earlier ∈ made, numbering.Echoes earlier.reply := by
    intro earlier member
    simp only [made, List.mem_cons, List.not_mem_nil, or_false] at member
    rcases member with rfl | rfl | rfl | rfl | rfl
    · exact echoes_serve 3
    · exact echoes_serve 3
    · exact echoes_serve 3
    · exact echoes_cancelled
    · exact echoes_serve 1
  have forward : numbering.Echoes (Visit.mk .next (serve 9)).reply := echoes_serve 9
  have backward : numbering.Echoes (Visit.mk .previous (serve 9)).reply := echoes_serve 9
  obtain ⟨stands, onward⟩ := walk_stays_in_list numbering (.empty none) echoed forward
  obtain ⟨_, back⟩ := walk_stays_in_list numbering (.empty none) echoed backward
  exact ⟨echoed, stands.currentPage?_eq, onward.sighting,
    congrArg Sighting.request? back.sighting⟩

end PageNumbering
end CatalogQuery
