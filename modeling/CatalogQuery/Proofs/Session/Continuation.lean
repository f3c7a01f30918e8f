import CatalogQuery.Proofs.Session.Logbook

/-!
# A view that goes on

What a session does by itself, when a page is asked for or arrives, never opens or closes
it: the view that is shown stays the one of its opening, and all that is written to its
store are pages.  A call moves the engine that is shown, and an arrival the engine that it
is for; every other engine stays as it is (`continues_begin`, `continues_arrive`).
-/

namespace CatalogQuery

/-- A store after pages were written to it, one after the other. -/
def Store.turned (store : Store) (pages : List Pagination) : Store :=
  pages.foldl (fun store page => (store.setPagination page).1) store

/-- A view and what it is later, if nothing but pages was written to its store and only the
engine of one opening was moved. -/
structure View.Continues (opening : Nat) (before after : View) : Prop where
  generation_eq : after.generation = before.generation
  engine_eq : before.generation ≠ opening → after.engine = before.engine
  turned : ∃ pages, after.store = before.store.turned pages

/-- A session and what it is later, if it shows the same view and only the engine of one
opening was moved. -/
structure Session.Continues (opening : Nat) (before after : Session) : Prop where
  setup_eq : after.setup = before.setup
  openings_eq : after.openings = before.openings
  view : Option.Rel (View.Continues opening) before.view after.view
  abandoned : after.abandoned = before.abandoned ∨
    after.abandoned = before.abandoned.filter (·.1 != opening)

/-- Whether a session shows nothing but the view of an opening. -/
def Session.ShowsOnly (opening : Nat) (session : Session) : Prop :=
  ∀ view ∈ session.view, view.generation = opening

namespace Session

variable {opening : Nat}

namespace Continues

variable {before session after : Session}

theorem trans (first : before.Continues opening session)
    (second : session.Continues opening after) : before.Continues opening after := by
  refine ⟨second.setup_eq.trans first.setup_eq, second.openings_eq.trans first.openings_eq,
    ?_, ?_⟩
  · have earlier := first.view
    have later := second.view
    generalize before.view = shown at earlier ⊢
    generalize session.view = between at earlier later
    generalize after.view = last at later ⊢
    cases earlier with
    | none =>
        cases later
        exact .none
    | some same =>
        cases later with
        | some also =>
            obtain ⟨pages, turned⟩ := same.turned
            obtain ⟨more, turned_on⟩ := also.turned
            refine .some ⟨also.generation_eq.trans same.generation_eq, fun other => ?_,
              pages ++ more, ?_⟩
            · rw [also.engine_eq (by rwa [same.generation_eq]), same.engine_eq other]
            · rw [turned_on, turned, Store.turned, Store.turned, Store.turned, List.foldl_append]
  · rcases first.abandoned with earlier | earlier <;> rcases second.abandoned with later | later
    · exact Or.inl (later.trans earlier)
    · exact Or.inr (earlier ▸ later)
    · exact Or.inr (later.trans earlier)
    · right
      rw [later, earlier, List.filter_filter]
      simp only [Bool.and_self]

theorem of_view_eq (setup : after.setup = before.setup)
    (openings : after.openings = before.openings) (view : after.view = before.view)
    (abandoned : after.abandoned = before.abandoned ∨
      after.abandoned = before.abandoned.filter (·.1 != opening)) :
    before.Continues opening after := by
  refine ⟨setup, openings, ?_, abandoned⟩
  rw [view]
  cases before.view with
  | none => exact .none
  | some shown => exact .some ⟨rfl, fun _ => rfl, [], rfl⟩

theorem exists_before (continues : before.Continues opening after) {view : View}
    (shown : view ∈ after.view) : ∃ old ∈ before.view, old.Continues opening view := by
  have goes := continues.view
  rw [Option.mem_def.mp shown] at goes
  cases there : before.view with
  | none =>
      rw [there] at goes
      cases goes
  | some old =>
      rw [there] at goes
      cases goes with
      | some same => exact ⟨old, rfl, same⟩

theorem showsOnly (continues : before.Continues opening after) {shown : Nat}
    (only : before.ShowsOnly shown) : after.ShowsOnly shown := by
  intro view member
  obtain ⟨old, there, same⟩ := continues.exists_before member
  exact same.generation_eq.trans (only old there)

end Continues

variable (session : Session)

theorem continues_refl : session.Continues opening session :=
  .of_view_eq rfl rfl rfl (Or.inl rfl)

variable {session} in
theorem continues_withEngine (only : session.ShowsOnly opening) (engine : Engine) :
    session.Continues opening (session.withEngine engine) := by
  refine ⟨rfl, rfl, ?_, Or.inl rfl⟩
  unfold withEngine
  cases shown : session.view with
  | none => exact .none
  | some view => exact .some ⟨rfl, fun other => absurd (only view shown) other, [], rfl⟩

theorem fst_updateStore (change : Store → Store × Outcome Unit) :
    (session.updateStore change).1 =
      { session with
        view := session.view.map fun view => { view with store := (change view.store).1 } } := by
  obtain ⟨setup, bound, size, view, body, lastError, openings, abandoned⟩ := session
  cases view <;> rfl

theorem continues_setPagination (page : Pagination) :
    session.Continues opening (session.updateStore (Store.setPagination page)).1 := by
  rw [fst_updateStore]
  refine ⟨rfl, rfl, ?_, Or.inl rfl⟩
  cases session.view with
  | none => exact .none
  | some view => exact .some ⟨rfl, fun _ => rfl, [page], rfl⟩

theorem continues_withLanded (voyage : Voyage) (engine : Engine) :
    session.Continues voyage.generation (session.withLanded voyage engine) := by
  unfold withLanded
  split
  · rename_i view shown
    split
    · rename_i current
      refine continues_withEngine (fun other also => ?_) engine
      rw [← Option.some.inj (shown.symm.trans (Option.mem_def.mp also)), current]
    · exact .of_view_eq rfl rfl rfl (Or.inr rfl)
  · exact .of_view_eq rfl rfl rfl (Or.inr rfl)

theorem continues_commit : session.Continues opening session.commit.1 := by
  unfold commit
  split
  · exact session.continues_refl
  · exact session.continues_setPagination _

theorem continues_complete (voyage : Voyage) (page : PageResponse) :
    session.Continues opening (session.complete voyage page).1 := by
  let cleared : Session := { session with lastError := none }
  have same : session.Continues opening cleared := .of_view_eq rfl rfl rfl (Or.inl rfl)
  have commits := same.trans cleared.continues_commit
  unfold complete
  simp only
  generalize commit { session with lastError := none } = committed at commits ⊢
  obtain ⟨written, answer⟩ := committed
  split
  · cases answer <;> exact commits
  · exact same

theorem continues_fail (arrival : Arrival) (failure : Failure) :
    session.Continues opening (session.fail arrival failure).1 := by
  unfold fail
  split <;> exact .of_view_eq rfl rfl rfl (Or.inl rfl)

/-- An arrival shows no other view, whichever opening it is for. -/
theorem continues_arrive (voyage : Voyage) (arrival : Arrival) :
    session.Continues voyage.generation (session.arrive voyage arrival).1 := by
  unfold arrive
  split
  · exact session.continues_refl
  · rename_i engine _
    have landed := session.continues_withLanded voyage
      (engine.land (arrival.page session.setup.base)).1
    simp only
    split
    · exact landed.trans (continues_complete _ voyage _)
    · exact landed.trans (continues_fail _ arrival _)

theorem continues_ask (view : View) (page : Pagination) :
    session.Continues opening (session.ask view page).1 := by
  unfold ask
  split
  · exact session.continues_refl
  · split <;> exact .of_view_eq rfl rfl rfl (Or.inl rfl)

variable {session}

theorem view_of_requireView {view : View} (required : session.requireView = .ok view) :
    session.view = some view := by
  unfold requireView at required
  split at required
  · rename_i shown
    rw [shown, Except.ok.inj required]
  · cases required

theorem continues_navigate (only : session.ShowsOnly opening) (commits : Bool)
    (start : Engine → Engine × Departure) :
    session.Continues opening (session.navigate commits start).session := by
  unfold navigate
  split
  · rename_i view _ required _
    split
    · exact session.continues_refl
    · exact session.continues_refl
    · rename_i engine page _
      have asking := (continues_withEngine only engine).trans (continues_ask _ view page)
      simp only
      split
      · exact asking
      · have current := only view (view_of_requireView required)
        have back := continues_arrive ((session.withEngine engine).ask view page).1
          ⟨view.generation, commits⟩
        simp only [current] at back ⊢
        exact asking.trans (back _)
  · exact session.continues_refl
  · exact session.continues_refl

theorem continues_refreshFrom (only : session.ShowsOnly opening) (first : Pagination)
    (view : View) (engine : Engine) :
    session.Continues opening (session.refreshFrom first view engine).session := by
  have compiled : session.Continues opening (session.compileBody view).1 := by
    unfold compileBody
    split <;> exact .of_view_eq rfl rfl rfl (Or.inl rfl)
  unfold refreshFrom
  simp only
  split
  · exact compiled
  · rename_i restarted _
    have ready := compiled.trans (continues_withEngine (compiled.showsOnly only) restarted)
    exact ready.trans (continues_navigate (ready.showsOnly only) _ _)

theorem continues_refresh (only : session.ShowsOnly opening) :
    session.Continues opening session.refresh.session := by
  unfold refresh
  split
  · rename_i view engine _ _
    split
    · exact session.continues_refl
    · have paged : session.Continues opening _ :=
        session.continues_setPagination view.store.state.pagination.rewind
      simp only
      generalize session.updateStore (Store.setPagination view.store.state.pagination.rewind) =
        updated at paged ⊢
      obtain ⟨ready, answer⟩ := updated
      cases answer with
      | error failure => exact paged
      | ok value =>
          simp only
          split
          · exact paged.trans (continues_refreshFrom (paged.showsOnly only) _ _ _)
          · exact paged
  · exact session.continues_refl
  · exact session.continues_refl

/-- A call shows no other view. -/
theorem continues_begin (only : session.ShowsOnly opening) (call : SessionCall) :
    session.Continues opening (call.begin session).session := by
  cases call with
  | refresh => exact continues_refresh only
  | turn turn => cases turn <;> exact continues_navigate only _ _

theorem exists_continues_begin (session : Session) (call : SessionCall) :
    ∃ opening, session.Continues opening (call.begin session).session := by
  cases shown : session.view with
  | none => exact ⟨0, continues_begin (by simp [ShowsOnly, shown]) call⟩
  | some view => exact ⟨view.generation, continues_begin (by simp [ShowsOnly, shown]) call⟩

end Session
end CatalogQuery
