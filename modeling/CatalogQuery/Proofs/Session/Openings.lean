import CatalogQuery.Proofs.Session.Continuation

/-!
# Openings of a session

A session can be opened and closed any number of times, while requests of former openings
are still under way.  Its openings are numbered, and an engine that was left behind keeps the
number of its own (`Session.Numbered`).  No event makes a session out of another setup
(`Session.setup_lives`).
-/

namespace CatalogQuery

/-- What happens to a session, from before it is opened. -/
inductive LifeEvent where
  | opens
  | closes
  | begins (call : SessionCall)
  /-- What a voyage asked for arrives, whichever opening it is of. -/
  | arrives (voyage : Voyage) (arrival : Arrival)
  | writes (made : StoreWrite)
  | subscribes (listener : Listener)
  | unsubscribes (id : String)

namespace LifeEvent

/-- The session after an event. -/
def apply (session : Session) : LifeEvent → Session
  | opens => session.openView.1
  | closes => session.close
  | begins call => (call.begin session).session
  | arrives voyage arrival => (session.arrive voyage arrival).1
  | writes made => (session.updateStore made.apply).1
  | subscribes listener => (session.updateStore fun store => (store.subscribe listener, .ok ())).1
  | unsubscribes id => (session.updateStore (Store.unsubscribe id)).1

end LifeEvent

/-- The session after events, one after the other. -/
def Session.lives (session : Session) (events : List LifeEvent) : Session :=
  events.foldl LifeEvent.apply session

/-- What can become of a session in one event: it is opened or closed, it goes on by itself,
or its store is changed from outside. -/
inductive Session.Becomes (session : Session) : Session → Prop where
  | opens : Becomes session session.openView.1
  | closes : Becomes session session.close
  | continues {after : Session} (opening : Nat) (goes : session.Continues opening after) :
      Becomes session after
  | changes (change : Store → Store × Outcome Unit) :
      Becomes session (session.updateStore change).1

/-- A session whose openings are numbered in their order: the view that is shown and the
engines that were left behind are of different openings. -/
structure Session.Numbered (session : Session) : Prop where
  shown_lt : ∀ view ∈ session.view, view.generation < session.openings
  abandoned_lt : ∀ entry ∈ session.abandoned, entry.1 < session.openings
  apart : ∀ view ∈ session.view, ∀ entry ∈ session.abandoned, entry.1 ≠ view.generation

namespace Session

variable {session : Session} {opening : Nat}

theorem becomes_apply (session : Session) (event : LifeEvent) :
    session.Becomes (event.apply session) := by
  cases event with
  | opens => exact .opens
  | closes => exact .closes
  | begins call =>
      obtain ⟨opening, goes⟩ := session.exists_continues_begin call
      exact .continues opening goes
  | arrives voyage arrival => exact .continues _ (session.continues_arrive voyage arrival)
  | writes made => exact .changes _
  | subscribes listener => exact .changes _
  | unsubscribes id => exact .changes _

/-- A session that cannot be opened stays as it is.  Any other one shows a new view, under
the number of the opening, and leaves the old one behind. -/
theorem fst_openView (session : Session) :
    session.openView.1 = session ∨ ∃ (store : Store) (engine : Option Engine),
      session.openView.1 =
        { session with
          view := some ⟨session.openings, store.state.body.entity, store, engine⟩
          openings := session.openings + 1
          abandoned := withAbandoned session.view session.abandoned } := by
  unfold openView
  split
  · exact Or.inl rfl
  · rename_i store _
    simp only
    split
    · exact Or.inr ⟨store, some _, rfl⟩
    · exact Or.inr ⟨store, none, rfl⟩

theorem exists_withAbandoned (view : Option View) (abandoned : List (Nat × Engine)) :
    ∃ more, withAbandoned view abandoned = abandoned ++ more ∧
      ∀ entry ∈ more, ∃ left ∈ view, left.generation = entry.1 := by
  unfold withAbandoned
  split
  · rename_i generation _ _ engine
    split
    · refine ⟨[(generation, engine)], rfl, fun entry member => ⟨_, rfl, ?_⟩⟩
      rw [List.mem_singleton.mp member]
    · exact ⟨[], (List.append_nil _).symm, by simp⟩
  · exact ⟨[], (List.append_nil _).symm, by simp⟩

namespace Numbered

theorem of_continues {after : Session} (numbered : session.Numbered)
    (continues : session.Continues opening after) : after.Numbered := by
  obtain ⟨shown_lt, abandoned_lt, apart⟩ := numbered
  have subset : after.abandoned ⊆ session.abandoned := by
    rcases continues.abandoned with same | filtered
    · rw [same]
      exact List.Subset.refl _
    · rw [filtered]
      exact List.filter_sublist.subset
  rw [← continues.openings_eq] at shown_lt abandoned_lt
  refine ⟨fun view member => ?_, fun entry member => abandoned_lt entry (subset member),
    fun view member entry left => ?_⟩
  · obtain ⟨old, shown, same⟩ := continues.exists_before member
    rw [same.generation_eq]
    exact shown_lt old shown
  · obtain ⟨old, shown, same⟩ := continues.exists_before member
    rw [same.generation_eq]
    exact apart old shown entry (subset left)

theorem withAbandoned_lt (numbered : session.Numbered) {view : Option View}
    (same : ∀ left ∈ view, ∃ shown ∈ session.view, left.generation = shown.generation) :
    ∀ entry ∈ withAbandoned view session.abandoned, entry.1 < session.openings := by
  obtain ⟨more, appended, fresh⟩ := exists_withAbandoned view session.abandoned
  intro entry member
  rw [appended] at member
  rcases List.mem_append.mp member with old | new
  · exact numbered.abandoned_lt entry old
  · obtain ⟨left, there, number⟩ := fresh entry new
    obtain ⟨shown, member, generation⟩ := same left there
    rw [← number, generation]
    exact numbered.shown_lt shown member

theorem openView (numbered : session.Numbered) : session.openView.1.Numbered := by
  rcases session.fst_openView with same | ⟨store, engine, opened⟩
  · rw [same]
    exact numbered
  · have below := numbered.withAbandoned_lt fun left there => ⟨left, there, rfl⟩
    rw [opened]
    refine ⟨?_, fun entry member => Nat.lt_succ_of_lt (below entry member), ?_⟩
    · rintro view ⟨⟩
      exact Nat.lt_succ_self _
    · rintro view ⟨⟩ entry member
      exact Nat.ne_of_lt (below entry member)

theorem close (numbered : session.Numbered) : session.close.Numbered := by
  refine ⟨by rintro view ⟨⟩, numbered.withAbandoned_lt fun left there => ?_, by rintro view ⟨⟩⟩
  obtain ⟨shown, member, rfl⟩ := Option.map_eq_some_iff.mp (Option.mem_def.mp there)
  exact ⟨shown, member, rfl⟩

theorem updateStore (numbered : session.Numbered) (change : Store → Store × Outcome Unit) :
    (session.updateStore change).1.Numbered := by
  rw [fst_updateStore]
  refine ⟨fun view member => ?_, numbered.abandoned_lt, fun view member => ?_⟩
  · obtain ⟨old, shown, rfl⟩ := Option.map_eq_some_iff.mp (Option.mem_def.mp member)
    exact numbered.shown_lt old shown
  · obtain ⟨old, shown, rfl⟩ := Option.map_eq_some_iff.mp (Option.mem_def.mp member)
    exact numbered.apart old shown

theorem apply (numbered : session.Numbered) (event : LifeEvent) :
    (event.apply session).Numbered := by
  have becomes := session.becomes_apply event
  generalize event.apply session = after at becomes ⊢
  cases becomes with
  | opens => exact numbered.openView
  | closes => exact numbered.close
  | continues opening goes => exact numbered.of_continues goes
  | changes change => exact numbered.updateStore change

theorem lives (numbered : session.Numbered) (events : List LifeEvent) :
    (session.lives events).Numbered := by
  induction events generalizing session with
  | nil => exact numbered
  | cons event rest ih => exact ih (numbered.apply event)

end Numbered

theorem numbered_create {settings : Outcome Settings} {setup : SessionSetup}
    {bound : Option Int} (made : create settings setup bound = .ok session) :
    session.Numbered := by
  obtain ⟨size, limit, rfl⟩ :
      ∃ size limit, session = ⟨setup, limit, size, none, none, none, 0, []⟩ := by
    cases bound with
    | some bound => exact ⟨_, _, (Except.ok.inj made).symm⟩
    | none =>
        cases settings with
        | ok settings => exact ⟨_, _, (Except.ok.inj made).symm⟩
        | error failure => cases made
  exact ⟨by rintro view ⟨⟩, by simp, by rintro view ⟨⟩⟩

theorem setup_apply (session : Session) (event : LifeEvent) :
    (event.apply session).setup = session.setup := by
  have becomes := session.becomes_apply event
  generalize event.apply session = after at becomes ⊢
  cases becomes with
  | opens =>
      rcases session.fst_openView with same | ⟨store, engine, opened⟩
      · rw [same]
      · rw [opened]
  | closes => rfl
  | continues opening goes => exact goes.setup_eq
  | changes change => rw [fst_updateStore]

theorem setup_lives (session : Session) (events : List LifeEvent) :
    (session.lives events).setup = session.setup := by
  induction events generalizing session with
  | nil => rfl
  | cons event rest ih => exact (ih _).trans (session.setup_apply event)

end Session
end CatalogQuery
