import Mathlib.Data.List.Forall2
import CatalogQuery.Proofs.Pagination.History
import CatalogQuery.Proofs.Pagination.SingleFlight

/-!
# Where the ways back come from

A history of cursors names, for a cursor, the one that was left to reach it.
The travel log of an engine is kept beside it and never looks into the history:
it writes down which page is shown when a fetch is started, and when a step
forward ends with a page, which page it left and which one it reached.  Every way
back in the history is the latest step of the log that leads to its cursor from
another one (`ways_back_are_travelled`), whatever the server answers, whatever the
bound of the history and whatever happens while a fetch is under way.
-/

namespace CatalogQuery

/-- A step forward that ended with a page, by the cursors of the page it left and
the page it reached. -/
structure Hop where
  left : Text
  reached : Text
deriving DecidableEq

/-- The cursor that a navigation leaves behind if it is a step forward. -/
def Start.leaves (shown : Option Text) : Start → Option Text
  | next => shown
  | _ => none

/-- Whether a call makes an engine drop its history: a reset, or a refetch in the
other mode, that is not rejected. -/
def EngineCall.dropsHistory (engine : Engine) : EngineCall → Bool
  | reset _ => !engine.inFlight
  | navigate (.refetch (some request)) =>
      !engine.inFlight && request.mode != engine.request.mode
  | _ => false

namespace Hop

/-- The step from a page with a cursor to a page with a cursor. -/
def between? (left : Option Text) (info : PageInfo) : Option Hop :=
  match left, info with
  | some left, .cursor info => some ⟨left, info.currentCursor⟩
  | _, _ => none

/-- A step to a cursor from another one. -/
def LeadsTo (cursor : Text) (hop : Hop) : Prop := hop.reached = cursor ∧ hop.left ≠ cursor

instance (cursor : Text) : DecidablePred (LeadsTo cursor) :=
  fun _ => inferInstanceAs (Decidable (_ ∧ _))

end Hop

/-- Traffic with a log of its steps forward. -/
structure TravelLog where
  traffic : Traffic
  /-- The cursors of the pages that were shown when the outstanding fetches were
  started. -/
  departures : List (Option Text)
  /-- The steps forward since the history was dropped, the latest one first. -/
  hops : List Hop

namespace TravelLog

/-- The log of an engine that has not fetched anything. -/
def opening (request : Pagination) (cache : CursorCache) : TravelLog :=
  ⟨.opening request cache, [], []⟩

/-- The step forward that an event completes. -/
def hop? (log : TravelLog) : TrafficEvent → Option Hop
  | .call _ => none
  | .finish place fetched =>
      match log.traffic.outstanding[place]?, log.departures[place]?,
          log.traffic.result? place fetched with
      | some outing, some shown, some (.ok page) =>
          Hop.between? (outing.start.leaves shown) page.pageInfo
      | _, _, _ => none

/-- The log after a call. -/
def afterCall (made : EngineCall) (log : TravelLog) : TravelLog :=
  let engine := log.traffic.engine
  let started := Traffic.outing? made (engine.call made).1 (engine.call made).2
  { traffic := log.traffic.step (.call made)
    departures := log.departures ++ (started.map fun _ => engine.currentCursor?).toList
    hops := if made.dropsHistory engine then [] else log.hops }

/-- The log after the end of a fetch. -/
def afterFinish (place : Nat) (fetched : Fetched) (log : TravelLog) : TravelLog :=
  { traffic := log.traffic.step (.finish place fetched)
    departures := log.departures.eraseIdx place
    hops := (log.hop? (.finish place fetched)).toList ++ log.hops }

/-- The log after an event. -/
def step (log : TravelLog) : TrafficEvent → TravelLog
  | .call made => log.afterCall made
  | .finish place fetched => log.afterFinish place fetched

/-- The log after some events. -/
def run (log : TravelLog) (events : List TrafficEvent) : TravelLog := events.foldl step log

/-- The way back from a cursor, in the history of the engine. -/
def wayBack? (log : TravelLog) (cursor : Text) : Option Text :=
  log.traffic.engine.cache.previous? cursor

/-- A log that accounts for every way back. -/
structure Accounts (log : TravelLog) : Prop where
  /-- A way back is the latest step forward to its cursor from another one. -/
  travelled : ∀ cursor previous, log.wayBack? cursor = some previous →
    previous ≠ cursor ∧ log.hops.find? (Hop.LeadsTo cursor ·) = some ⟨previous, cursor⟩
  /-- Nothing but the completion of such a step makes a way back or changes one to
  another; any other event can only make the history forget it. -/
  made : ∀ event cursor,
    (log.step event).wayBack? cursor = log.wayBack? cursor ∨
      (log.step event).wayBack? cursor = none ∨
        ∃ hop, log.hop? event = some hop ∧ hop.LeadsTo cursor ∧
          (log.step event).wayBack? cursor = some hop.left

end TravelLog

namespace Engine

variable {cache : CursorCache}

theorem rememberOrigin_eq (origin : Option Text) (info : PageInfo) (cache : CursorCache) :
    rememberOrigin origin info cache =
      match Hop.between? origin info with
      | none => cache
      | some hop =>
          if hop.reached = hop.left then cache
          else cache.recordPrevious hop.reached hop.left := by
  cases origin <;> cases info <;> rfl

/-- The end of a navigation makes a way back if it is a step forward from another
page, and else it makes none. -/
theorem previous?_rememberOrigin (distinct : cache.Distinct) (origin : Option Text)
    (info : PageInfo) (cursor : Text) :
    (∃ hop, Hop.between? origin info = some hop ∧ hop.LeadsTo cursor ∧
        (rememberOrigin origin info cache).previous? cursor = some hop.left) ∨
      (∀ hop, Hop.between? origin info = some hop → ¬ hop.LeadsTo cursor) ∧
        ((rememberOrigin origin info cache).previous? cursor = cache.previous? cursor ∨
          (rememberOrigin origin info cache).previous? cursor = none) := by
  rw [rememberOrigin_eq]
  cases between : Hop.between? origin info with
  | none => exact Or.inr ⟨by simp, Or.inl rfl⟩
  | some hop =>
      by_cases stays : hop.reached = hop.left
      · right
        refine ⟨?_, Or.inl (by simp [stays])⟩
        rintro other equal ⟨reaches, apart⟩
        obtain rfl := Option.some.inj equal
        exact apart (stays ▸ reaches)
      · simp only [stays, if_false]
        by_cases reaches : hop.reached = cursor
        · left
          refine ⟨hop, rfl, ⟨reaches, fun same => stays (reaches.trans same.symm)⟩, ?_⟩
          rw [reaches]
          exact CursorCache.previous?_recordPrevious_self _ _ _
        · right
          refine ⟨?_, CursorCache.previous?_record_of_ne distinct _ (Ne.symm reaches)⟩
          rintro other equal ⟨arrives, _⟩
          obtain rfl := Option.some.inj equal
          exact reaches arrives

/-- A call makes no way back. -/
theorem backWithin_call {engine : Engine} (coherent : engine.Coherent)
    (distinct : engine.cache.Distinct) (made : EngineCall) :
    (engine.call made).1.cache.Distinct ∧
      engine.cache.BackWithin (engine.call made).1.cache := by
  have called := called_call coherent made
  generalize engine.call made = result at called
  cases called with
  | unchanged => exact ⟨distinct, .refl _⟩
  | departed start origin request =>
      simp only [depart, baseFor]
      split
      · exact ⟨distinct, .refl _⟩
      · exact ⟨List.nodup_nil, CursorCache.backWithin_clear _⟩
  | restarted => exact ⟨List.nodup_nil, CursorCache.backWithin_clear _⟩
  | observed made info =>
      exact ⟨distinct_rememberNext distinct info, backWithin_rememberNext distinct info⟩

theorem previous?_of_dropsHistory {engine : Engine} {made : EngineCall}
    (drops : made.dropsHistory engine = true) (cursor : Text) :
    (engine.call made).1.cache.previous? cursor = none := by
  cases made with
  | reset request =>
      have idle : engine.inFlight = false := by simpa [EngineCall.dropsHistory] using drops
      simp [call, reset, idle, restart, CursorCache.clear, CursorCache.previous?,
        CursorCache.get?]
  | navigate start =>
      cases start with
      | refetch request =>
          cases request with
          | none => cases drops
          | some request =>
              have known : engine.inFlight = false ∧ request.mode ≠ engine.request.mode := by
                simpa [EngineCall.dropsHistory] using drops
              simp [call, Start.begin, refetch, known, depart, restart, CursorCache.clear,
                CursorCache.previous?, CursorCache.get?]
      | next => cases drops
      | previous => cases drops
  | _ => cases drops

theorem flight_of_departWith {engine departed : Engine} {navigation : Navigation}
    {origin : Option Text} {request : Outcome Pagination} {sent : Pagination}
    (departs : engine.departWith navigation origin request = (departed, .fetching sent)) :
    ∃ flight, departed.flight = some flight ∧ flight.origin = origin := by
  cases request with
  | error failure => cases departs
  | ok request =>
      obtain ⟨rfl, _⟩ := Prod.mk.inj departs
      exact ⟨_, rfl, rfl⟩

/-- What a navigation leaves is fixed by the page that is shown when it is started. -/
theorem flight_of_begin {engine departed : Engine} {start : Start} {sent : Pagination}
    (begins : start.begin engine = (departed, .fetching sent)) :
    ∃ flight, departed.flight = some flight ∧
      flight.origin = start.leaves engine.currentCursor? := by
  cases start with
  | next =>
      simp only [Start.begin, loadNext] at begins
      split at begins
      · cases begins
      · exact flight_of_departWith begins
  | previous =>
      simp only [Start.begin, loadPrevious] at begins
      split at begins
      · cases begins
      · split at begins
        · cases begins
        · split at begins
          · exact flight_of_departWith begins
          · cases begins
        · exact flight_of_departWith begins
  | refetch request =>
      simp only [Start.begin, refetch] at begins
      split at begins
      · cases begins
      · obtain ⟨rfl, _⟩ := Prod.mk.inj begins
        exact ⟨_, rfl, rfl⟩

theorem origin_of_outing? {engine : Engine} {made : EngineCall} {outing : Outing}
    (started : Traffic.outing? made (engine.call made).1 (engine.call made).2 = some outing) :
    outing.flight.origin = outing.start.leaves engine.currentCursor? := by
  cases made with
  | navigate start =>
      cases begins : start.begin engine with
      | mk departed departure =>
          cases departure with
          | none => simp [call, begins, Departure.answer, Traffic.outing?] at started
          | failed failure => simp [call, begins, Departure.answer, Traffic.outing?] at started
          | fetching sent =>
              obtain ⟨flight, flies, origin⟩ := flight_of_begin begins
              simp only [call, begins, Departure.answer, Traffic.outing?, flies, Option.map_some,
                Option.some.injEq] at started
              rw [← started]
              exact origin
  | _ => cases started

end Engine

theorem Traffic.outstanding_afterCall (traffic : Traffic) (made : EngineCall) :
    (traffic.step (.call made)).outstanding =
      traffic.outstanding ++
        (outing? made (traffic.engine.call made).1 (traffic.engine.call made).2).toList :=
  rfl

namespace TravelLog

variable {log : TravelLog}

/-- A log that goes along with its engine. -/
structure Faithful (log : TravelLog) : Prop where
  orderly : log.traffic.Orderly
  distinct : log.traffic.engine.cache.Distinct
  /-- What the end of an outstanding fetch goes by is what the log has written
  down. -/
  departed : List.Forall₂ (fun outing shown => outing.flight.origin = outing.start.leaves shown)
    log.traffic.outstanding log.departures
  travelled : ∀ cursor previous, log.wayBack? cursor = some previous →
    log.hops.find? (Hop.LeadsTo cursor ·) = some ⟨previous, cursor⟩

theorem faithful_opening (request : Pagination) (bound : Option Count) :
    (opening request (.empty bound)).Faithful where
  orderly := Traffic.orderly_opening request _
  distinct := List.nodup_nil
  departed := .nil
  travelled := by
    intro cursor previous known
    cases known

theorem traffic_step (log : TravelLog) (event : TrafficEvent) :
    (log.step event).traffic = log.traffic.step event := by
  cases event <;> rfl

theorem traffic_run (log : TravelLog) (events : List TrafficEvent) :
    (log.run events).traffic = log.traffic.run events := by
  induction events generalizing log with
  | nil => rfl
  | cons event events ih =>
      change ((log.step event).run events).traffic = _
      rw [ih, traffic_step]
      rfl

theorem wayBack?_afterCall (faithful : log.Faithful) (made : EngineCall) (cursor : Text) :
    (log.step (.call made)).wayBack? cursor = log.wayBack? cursor ∨
      (log.step (.call made)).wayBack? cursor = none :=
  (Engine.backWithin_call faithful.orderly.coherent faithful.distinct made).2 cursor

theorem faithful_afterCall (faithful : log.Faithful) (made : EngineCall) :
    (log.step (.call made)).Faithful where
  orderly := Traffic.orderly_step faithful.orderly (.call made)
  distinct := (Engine.backWithin_call faithful.orderly.coherent faithful.distinct made).1
  departed := by
    rw [traffic_step, Traffic.outstanding_afterCall]
    refine List.rel_append faithful.departed ?_
    cases started : Traffic.outing? made (log.traffic.engine.call made).1
        (log.traffic.engine.call made).2 with
    | none => exact .nil
    | some outing => exact .cons (Engine.origin_of_outing? started) .nil
  travelled := by
    intro cursor previous known
    change List.find? _ (if made.dropsHistory log.traffic.engine then [] else log.hops) = _
    split
    · rename_i drops
      have forgotten := Engine.previous?_of_dropsHistory drops cursor
      exact absurd (known.symm.trans forgotten) (by simp)
    · rcases wayBack?_afterCall faithful made cursor with same | forgotten
      · exact faithful.travelled cursor previous (same ▸ known)
      · exact absurd (known.symm.trans forgotten) (by simp)

/-- The end of a fetch leaves the history alone, or it brings a page that is
remembered as the log says. -/
theorem cache_afterFinish (faithful : log.Faithful) (place : Nat) (fetched : Fetched) :
    log.hop? (.finish place fetched) = none ∧
        (log.step (.finish place fetched)).traffic.engine.cache = log.traffic.engine.cache ∨
      ∃ left info, log.hop? (.finish place fetched) = Hop.between? left info ∧
        (log.step (.finish place fetched)).traffic.engine.cache =
          Engine.rememberOrigin left info (Engine.rememberNext info log.traffic.engine.cache) := by
  rw [traffic_step]
  cases outstanding : log.traffic.outstanding[place]? with
  | none =>
      rw [Traffic.step_finish_of_absent outstanding]
      exact Or.inl ⟨by simp [hop?, outstanding], rfl⟩
  | some outing =>
      obtain ⟨rfl, only, flies, stepped, result⟩ :=
        faithful.orderly.finish_eq outstanding fetched
      have departed := faithful.departed
      rw [only] at departed
      cases noted : log.departures with
      | nil => simp [noted] at departed
      | cons shown rest =>
          rw [noted] at departed
          have origin : outing.flight.origin = outing.start.leaves shown :=
            (List.forall₂_cons.mp departed).1
          rw [stepped]
          rcases Engine.land_eq flies fetched.read with
            ⟨page, _, _, landed⟩ | ⟨failure, landed⟩
          · right
            refine ⟨outing.start.leaves shown, page.pageInfo, ?_, ?_⟩
            · simp [hop?, outstanding, noted, result, landed]
            · rw [landed, ← origin]
              rfl
          · left
            refine ⟨by simp [hop?, outstanding, noted, result, landed], ?_⟩
            rw [landed]
            rfl

theorem wayBack?_afterFinish (faithful : log.Faithful) (place : Nat) (fetched : Fetched)
    (cursor : Text) :
    (∃ hop, log.hop? (.finish place fetched) = some hop ∧ hop.LeadsTo cursor ∧
        (log.step (.finish place fetched)).wayBack? cursor = some hop.left) ∨
      (∀ hop, log.hop? (.finish place fetched) = some hop → ¬ hop.LeadsTo cursor) ∧
        ((log.step (.finish place fetched)).wayBack? cursor = log.wayBack? cursor ∨
          (log.step (.finish place fetched)).wayBack? cursor = none) := by
  simp only [wayBack?]
  rcases cache_afterFinish faithful place fetched with ⟨stays, same⟩ | ⟨left, info, hops, cache⟩
  · rw [stays, same]
    exact Or.inr ⟨by simp, Or.inl rfl⟩
  · rw [hops, cache]
    have seen := Engine.distinct_rememberNext faithful.distinct info
    rcases Engine.previous?_rememberOrigin seen left info cursor with
      made | ⟨elsewhere, same | forgotten⟩
    · exact Or.inl made
    · refine Or.inr ⟨elsewhere, ?_⟩
      rw [same]
      exact Engine.backWithin_rememberNext faithful.distinct info cursor
    · exact Or.inr ⟨elsewhere, Or.inr forgotten⟩

theorem departed_afterFinish (faithful : log.Faithful) (place : Nat) (fetched : Fetched) :
    List.Forall₂ (fun outing shown => outing.flight.origin = outing.start.leaves shown)
      (log.step (.finish place fetched)).traffic.outstanding
      (log.step (.finish place fetched)).departures := by
  have departed := faithful.departed
  rw [traffic_step]
  cases outstanding : log.traffic.outstanding[place]? with
  | none =>
      have few : log.departures.length ≤ place := by
        rw [← departed.length_eq]
        exact List.getElem?_eq_none_iff.mp outstanding
      rw [Traffic.step_finish_of_absent outstanding]
      change List.Forall₂ _ _ (log.departures.eraseIdx place)
      rw [List.eraseIdx_of_length_le few]
      exact departed
  | some outing =>
      obtain ⟨rfl, only, _, stepped, _⟩ := faithful.orderly.finish_eq outstanding fetched
      have single : log.departures.length = 1 := by rw [← departed.length_eq, only]; rfl
      obtain ⟨shown, noted⟩ := List.length_eq_one_iff.mp single
      rw [stepped]
      change List.Forall₂ _ [] (log.departures.eraseIdx 0)
      rw [noted]
      exact .nil

theorem faithful_afterFinish (faithful : log.Faithful) (place : Nat) (fetched : Fetched) :
    (log.step (.finish place fetched)).Faithful where
  orderly := Traffic.orderly_step faithful.orderly (.finish place fetched)
  distinct := by
    rcases cache_afterFinish faithful place fetched with ⟨_, same⟩ | ⟨left, info, _, cache⟩
    · rw [same]
      exact faithful.distinct
    · rw [cache]
      have seen := Engine.distinct_rememberNext faithful.distinct info
      exact Engine.distinct_rememberOrigin seen left info
  departed := departed_afterFinish faithful place fetched
  travelled := by
    intro cursor previous known
    have hops : (log.step (.finish place fetched)).hops =
        (log.hop? (.finish place fetched)).toList ++ log.hops := rfl
    rcases wayBack?_afterFinish faithful place fetched cursor with
      ⟨hop, completed, leads, back⟩ | ⟨elsewhere, same⟩
    · -- The step that was completed is the latest one to the cursor.
      obtain rfl : hop.left = previous := Option.some.inj (back.symm.trans known)
      rw [hops, completed, Option.toList_some, List.singleton_append, List.find?_cons_of_pos
        (by simpa using leads), ← leads.1]
    · have before : log.wayBack? cursor = some previous := by
        rcases same with kept | forgotten
        · exact kept ▸ known
        · exact absurd (known.symm.trans forgotten) (by simp)
      have latest := faithful.travelled cursor previous before
      rw [hops]
      cases completed : log.hop? (.finish place fetched) with
      | none => exact latest
      | some hop =>
          rw [Option.toList_some, List.singleton_append, List.find?_cons_of_neg
            (by simpa using elsewhere hop completed)]
          exact latest

theorem faithful_step (faithful : log.Faithful) (event : TrafficEvent) :
    (log.step event).Faithful := by
  cases event with
  | call made => exact faithful_afterCall faithful made
  | finish place fetched => exact faithful_afterFinish faithful place fetched

theorem faithful_run (faithful : log.Faithful) (events : List TrafficEvent) :
    (log.run events).Faithful := by
  induction events generalizing log with
  | nil => exact faithful
  | cons event events ih => exact ih (faithful_step faithful event)

theorem Faithful.accounts (faithful : log.Faithful) : log.Accounts where
  travelled := by
    intro cursor previous known
    have latest := faithful.travelled cursor previous known
    have leads := List.find?_some latest
    have apart : previous ≠ cursor := (of_decide_eq_true leads).2
    exact ⟨apart, latest⟩
  made := by
    intro event cursor
    cases event with
    | call made =>
        rcases wayBack?_afterCall faithful made cursor with same | forgotten
        · exact Or.inl same
        · exact Or.inr (Or.inl forgotten)
    | finish place fetched =>
        rcases wayBack?_afterFinish faithful place fetched cursor with
          completed | ⟨_, same | forgotten⟩
        · exact Or.inr (Or.inr completed)
        · exact Or.inl same
        · exact Or.inr (Or.inl forgotten)

/-- In every run of an engine with an empty history, of any bound, the log accounts
for every way back. -/
theorem ways_back_are_travelled (request : Pagination) (bound : Option Count)
    (events : List TrafficEvent) :
    let log := (opening request (.empty bound)).run events
    log.traffic = (Traffic.opening request (.empty bound)).run events ∧ log.Accounts :=
  ⟨traffic_run _ _, (faithful_run (faithful_opening request bound) events).accounts⟩

/-- A step forward from one page to the next, during which another page is
observed, in a history of one entry. -/
theorem way_back_to_page_left :
    let log := (opening (.cursor ⟨none, none⟩) (.empty (some ⟨1, by decide⟩))).run
      [.call (.navigate (.refetch none)), .finish 0 (.page ⟨[], .cursor ⟨"a", some "b"⟩⟩),
        .call (.navigate .next), .call (.observe (.cursor ⟨"x", some "y"⟩)),
        .finish 0 (.page ⟨[], .cursor ⟨"b", some "a"⟩⟩)]
    log.wayBack? "b" = some "a" ∧ log.hops.find? (Hop.LeadsTo "b" ·) = some ⟨"a", "b"⟩ := by
  refine ⟨rfl, ?_⟩
  exact ((ways_back_are_travelled _ _ _).2.travelled "b" "a" rfl).2

end TravelLog
end CatalogQuery
