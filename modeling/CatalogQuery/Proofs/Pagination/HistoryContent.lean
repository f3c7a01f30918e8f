import CatalogQuery.Proofs.Pagination.Recency
import CatalogQuery.Proofs.Pagination.Turn
import Mathlib.Data.List.Dedup
import Mathlib.Data.List.DropRight
import Mathlib.Data.Nat.Find

/-!
# What a cursor history holds

What a history holds can be told from the calls that were made on it, without keeping
a history: the cursors that were recorded since it was last cleared, in the order of
their last record, as many of them as the bound leaves room for (`held`), each with
the links that were recorded since it last came in (`stay`).  A history that started
empty holds exactly this after any calls (`calls_hold_newest`).

As a bounded history only lets go of cursors, the links that it does know are those of
an unbounded one.
-/

namespace CatalogQuery

/-- What can be asked of a history. -/
inductive CacheQuestion where
  | links (cursor : Text)
  | link (turn : PageTurn) (cursor : Text)
  | contains (cursor : Text)
  | size
  | all

inductive CacheAnswer where
  | done
  | links (known : Option CursorLinks)
  | link (known : Option Text)
  | contains (known : Bool)
  | size (count : Nat)
  | all (entries : Fields CursorLinks)

inductive CacheCall where
  /-- Record where a turn of the page of a cursor leads. -/
  | record (turn : PageTurn) (cursor linked : Text)
  | clear
  | ask (question : CacheQuestion)

/-- The link of a cursor that a turn follows. -/
def CursorLinks.to (turn : PageTurn) (links : CursorLinks) : Option Text :=
  match turn with
  | .next => links.next
  | .previous => links.previous

namespace CursorCache

/-- Where a turn of the page of a cursor leads. -/
def link? (turn : PageTurn) (cursor : Text) (cache : CursorCache) : Option Text :=
  match turn with
  | .next => cache.next? cursor
  | .previous => cache.previous? cursor

def answer (cache : CursorCache) : CacheQuestion → CacheAnswer
  | .links cursor => .links (cache.get? cursor)
  | .link turn cursor => .link (cache.link? turn cursor)
  | .contains cursor => .contains (cache.contains cursor)
  | .size => .size cache.size
  | .all => .all cache.entries

/-- The history after a call, with the answer. -/
def call (cache : CursorCache) : CacheCall → CursorCache × CacheAnswer
  | .record .next cursor linked => (cache.recordNext cursor linked, .done)
  | .record .previous cursor linked => (cache.recordPrevious cursor linked, .done)
  | .clear => (cache.clear, .done)
  | .ask question => (cache, cache.answer question)

def calls (cache : CursorCache) (made : List CacheCall) : CursorCache :=
  made.foldl (fun cache made => (cache.call made).1) cache

end CursorCache

/-! ## What the calls alone say -/

namespace CacheCall

def isClear : CacheCall → Bool
  | clear => true
  | _ => false

def isAsk : CacheCall → Bool
  | ask _ => true
  | _ => false

def recorded? : CacheCall → Option Text
  | record _ cursor _ => some cursor
  | _ => none

/-- The link that a call records for a cursor. -/
def linked? (turn : PageTurn) (cursor : Text) : CacheCall → Option Text
  | record made of linked => if made = turn ∧ of = cursor then some linked else none
  | _ => none

end CacheCall

/-- The cursors that were recorded since the history was last cleared, each once, in the
order of their last record. -/
def ranked (made : List CacheCall) : List Text :=
  ((made.rtakeWhile (!·.isClear)).filterMap CacheCall.recorded?).dedup

/-- The last items that a bound leaves room for. -/
def newestOf {α : Type} (bound : Option Count) (items : List α) : List α :=
  match bound with
  | none => items
  | some count => items.rtake count.val

/-- The cursors that a history with a bound holds after calls. -/
def held (bound : Option Count) (made : List CacheCall) : List Text :=
  newestOf bound (ranked made)

/-- The calls since a cursor last came into a history with a bound: all that followed
the last moment at which it was not held. -/
def stay (bound : Option Count) (cursor : Text) (made : List CacheCall) : List CacheCall :=
  made.drop (Nat.findGreatest (fun count => cursor ∉ held bound (made.take count)) made.length)

/-- The link that was recorded last for a cursor. -/
def lastLink? (turn : PageTurn) (cursor : Text) (made : List CacheCall) : Option Text :=
  (made.filterMap (CacheCall.linked? turn cursor)).getLast?

/-- The links of a cursor that is held. -/
def stayLinks (bound : Option Count) (cursor : Text) (made : List CacheCall) : CursorLinks :=
  ⟨lastLink? .next cursor (stay bound cursor made),
    lastLink? .previous cursor (stay bound cursor made)⟩

/-- The entries of a history with a bound after calls. -/
def heldEntries (bound : Option Count) (made : List CacheCall) : Fields CursorLinks :=
  (held bound made).map fun cursor => (cursor, stayLinks bound cursor made)

/-- What is answered of what a history with a bound holds after calls. -/
def heldAnswer (bound : Option Count) (made : List CacheCall) : CacheQuestion → CacheAnswer
  | .links cursor =>
      .links (if cursor ∈ held bound made then some (stayLinks bound cursor made) else none)
  | .link turn cursor =>
      .link (if cursor ∈ held bound made then lastLink? turn cursor (stay bound cursor made)
        else none)
  | .contains cursor => .contains (decide (cursor ∈ held bound made))
  | .size => .size (held bound made).length
  | .all => .all (heldEntries bound made)

/-- A history that is what calls on an empty one come to. -/
structure CursorCache.HoldsNewest (bound : Option Count) (made : List CacheCall)
    (cache : CursorCache) : Prop where
  entries : cache.entries = heldEntries bound made
  size : cache.size =
    bound.elim (ranked made).length fun count => min count.val (ranked made).length
  recorded : ∀ earlier turn cursor linked, made = earlier ++ [.record turn cursor linked] →
    cache.contains cursor = true
  answers : ∀ question, (cache.call (.ask question)).2 = heldAnswer bound made question
  /-- To ask changes nothing, not even what is let go of later. -/
  asking : cache = (CursorCache.empty bound).calls (made.filter (!·.isAsk))
  /-- Without a bound the same calls come to the same links, and more. -/
  unbounded : ∀ turn cursor linked, cache.link? turn cursor = some linked →
    ((CursorCache.empty none).calls made).link? turn cursor = some linked

/-! ## Cursors that are held -/

theorem dedup_concat {α : Type*} [DecidableEq α] (items : List α) (last : α) :
    (items ++ [last]).dedup = items.dedup.filter (· != last) ++ [last] := by
  induction items with
  | nil => rfl
  | cons first rest ih =>
      by_cases again : first ∈ rest
      · rw [List.cons_append, List.dedup_cons_of_mem (by simp [again]), ih,
          List.dedup_cons_of_mem again]
      · by_cases same : first = last
        · rw [List.cons_append, List.dedup_cons_of_mem (by simp [same]), ih,
            List.dedup_cons_of_notMem again]
          simp [same]
        · rw [List.cons_append, List.dedup_cons_of_notMem (by simp [again, same]), ih,
            List.dedup_cons_of_notMem again]
          simp [same]

variable {bound : Option Count} {made : List CacheCall} {turn : PageTurn}
  {cursor other linked : Text}

theorem nodup_ranked (made : List CacheCall) : (ranked made).Nodup := List.nodup_dedup _

theorem ranked_record :
    ranked (made ++ [.record turn cursor linked]) =
      (ranked made).filter (· != cursor) ++ [cursor] := by
  simp only [ranked, List.rtakeWhile_concat, CacheCall.isClear, Bool.not_false, if_true,
    List.filterMap_append]
  exact dedup_concat _ cursor

theorem ranked_clear : ranked (made ++ [.clear]) = [] := by
  rw [ranked, List.rtakeWhile_concat]
  rfl

theorem ranked_ask (question : CacheQuestion) : ranked (made ++ [.ask question]) = ranked made := by
  simp only [ranked, List.rtakeWhile_concat, CacheCall.isClear, Bool.not_false, if_true,
    List.filterMap_append]
  exact congrArg List.dedup (List.append_nil _)

theorem held_clear : held bound (made ++ [.clear]) = [] := by
  rw [held, ranked_clear]
  cases bound with
  | none => rfl
  | some count => exact List.rtake_nil _

theorem held_ask (question : CacheQuestion) :
    held bound (made ++ [.ask question]) = held bound made := by
  rw [held, ranked_ask, held]

/-- The last items that a bound leaves room for beside one more. -/
def keptBeside {α : Type} (bound : Option Count) (items : List α) : List α :=
  match bound with
  | none => items
  | some count => items.rtake (count.val - 1)

section Kept

variable {α β : Type} {items : List α}

theorem newestOf_sublist : (newestOf bound items).Sublist items := by
  cases bound with
  | none => exact List.Sublist.refl _
  | some count => exact List.drop_sublist _ _

theorem keptBeside_sublist : (keptBeside bound items).Sublist items := by
  cases bound with
  | none => exact List.Sublist.refl _
  | some count => exact List.drop_sublist _ _

theorem keptBeside_map (f : α → β) :
    keptBeside bound (items.map f) = (keptBeside bound items).map f := by
  cases bound with
  | none => rfl
  | some count => simp [keptBeside, List.rtake]

/-- The last item is always left room for. -/
theorem newestOf_concat (last : α) :
    newestOf bound (items ++ [last]) = keptBeside bound items ++ [last] := by
  cases bound with
  | none => rfl
  | some count =>
      have size : count.val = count.val - 1 + 1 := (Nat.sub_add_cancel count.property).symm
      rw [newestOf, size, List.rtake_concat_succ, keptBeside]

/-- What is left beside one more when an item is taken out is found among the last items
alone. -/
theorem keptBeside_filter_newestOf [DecidableEq α] (distinct : items.Nodup) (taken : α) :
    keptBeside bound ((newestOf bound items).filter (· != taken)) =
      keptBeside bound (items.filter (· != taken)) := by
  cases bound with
  | none => rfl
  | some count =>
      obtain ⟨size, positive⟩ := count
      simp only [keptBeside, newestOf]
      set early := items.take (items.length - size)
      set late := items.rtake size with late_eq
      have split : early ++ late = items := List.take_append_drop _ _
      by_cases few : items.length ≤ size
      · have all : late = items := by
          rw [late_eq, List.rtake, Nat.sub_eq_zero_of_le few, List.drop_zero]
        rw [all]
      · have full : late.length = size := by
          rw [late_eq, List.rtake, List.length_drop]
          omega
        -- One item at most is taken out, so that the last ones still suffice.
        have enough : size - 1 ≤ (late.filter (· != taken)).length := by
          have late_distinct : late.Nodup := distinct.sublist (List.drop_sublist _ _)
          rw [← late_distinct.erase_eq_filter, List.length_erase]
          split <;> omega
        have past : (early.filter (· != taken)).length ≤
            (early.filter (· != taken)).length + (late.filter (· != taken)).length -
              (size - 1) := by
          omega
        rw [← split, List.filter_append, List.rtake, List.rtake, List.length_append,
          List.drop_append, List.drop_eq_nil_of_le past, List.nil_append]
        congr 1
        omega

end Kept

/-- A cursor that is recorded is held as the last one, and the others are those that are
left room for. -/
theorem held_record :
    held bound (made ++ [.record turn cursor linked]) =
      keptBeside bound ((held bound made).filter (· != cursor)) ++ [cursor] := by
  rw [held, ranked_record, newestOf_concat, held,
    keptBeside_filter_newestOf (nodup_ranked made)]

theorem mem_held_record : cursor ∈ held bound (made ++ [.record turn cursor linked]) := by
  simp [held_record]

/-! ## Stays -/

theorem findGreatest_congr {p q : Nat → Prop} [DecidablePred p] [DecidablePred q] {limit : Nat}
    (same : ∀ n ≤ limit, p n ↔ q n) : Nat.findGreatest p limit = Nat.findGreatest q limit := by
  induction limit with
  | zero => rfl
  | succ limit ih =>
      rw [Nat.findGreatest_succ, Nat.findGreatest_succ, ih fun n below => same n (by omega)]
      simp only [same (limit + 1) (Nat.le_refl _)]

/-- A call makes the stay of a cursor longer, unless the cursor is not held after it. -/
theorem stay_concat (call : CacheCall) :
    stay bound cursor (made ++ [call]) =
      if cursor ∈ held bound (made ++ [call]) then stay bound cursor made ++ [call] else [] := by
  have whole : (made ++ [call]).take (made.length + 1) = made ++ [call] :=
    List.take_of_length_le (by simp)
  have earlier : Nat.findGreatest (fun count => cursor ∉ held bound ((made ++ [call]).take count))
        made.length =
      Nat.findGreatest (fun count => cursor ∉ held bound (made.take count)) made.length := by
    apply findGreatest_congr
    intro count within
    rw [List.take_append_of_le_length within]
  rw [stay, List.length_append, List.length_singleton, Nat.findGreatest_succ, whole, earlier]
  by_cases kept : cursor ∈ held bound (made ++ [call])
  · rw [if_neg (not_not.mpr kept), if_pos kept,
      List.drop_append_of_le_length (Nat.findGreatest_le _)]
    rfl
  · rw [if_pos kept, if_neg kept]
    simp

theorem stay_of_not_mem (absent : cursor ∉ held bound made) : stay bound cursor made = [] := by
  have last : Nat.findGreatest (fun count => cursor ∉ held bound (made.take count)) made.length =
      made.length := by
    apply Nat.findGreatest_eq
    rw [List.take_length]
    exact absent
  rw [stay, last, List.drop_length]

/-- A cursor stays no longer in a bounded history than in an unbounded one. -/
theorem stay_suffix : stay bound cursor made <:+ stay none cursor made := by
  have longer : Nat.findGreatest (fun count => cursor ∉ held none (made.take count)) made.length ≤
      Nat.findGreatest (fun count => cursor ∉ held bound (made.take count)) made.length := by
    -- The unbounded history lacks the cursor only when the bounded one does.
    apply Nat.findGreatest_mono_left
    intro count absent kept
    exact absent (newestOf_sublist.subset kept)
  obtain ⟨more, found⟩ := Nat.exists_eq_add_of_le longer
  rw [stay, stay, found, ← List.drop_drop]
  exact List.drop_suffix _ _

theorem lastLink?_concat (call : CacheCall) :
    lastLink? turn cursor (made ++ [call]) =
      (call.linked? turn cursor).or (lastLink? turn cursor made) := by
  cases recorded : call.linked? turn cursor with
  | none => simp [lastLink?, recorded]
  | some linked => simp [lastLink?, recorded]

theorem lastLink?_of_suffix {late : List CacheCall} (suffix : late <:+ made)
    (found : lastLink? turn cursor late = some linked) :
    lastLink? turn cursor made = some linked := by
  obtain ⟨early, rfl⟩ := suffix
  rw [lastLink?] at found ⊢
  rw [List.filterMap_append, List.getLast?_append, found]
  rfl

/-! ## The entries of a history -/

/-- A call on a cursor that is held on changes its links as it would without a bound. -/
theorem stayLinks_concat (call : CacheCall) (kept : cursor ∈ held bound (made ++ [call])) :
    stayLinks bound cursor (made ++ [call]) =
      ⟨(call.linked? .next cursor).or (stayLinks bound cursor made).next,
        (call.linked? .previous cursor).or (stayLinks bound cursor made).previous⟩ := by
  rw [stayLinks, stay_concat, if_pos kept, lastLink?_concat, lastLink?_concat]
  rfl

theorem stayLinks_of_not_mem (absent : cursor ∉ held bound made) :
    stayLinks bound cursor made = ⟨none, none⟩ := by
  rw [stayLinks, stay_of_not_mem absent]
  rfl

theorem stayLinks_record_of_ne (different : other ≠ cursor)
    (kept : other ∈ held bound (made ++ [.record turn cursor linked])) :
    stayLinks bound other (made ++ [.record turn cursor linked]) =
      stayLinks bound other made := by
  rw [stayLinks_concat _ kept]
  simp [CacheCall.linked?, Ne.symm different]

theorem stayLinks_ask (question : CacheQuestion) (kept : cursor ∈ held bound made) :
    stayLinks bound cursor (made ++ [.ask question]) = stayLinks bound cursor made := by
  rw [stayLinks_concat _ (by rw [held_ask]; exact kept)]
  rfl

theorem get?_map {α : Type} (f : Text → α) {name : Text} {names : List Text} :
    Fields.get? name (names.map fun name => (name, f name)) =
      if name ∈ names then some (f name) else none := by
  induction names with
  | nil => rfl
  | cons first rest ih =>
      by_cases same : first = name
      · simp [Fields.get?, same]
      · simp [Fields.get?, same, ih, Ne.symm same]

theorem erase_map {α : Type} (f : Text → α) (name : Text) (names : List Text) :
    Fields.erase name (names.map fun name => (name, f name)) =
      (names.filter (· != name)).map fun name => (name, f name) := by
  simp [Fields.erase, List.filter_map, Function.comp_def]

theorem get?_heldEntries :
    Fields.get? cursor (heldEntries bound made) =
      if cursor ∈ held bound made then some (stayLinks bound cursor made) else none :=
  get?_map fun cursor => stayLinks bound cursor made

namespace CursorCache

/-- The links that are changed when a cursor is recorded: its own, or none if it comes
in. -/
theorem getD_heldEntries :
    (Fields.get? cursor (heldEntries bound made)).getD ⟨none, none⟩ =
      stayLinks bound cursor made := by
  rw [get?_heldEntries]
  split
  · rfl
  · next absent => rw [stayLinks_of_not_mem absent]; rfl

/-- The change of links that a record comes to. -/
def change (turn : PageTurn) (linked : Text) (links : CursorLinks) : CursorLinks :=
  match turn with
  | .next => { links with next := some linked }
  | .previous => { links with previous := some linked }

theorem call_record (cache : CursorCache) :
    (cache.call (.record turn cursor linked)).1 = cache.record cursor (change turn linked) := by
  cases turn <;> rfl

theorem stayLinks_record :
    stayLinks bound cursor (made ++ [.record turn cursor linked]) =
      change turn linked (stayLinks bound cursor made) := by
  rw [stayLinks_concat _ mem_held_record]
  cases turn <;> simp [CacheCall.linked?, change]

theorem newest_eq (entries : Fields CursorLinks) :
    newest bound entries = newestOf bound entries := by
  cases bound <;> rfl

theorem entries_record {cache : CursorCache} (bounded : cache.bound = bound)
    (listed : cache.entries = heldEntries bound made) :
    (cache.call (.record turn cursor linked)).1.entries =
      heldEntries bound (made ++ [.record turn cursor linked]) := by
  -- The record is not one of the other cursors, so that their links stay.
  have same : (keptBeside bound ((held bound made).filter (· != cursor))).map
        (fun other => (other, stayLinks bound other made)) =
      (keptBeside bound ((held bound made).filter (· != cursor))).map
        (fun other => (other, stayLinks bound other (made ++ [.record turn cursor linked]))) := by
    apply List.map_congr_left
    intro other member
    have different : other ≠ cursor := by
      simpa using (List.mem_filter.mp (keptBeside_sublist.subset member)).2
    have kept : other ∈ held bound (made ++ [.record turn cursor linked]) := by
      rw [held_record]
      exact List.mem_append_left _ member
    rw [stayLinks_record_of_ne different kept]
  calc (cache.call (.record turn cursor linked)).1.entries
      = newestOf bound (Fields.erase cursor (heldEntries bound made) ++
          [(cursor, change turn linked (stayLinks bound cursor made))]) := by
        rw [call_record, record, bounded, newest_eq, get?, listed, getD_heldEntries]
    _ = (keptBeside bound ((held bound made).filter (· != cursor))).map
            (fun other => (other, stayLinks bound other made)) ++
          [(cursor, change turn linked (stayLinks bound cursor made))] := by
        rw [newestOf_concat, heldEntries, erase_map, keptBeside_map]
    _ = heldEntries bound (made ++ [.record turn cursor linked]) := by
        rw [same, heldEntries, held_record, List.map_append, List.map_singleton, stayLinks_record]

theorem calls_concat (cache : CursorCache) (made : List CacheCall) (call : CacheCall) :
    cache.calls (made ++ [call]) = ((cache.calls made).call call).1 :=
  List.foldl_concat ..

theorem bound_calls (cache : CursorCache) (made : List CacheCall) :
    (cache.calls made).bound = cache.bound := by
  induction made using List.reverseRecOn with
  | nil => rfl
  | append_singleton made call ih =>
      rw [calls_concat, ← ih]
      cases call with
      | record turn cursor linked => rw [call_record]; rfl
      | clear => rfl
      | ask question => rfl

/-- After any calls on an empty history its entries are those that the calls say. -/
theorem entries_calls (bound : Option Count) (made : List CacheCall) :
    ((empty bound).calls made).entries = heldEntries bound made := by
  -- On the last call, as each of the two sides has a law for one more.
  induction made using List.reverseRecOn with
  | nil =>
      have nothing : held bound [] = [] := List.sublist_nil.mp newestOf_sublist
      rw [heldEntries, nothing]
      rfl
  | append_singleton made call ih =>
      rw [calls_concat]
      cases call with
      | record turn cursor linked => exact entries_record (bound_calls _ made) ih
      | clear =>
          rw [heldEntries, held_clear]
          rfl
      | ask question =>
          rw [heldEntries, held_ask]
          refine Eq.trans ih (List.map_congr_left ?_)
          intro cursor kept
          rw [stayLinks_ask question kept]

theorem get?_calls (bound : Option Count) (made : List CacheCall) (cursor : Text) :
    ((empty bound).calls made).get? cursor =
      if cursor ∈ held bound made then some (stayLinks bound cursor made) else none := by
  rw [get?, entries_calls, get?_heldEntries]

theorem cursors_calls (bound : Option Count) (made : List CacheCall) :
    ((empty bound).calls made).cursors = held bound made := by
  rw [cursors, entries_calls, Fields.names, heldEntries, List.map_map]
  exact List.map_id _

theorem calls_filter (cache : CursorCache) (made : List CacheCall) :
    cache.calls (made.filter (!·.isAsk)) = cache.calls made := by
  induction made generalizing cache with
  | nil => rfl
  | cons call rest ih =>
      cases call with
      | ask question => exact ih cache
      | record turn cursor linked => exact ih _
      | clear => exact ih _

theorem link?_eq (cache : CursorCache) :
    cache.link? turn cursor = (cache.get? cursor).bind (·.to turn) := by
  cases turn <;> rfl

theorem to_stayLinks : (stayLinks bound cursor made).to turn =
    lastLink? turn cursor (stay bound cursor made) := by
  cases turn <;> rfl

/-- Every question is answered by what is held. -/
theorem answer_calls (bound : Option Count) (made : List CacheCall) (question : CacheQuestion) :
    ((empty bound).calls made).answer question = heldAnswer bound made question := by
  cases question with
  | links cursor => rw [answer, get?_calls, heldAnswer]
  | link turn cursor =>
      rw [answer, link?_eq, get?_calls, heldAnswer]
      split
      · rw [Option.bind_some, to_stayLinks]
      · rfl
  | contains cursor =>
      rw [answer, contains, get?_calls, heldAnswer]
      split <;> simp [*]
  | size => rw [answer, size_eq_length, cursors_calls, heldAnswer]
  | all => rw [answer, entries_calls, heldAnswer]

/-- A history that lets go of cursors never answers with another link than one that
holds all of them. -/
theorem link?_calls_unbounded
    (known : ((empty bound).calls made).link? turn cursor = some linked) :
    ((empty none).calls made).link? turn cursor = some linked := by
  rw [link?_eq, get?_calls] at known ⊢
  by_cases kept : cursor ∈ held bound made
  · have kept_all : cursor ∈ held none made := newestOf_sublist.subset kept
    rw [if_pos kept, Option.bind_some, to_stayLinks] at known
    rw [if_pos kept_all, Option.bind_some, to_stayLinks]
    exact lastLink?_of_suffix stay_suffix known
  · rw [if_neg kept] at known
    cases known

/-- A history that started empty holds the cursors that were recorded last, with the
links that were recorded since they came in. -/
theorem calls_hold_newest (bound : Option Count) (made : List CacheCall) :
    HoldsNewest bound made ((empty bound).calls made) where
  entries := entries_calls bound made
  size := by
    rw [size_eq_length, cursors_calls]
    cases bound with
    | none => rfl
    | some count =>
        simp only [held, newestOf, List.rtake, List.length_drop, Option.elim]
        omega
  recorded := by
    rintro earlier turn cursor linked rfl
    rw [contains, get?_calls, if_pos mem_held_record]
    rfl
  answers := answer_calls bound made
  asking := (calls_filter _ made).symm
  unbounded := fun _ _ _ => link?_calls_unbounded

end CursorCache
end CatalogQuery
