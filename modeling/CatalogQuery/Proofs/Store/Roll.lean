import CatalogQuery.Proofs.Store.Writing
import Mathlib.Data.List.Basic
import Mathlib.Data.List.Induction

/-!
# The roll of subscriptions

A subscription gives back a function that cancels it, which may be called any number of
times.  The function only knows the listener, and takes one registration of the listener
away whichever subscription that came from.  Where a listener is subscribed more than once,
a call that finds its own subscription ended therefore ends another one (`Roll.ended?`).

A subscription that stands is open: its own function was not called since it was made
(`openAfter_of_standing`).  All open subscriptions stand throughout a run if and only if no call
in it strays (`standing_throughout_iff`).
-/

namespace CatalogQuery

/-- What happens to a store whose listeners only listen.  Subscriptions are numbered from
zero in the order in which they are made. -/
inductive SubscriptionEvent where
  | subscribe (listener : String)
  /-- Call the function that a subscription gave back. -/
  | cancel (subscription : Nat)
  | write (made : StoreWrite)

/-- The listener of every subscription that was made, and the numbers of those that
stand. -/
structure Roll where
  made : List String
  standing : List Nat

namespace Roll

def empty : Roll := ⟨[], []⟩

/-- The subscription that a call of the function of a subscription ends: its own, or if that
does not stand, the first one that stands for the same listener. -/
def ended? (subscription : Nat) (roll : Roll) : Option Nat :=
  if subscription ∈ roll.standing then some subscription
  else roll.standing.find? fun other => roll.made[other]? == roll.made[subscription]?

def step (roll : Roll) : SubscriptionEvent → Roll
  | .subscribe listener => ⟨roll.made ++ [listener], roll.standing ++ [roll.made.length]⟩
  | .cancel subscription =>
      { roll with standing := (roll.ended? subscription).elim roll.standing roll.standing.erase }
  | .write _ => roll

def of (events : List SubscriptionEvent) : Roll := events.foldl step empty

def listeners (roll : Roll) : List String := roll.standing.filterMap (roll.made[·]?)

/-- Whether an event is a call that ends another subscription than its own. -/
def isStray (roll : Roll) : SubscriptionEvent → Bool
  | .cancel subscription => (roll.ended? subscription).any (· != subscription)
  | _ => false

def strays (roll : Roll) : List SubscriptionEvent → Bool
  | [] => false
  | event :: rest => roll.isStray event || (roll.step event).strays rest

/-- A roll on which every number is that of a subscription, and stands once. -/
structure Sound (roll : Roll) : Prop where
  distinct : roll.standing.Nodup
  numbered : ∀ subscription ∈ roll.standing, subscription < roll.made.length

end Roll

/-- A subscription that was made, and whose own function was not called since. -/
def OpenAfter (events : List SubscriptionEvent) (subscription : Nat) : Prop :=
  ∃ before listener after, events = before ++ .subscribe listener :: after ∧
    (Roll.of before).made.length = subscription ∧ SubscriptionEvent.cancel subscription ∉ after

namespace Roll

variable {roll : Roll} {subscription other : Nat}

theorem standing_of_ended? (ends : roll.ended? subscription = some other) :
    other ∈ roll.standing ∧ roll.made[other]? = roll.made[subscription]? := by
  unfold ended? at ends
  split at ends
  · next stands =>
    cases ends
    exact ⟨stands, rfl⟩
  · have same : (roll.made[other]? == roll.made[subscription]?) = true := by
      simpa using List.find?_some ends
    exact ⟨List.mem_of_find?_eq_some ends, eq_of_beq same⟩

theorem made_ne_of_ended?_eq_none (ends : roll.ended? subscription = none) :
    ∀ other ∈ roll.standing, roll.made[other]? ≠ roll.made[subscription]? := by
  unfold ended? at ends
  split at ends
  · cases ends
  · intro other stands same
    exact List.find?_eq_none.mp ends other stands (beq_iff_eq.mpr same)

theorem of_concat (events : List SubscriptionEvent) (event : SubscriptionEvent) :
    of (events ++ [event]) = (of events).step event := by
  simp [of]

theorem strays_concat (roll : Roll) (events : List SubscriptionEvent) (event : SubscriptionEvent) :
    roll.strays (events ++ [event]) =
      (roll.strays events || (events.foldl step roll).isStray event) := by
  induction events generalizing roll with
  | nil => simp [strays]
  | cons first rest ih => simp [strays, ih, Bool.or_assoc]

theorem sound_empty : empty.Sound := ⟨List.nodup_nil, by simp [empty]⟩

theorem Sound.step (sound : roll.Sound) (event : SubscriptionEvent) : (roll.step event).Sound := by
  obtain ⟨distinct, numbered⟩ := sound
  cases event with
  | subscribe listener =>
      have fresh : roll.made.length ∉ roll.standing := fun stands =>
        Nat.lt_irrefl _ (numbered _ stands)
      refine ⟨?_, fun number stands => ?_⟩
      · simpa [Roll.step, List.nodup_append, fresh] using
          ⟨distinct, fun number stands same => fresh (same ▸ stands)⟩
      · simp only [Roll.step, List.mem_append, List.mem_singleton, List.length_append,
          List.length_singleton] at stands ⊢
        rcases stands with stands | rfl
        · exact Nat.lt_succ_of_lt (numbered number stands)
        · exact Nat.lt_succ_self _
  | cancel subscription =>
      simp only [Roll.step]
      cases roll.ended? subscription with
      | none => exact ⟨distinct, numbered⟩
      | some other =>
          exact ⟨distinct.erase other, fun number stands =>
            numbered number (List.mem_of_mem_erase stands)⟩
  | write made => exact ⟨distinct, numbered⟩

theorem sound_of (events : List SubscriptionEvent) : (of events).Sound := by
  induction events using List.reverseRecOn with
  | nil => exact sound_empty
  | append_singleton events event ih =>
      rw [of_concat]
      exact ih.step event

theorem mem_standing_cancel (sound : roll.Sound) {called : Nat} :
    subscription ∈ (roll.step (.cancel called)).standing ↔
      subscription ∈ roll.standing ∧ roll.ended? called ≠ some subscription := by
  simp only [step]
  cases ends : roll.ended? called with
  | none => simp
  | some other =>
      simp only [Option.elim_some, sound.distinct.mem_erase_iff, ne_eq, Option.some.injEq]
      exact ⟨fun ⟨apart, stands⟩ => ⟨stands, Ne.symm apart⟩,
        fun ⟨stands, apart⟩ => ⟨Ne.symm apart, stands⟩⟩

theorem isStray_eq_false_iff :
    roll.isStray (.cancel subscription) = false ↔
      ∀ other, roll.ended? subscription = some other → other = subscription := by
  simp only [isStray]
  cases roll.ended? subscription <;> simp

/-- Before a subscription is made there is no function of its own to call. -/
theorem step_cancel_of_unmade (sound : roll.Sound) (unmade : roll.made[subscription]? = none) :
    roll.step (.cancel subscription) = roll := by
  have spared : roll.ended? subscription = none := by
    cases ends : roll.ended? subscription with
    | none => rfl
    | some other =>
        obtain ⟨stands, same⟩ := standing_of_ended? ends
        have numbered := sound.numbered other stands
        rw [unmade, List.getElem?_eq_none_iff] at same
        omega
  rw [step, spared]
  rfl

theorem listeners_subscribe (sound : roll.Sound) (listener : String) :
    (roll.step (.subscribe listener)).listeners = roll.listeners ++ [listener] := by
  have before : roll.standing.filterMap ((roll.made ++ [listener])[·]?) = roll.listeners :=
    List.filterMap_congr fun number stands =>
      List.getElem?_append_left (sound.numbered number stands)
  rw [← before]
  simp [step, listeners]

/-- Whichever subscription a call ends, one registration of the listener goes. -/
theorem listeners_cancel {listener : String} (named : roll.made[subscription]? = some listener) :
    (roll.step (.cancel subscription)).listeners.Perm (roll.listeners.erase listener) := by
  simp only [step]
  cases ends : roll.ended? subscription with
  | none =>
      have absent : listener ∉ roll.listeners := by
        intro present
        obtain ⟨other, stands, same⟩ := List.mem_filterMap.mp present
        exact made_ne_of_ended?_eq_none ends other stands (same.trans named.symm)
      rw [List.erase_of_not_mem absent]
      rfl
  | some other =>
      obtain ⟨stands, same⟩ := standing_of_ended? ends
      have split : roll.listeners.Perm
          (listener :: (roll.standing.erase other).filterMap (roll.made[·]?)) := by
        have taken := (List.perm_cons_erase stands).filterMap (roll.made[·]?)
        rwa [List.filterMap_cons_some (same.trans named)] at taken
      simpa [listeners] using (split.erase listener).symm

end Roll

/-! ## Open subscriptions -/

variable {events : List SubscriptionEvent} {event : SubscriptionEvent} {subscription : Nat}

theorem openAfter_concat_iff :
    OpenAfter (events ++ [event]) subscription ↔
      (OpenAfter events subscription ∧ event ≠ .cancel subscription) ∨
        (∃ listener, event = .subscribe listener) ∧
          subscription = (Roll.of events).made.length := by
  constructor
  · rintro ⟨before, listener, after, split, numbered, silent⟩
    -- The last event makes the subscription, or comes after it.
    rcases List.eq_nil_or_concat after with rfl | ⟨after, last, rfl⟩
    · obtain ⟨rfl, same⟩ := List.append_inj' split rfl
      exact Or.inr ⟨⟨listener, by simpa using same⟩, numbered.symm⟩
    · rw [List.concat_eq_append] at split silent
      rw [← List.cons_append, ← List.append_assoc] at split
      obtain ⟨rfl, same⟩ := List.append_inj' split rfl
      obtain rfl : event = last := by simpa using same
      simp only [List.mem_append, List.mem_singleton, not_or] at silent
      exact Or.inl ⟨⟨before, listener, after, rfl, numbered, silent.1⟩, Ne.symm silent.2⟩
  · rintro (⟨⟨before, listener, after, rfl, numbered, silent⟩, other⟩ | ⟨⟨listener, rfl⟩, rfl⟩)
    · refine ⟨before, listener, after ++ [event], by simp, numbered, ?_⟩
      simp [silent, Ne.symm other]
    · exact ⟨events, listener, [], rfl, rfl, by simp⟩

theorem openAfter_of_standing (stands : subscription ∈ (Roll.of events).standing) :
    OpenAfter events subscription := by
  induction events using List.reverseRecOn with
  | nil => cases stands
  | append_singleton events event ih =>
      rw [Roll.of_concat] at stands
      rw [openAfter_concat_iff]
      cases event with
      | subscribe listener =>
          simp only [Roll.step, List.mem_append, List.mem_singleton] at stands
          rcases stands with stands | rfl
          · exact Or.inl ⟨ih stands, nofun⟩
          · exact Or.inr ⟨⟨listener, rfl⟩, rfl⟩
      | cancel called =>
          obtain ⟨stood, spared⟩ := (Roll.mem_standing_cancel (Roll.sound_of events)).mp stands
          refine Or.inl ⟨ih stood, ?_⟩
          -- A call always ends its own subscription if that stands.
          rintro ⟨⟩
          exact spared (if_pos stood)
      | write made => exact Or.inl ⟨ih stands, nofun⟩

/-- A run in which all open subscriptions stand goes on like that if and only if the next
event is no stray call. -/
theorem standing_concat_iff
    (complete : ∀ number, OpenAfter events number → number ∈ (Roll.of events).standing) :
    (∀ number, OpenAfter (events ++ [event]) number →
        number ∈ (Roll.of (events ++ [event])).standing) ↔
      (Roll.of events).isStray event = false := by
  rw [Roll.of_concat]
  simp only [openAfter_concat_iff]
  cases event with
  | subscribe listener =>
      refine iff_of_true ?_ rfl
      rintro number (⟨opened, -⟩ | ⟨-, rfl⟩)
      · exact List.mem_append_left _ (complete number opened)
      · simp [Roll.step]
  | cancel called =>
      simp only [Roll.mem_standing_cancel (Roll.sound_of events), Roll.isStray_eq_false_iff]
      constructor
      · intro kept other ends
        by_contra apart
        -- A stray call ends a subscription that is open, and stays so.
        have stood := (Roll.standing_of_ended? ends).1
        have uncalled : SubscriptionEvent.cancel called ≠ .cancel other := by
          rintro ⟨⟩
          exact apart rfl
        exact (kept other (Or.inl ⟨openAfter_of_standing stood, uncalled⟩)).2 ends
      · rintro own number (⟨opened, uncalled⟩ | ⟨⟨_, subscribes⟩, -⟩)
        · refine ⟨complete number opened, fun ends => uncalled ?_⟩
          rw [own number ends]
        · cases subscribes
  | write made =>
      refine iff_of_true ?_ rfl
      rintro number (⟨opened, -⟩ | ⟨⟨_, subscribes⟩, -⟩)
      · exact complete number opened
      · cases subscribes

theorem standing_throughout_iff (events : List SubscriptionEvent) :
    (∀ before, before <+: events →
        ∀ number, OpenAfter before number → number ∈ (Roll.of before).standing) ↔
      Roll.empty.strays events = false := by
  induction events using List.reverseRecOn with
  | nil =>
      refine iff_of_true ?_ rfl
      rintro before started number ⟨earlier, listener, after, split, -⟩
      rw [List.prefix_nil.mp started] at split
      cases earlier <;> cases split
  | append_singleton events event ih =>
      rw [Roll.strays_concat, Bool.or_eq_false_iff, ← ih]
      simp only [List.prefix_concat_iff, or_imp, forall_and, forall_eq]
      rw [and_comm]
      exact and_congr_right fun earlier =>
        standing_concat_iff (earlier events (List.prefix_refl events))

end CatalogQuery
