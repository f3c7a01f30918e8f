import CatalogQuery.Pagination.Engine

/-!
# Links of a cursor history

What a history says of a cursor after a link was recorded.  The cursor that is
recorded stays, whatever the bound.  Another cursor keeps its links or is
forgotten, and is only forgotten if there is no room for both
(`get?_record_of_room`).  Recording the next cursor therefore never makes a way
back.
-/

namespace CatalogQuery
namespace CursorCache

/-- The cursors of a history, the one recorded last at the end. -/
def cursors (cache : CursorCache) : List Text := Fields.names cache.entries

/-- A history with one entry for each cursor. -/
def Distinct (cache : CursorCache) : Prop := cache.cursors.Nodup

/-- A history that forgets nothing when a cursor is recorded. -/
def HasRoom (cursor : Text) (cache : CursorCache) : Prop :=
  ∀ count, cache.bound = some count →
    (Fields.erase cursor cache.entries).length < count.val

variable {cache : CursorCache} {cursor other : Text}

/-- As a bound leaves room for one entry at least, the last one stays. -/
theorem newest_concat (bound : Option Count) (entries : Fields CursorLinks)
    (entry : Text × CursorLinks) :
    ∃ forgotten, newest bound (entries ++ [entry]) = entries.drop forgotten ++ [entry] := by
  cases bound with
  | none => exact ⟨0, rfl⟩
  | some count =>
      have positive := count.property
      have few : entries.length + 1 - count.val ≤ entries.length := by omega
      refine ⟨entries.length + 1 - count.val, ?_⟩
      simp only [newest, List.length_append, List.length_singleton]
      exact List.drop_append_of_le_length few

theorem exists_entries_record (cursor : Text) (change : CursorLinks → CursorLinks)
    (cache : CursorCache) :
    ∃ forgotten, (cache.record cursor change).entries =
      (Fields.erase cursor cache.entries).drop forgotten ++
        [(cursor, change ((cache.get? cursor).getD ⟨none, none⟩))] :=
  newest_concat cache.bound _ _

theorem hasRoom_of_unbounded (unbounded : cache.bound = none) : cache.HasRoom cursor := by
  intro count bounded
  rw [unbounded] at bounded
  cases bounded

theorem entries_record_of_room (room : cache.HasRoom cursor)
    (change : CursorLinks → CursorLinks) :
    (cache.record cursor change).entries =
      Fields.erase cursor cache.entries ++
        [(cursor, change ((cache.get? cursor).getD ⟨none, none⟩))] := by
  cases bounded : cache.bound with
  | none => simp [record, newest, bounded]
  | some count =>
      have fits := room count bounded
      have nothing : (Fields.erase cursor cache.entries).length + 1 - count.val = 0 := by omega
      simp [record, newest, bounded, nothing]

theorem distinct_record (distinct : cache.Distinct) (cursor : Text)
    (change : CursorLinks → CursorLinks) : (cache.record cursor change).Distinct := by
  obtain ⟨forgotten, entries⟩ := exists_entries_record cursor change cache
  have others : (Fields.names (Fields.erase cursor cache.entries)).Nodup := by
    rw [Fields.names_erase]
    exact distinct.filter _
  have absent : cursor ∉ Fields.names (Fields.erase cursor cache.entries) := by
    simp [Fields.names_erase]
  simp only [Distinct, cursors, entries, Fields.names, List.map_append, List.map_drop,
    List.map_singleton] at others absent ⊢
  refine List.nodup_append.mpr ⟨others.sublist (List.drop_sublist _ _), by simp, ?_⟩
  intro kept member last same equal
  rw [equal, List.mem_singleton.mp same] at member
  exact absent (List.mem_of_mem_drop member)

theorem get?_record_self (cursor : Text) (change : CursorLinks → CursorLinks)
    (cache : CursorCache) :
    (cache.record cursor change).get? cursor =
      some (change ((cache.get? cursor).getD ⟨none, none⟩)) := by
  obtain ⟨forgotten, entries⟩ := exists_entries_record cursor change cache
  have absent :
      Fields.get? cursor ((Fields.erase cursor cache.entries).drop forgotten) = none := by
    rw [Fields.get?_eq_none_iff, Fields.names, List.map_drop]
    intro member
    have : cursor ∈ Fields.names (Fields.erase cursor cache.entries) :=
      List.mem_of_mem_drop member
    simp [Fields.names_erase] at this
  simp [get?, entries, Fields.get?_append, absent, Fields.get?]

theorem get?_record_of_room (room : cache.HasRoom cursor)
    (change : CursorLinks → CursorLinks) (different : other ≠ cursor) :
    (cache.record cursor change).get? other = cache.get? other := by
  simp [get?, entries_record_of_room room, Fields.get?_append,
    Fields.get?_erase_of_ne _ different, Fields.get?, different.symm]

/-- Recording a cursor leaves another one alone or forgets it. -/
theorem get?_record_of_ne (distinct : cache.Distinct) (change : CursorLinks → CursorLinks)
    (different : other ≠ cursor) :
    (cache.record cursor change).get? other = cache.get? other ∨
      (cache.record cursor change).get? other = none := by
  obtain ⟨forgotten, entries⟩ := exists_entries_record cursor change cache
  have others : (Fields.names (Fields.erase cursor cache.entries)).Nodup := by
    rw [Fields.names_erase]
    exact distinct.filter _
  have found : (cache.record cursor change).get? other =
      Fields.get? other ((Fields.erase cursor cache.entries).drop forgotten) := by
    simp [get?, entries, Fields.get?_append, Fields.get?, different.symm]
  rw [found, get?, ← Fields.get?_erase_of_ne cache.entries different]
  exact Fields.get?_drop other forgotten others

/-! ## The way back -/

theorem previous?_recordNext_self (cursor next : Text) (cache : CursorCache) :
    (cache.recordNext cursor next).previous? cursor = cache.previous? cursor := by
  unfold previous? recordNext
  rw [get?_record_self]
  cases cache.get? cursor <;> rfl

/-- Recording the next cursor keeps every way back if there is room. -/
theorem previous?_recordNext (room : cache.HasRoom cursor) (next other : Text) :
    (cache.recordNext cursor next).previous? other = cache.previous? other := by
  by_cases same : other = cursor
  · rw [same, previous?_recordNext_self]
  · unfold previous? recordNext
    rw [get?_record_of_room room _ same]

theorem previous?_recordPrevious_self (cursor previous : Text) (cache : CursorCache) :
    (cache.recordPrevious cursor previous).previous? cursor = some previous := by
  unfold previous? recordPrevious
  rw [get?_record_self]
  rfl

theorem previous?_recordPrevious_of_room (room : cache.HasRoom cursor) (previous : Text)
    (different : other ≠ cursor) :
    (cache.recordPrevious cursor previous).previous? other = cache.previous? other := by
  unfold previous? recordPrevious
  rw [get?_record_of_room room _ different]

/-- A history that knows no way back but those that another one knows. -/
def BackWithin (before after : CursorCache) : Prop :=
  ∀ cursor, after.previous? cursor = before.previous? cursor ∨ after.previous? cursor = none

theorem BackWithin.refl (cache : CursorCache) : BackWithin cache cache :=
  fun _ => Or.inl rfl

theorem backWithin_clear (cache : CursorCache) : BackWithin cache cache.clear :=
  fun _ => Or.inr rfl

theorem previous?_record_of_ne (distinct : cache.Distinct)
    (change : CursorLinks → CursorLinks) (different : other ≠ cursor) :
    (cache.record cursor change).previous? other = cache.previous? other ∨
      (cache.record cursor change).previous? other = none := by
  unfold previous?
  rcases get?_record_of_ne distinct change different with kept | forgotten
  · exact Or.inl (by rw [kept])
  · exact Or.inr (by rw [forgotten]; rfl)

theorem backWithin_recordNext (distinct : cache.Distinct) (cursor next : Text) :
    BackWithin cache (cache.recordNext cursor next) := by
  intro other
  by_cases same : other = cursor
  · rw [same]
    exact Or.inl (previous?_recordNext_self cursor next cache)
  · exact previous?_record_of_ne distinct _ same

end CursorCache

namespace Engine

variable {cache : CursorCache}

@[simp]
theorem bound_rememberNext (info : PageInfo) (cache : CursorCache) :
    (rememberNext info cache).bound = cache.bound := by
  unfold rememberNext
  split <;> rfl

@[simp]
theorem bound_rememberOrigin (origin : Option Text) (info : PageInfo) (cache : CursorCache) :
    (rememberOrigin origin info cache).bound = cache.bound := by
  unfold rememberOrigin
  split
  · split <;> rfl
  · rfl

theorem distinct_rememberNext (distinct : cache.Distinct) (info : PageInfo) :
    (rememberNext info cache).Distinct := by
  unfold rememberNext
  split
  · exact CursorCache.distinct_record distinct _ _
  · exact distinct

theorem distinct_rememberOrigin (distinct : cache.Distinct) (origin : Option Text)
    (info : PageInfo) : (rememberOrigin origin info cache).Distinct := by
  unfold rememberOrigin
  split
  · split
    · exact distinct
    · exact CursorCache.distinct_record distinct _ _
  · exact distinct

theorem previous?_rememberNext (unbounded : cache.bound = none) (info : PageInfo)
    (other : Text) : (rememberNext info cache).previous? other = cache.previous? other := by
  unfold rememberNext
  split
  · exact CursorCache.previous?_recordNext (CursorCache.hasRoom_of_unbounded unbounded) _ other
  · rfl

theorem backWithin_rememberNext (distinct : cache.Distinct) (info : PageInfo) :
    cache.BackWithin (rememberNext info cache) := by
  unfold rememberNext
  split
  · exact CursorCache.backWithin_recordNext distinct _ _
  · exact .refl cache

end Engine
end CatalogQuery
