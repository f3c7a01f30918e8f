import CatalogQuery.Proofs.Pagination.History

/-!
# Order of use in a cursor history

A history holds its cursors in the order in which they were last recorded.
Recording a cursor moves it to the end (`cursors_record`), and a bound keeps the
end of that list, so a history without room loses the cursor recorded longest ago.
-/

namespace CatalogQuery

/-- Cursors in the order of their last use, after one more was used and all but the
last ones were dropped. -/
def recent (bound : Count) (cursor : Text) (cursors : List Text) : List Text :=
  let used := cursors.filter (· != cursor) ++ [cursor]
  used.drop (used.length - bound.val)

theorem recent_eq_concat (bound : Count) (cursor : Text) (cursors : List Text) :
    recent bound cursor cursors =
      (cursors.filter (· != cursor)).drop
        ((cursors.filter (· != cursor)).length + 1 - bound.val) ++ [cursor] := by
  have positive := bound.property
  simp only [recent, List.length_append, List.length_singleton]
  exact List.drop_append_of_le_length (by omega)

theorem recent_nil (bound : Count) (cursor : Text) : recent bound cursor [] = [cursor] := by
  simp [recent_eq_concat]

theorem length_recent_le (bound : Count) (cursor : Text) (cursors : List Text) :
    (recent bound cursor cursors).length ≤ bound.val := by
  simp only [recent, List.length_drop]
  omega

theorem filter_ne_of_not_mem {cursor : Text} {cursors : List Text} (absent : cursor ∉ cursors) :
    cursors.filter (· != cursor) = cursors := by
  rw [List.filter_eq_self]
  intro other member
  have apart : other ≠ cursor := fun same => absent (same ▸ member)
  simpa using apart

/-- The use of the cursor that was used last changes nothing. -/
theorem recent_recent (bound : Count) (cursor : Text) (cursors : List Text) :
    recent bound cursor (recent bound cursor cursors) = recent bound cursor cursors := by
  have positive := bound.property
  rw [recent_eq_concat bound cursor cursors]
  have absent : cursor ∉ cursors.filter (· != cursor) := by simp
  generalize cursors.filter (· != cursor) = others at absent ⊢
  have kept : cursor ∉ others.drop (others.length + 1 - bound.val) :=
    fun member => absent (List.mem_of_mem_drop member)
  have few : (others.drop (others.length + 1 - bound.val)).length + 1 - bound.val = 0 := by
    rw [List.length_drop]
    omega
  generalize others.drop (others.length + 1 - bound.val) = newest at kept few ⊢
  rw [recent_eq_concat, List.filter_append, filter_ne_of_not_mem kept]
  simp [few]

namespace CursorCache

variable {cache : CursorCache} {cursor other : Text} {bound : Count}

theorem size_eq_length (cache : CursorCache) : cache.size = cache.cursors.length := by
  simp [size, cursors, Fields.names]

theorem cursors_record (bounded : cache.bound = some bound) (cursor : Text)
    (change : CursorLinks → CursorLinks) :
    (cache.record cursor change).cursors = recent bound cursor cache.cursors := by
  have others : (Fields.names (Fields.erase cursor cache.entries)).length =
      (Fields.erase cursor cache.entries).length := by
    simp [Fields.names]
  rw [Fields.names_erase] at others
  simp only [recent, cursors, record, newest, bounded, Fields.names, List.map_drop,
    List.map_append, List.map_singleton, List.length_append, List.length_singleton] at others ⊢
  rw [others, ← Fields.names, Fields.names_erase]
  rfl

theorem get?_eq_none_iff : cache.get? cursor = none ↔ cursor ∉ cache.cursors :=
  Fields.get?_eq_none_iff

theorem hasRoom_of_mem (fits : ∀ count, cache.bound = some count → cache.size ≤ count.val)
    (known : cursor ∈ cache.cursors) : cache.HasRoom cursor := by
  intro count bounded
  obtain ⟨entry, member, rfl⟩ := List.mem_map.mp known
  have fewer : (Fields.erase entry.1 cache.entries).length < cache.entries.length :=
    List.length_filter_lt_length_iff_exists.mpr ⟨entry, member, by simp⟩
  have := fits count bounded
  exact Nat.lt_of_lt_of_le fewer this

/-- A cursor that is still remembered after another one was recorded kept its links. -/
theorem previous?_record_of_mem (distinct : cache.Distinct)
    (change : CursorLinks → CursorLinks) (different : other ≠ cursor)
    (kept : other ∈ (cache.record cursor change).cursors) :
    (cache.record cursor change).previous? other = cache.previous? other := by
  unfold previous?
  rcases get?_record_of_ne distinct change different with same | forgotten
  · rw [same]
  · exact absurd kept (get?_eq_none_iff.mp forgotten)

theorem previous?_eq_none_of_not_mem (absent : cursor ∉ cache.cursors) :
    cache.previous? cursor = none := by
  simp [previous?, get?_eq_none_iff.mpr absent]

theorem mem_cursors_of_previous? {previous : Text}
    (known : cache.previous? cursor = some previous) : cursor ∈ cache.cursors := by
  apply Decidable.byContradiction
  intro absent
  rw [previous?_eq_none_of_not_mem absent] at known
  cases known

theorem mem_cursors_of_mem_record {change : CursorLinks → CursorLinks}
    (different : other ≠ cursor) (kept : other ∈ (cache.record cursor change).cursors) :
    other ∈ cache.cursors := by
  obtain ⟨forgotten, entries⟩ := exists_entries_record cursor change cache
  simp only [cursors, entries, Fields.names, List.map_append, List.map_drop,
    List.map_singleton, List.mem_append, List.mem_singleton] at kept ⊢
  rcases kept with before | same
  · have member : other ∈ Fields.names (Fields.erase cursor cache.entries) :=
      List.mem_of_mem_drop before
    rw [Fields.names_erase] at member
    exact (List.mem_filter.mp member).1
  · exact absurd same different

end CursorCache

namespace Engine

variable {cache : CursorCache} {bound : Count}

/-- A page that is reached by a step forward becomes the one that was used last. -/
theorem cursors_recordPrevious_rememberNext (bounded : cache.bound = some bound)
    (info : CursorPageInfo) (left : Text) :
    ((rememberNext (.cursor info) cache).recordPrevious info.currentCursor left).cursors =
      recent bound info.currentCursor cache.cursors := by
  obtain ⟨current, next⟩ := info
  cases next with
  | none => exact CursorCache.cursors_record bounded current _
  | some next =>
      have once : (cache.recordNext current next).cursors = recent bound current cache.cursors :=
        CursorCache.cursors_record bounded current _
      have twice : ((cache.recordNext current next).recordPrevious current left).cursors =
          recent bound current (cache.recordNext current next).cursors := by
        have still : (cache.recordNext current next).bound = some bound := bounded
        exact CursorCache.cursors_record still current _
      rw [once, recent_recent] at twice
      exact twice

theorem previous?_rememberNext_of_room {info : CursorPageInfo}
    (room : cache.HasRoom info.currentCursor) (other : Text) :
    (rememberNext (.cursor info) cache).previous? other = cache.previous? other := by
  obtain ⟨current, next⟩ := info
  cases next with
  | none => rfl
  | some next => exact CursorCache.previous?_recordNext room next other

theorem previous?_rememberNext_of_mem (distinct : cache.Distinct) (info : PageInfo)
    {other : Text} (kept : other ∈ (rememberNext info cache).cursors) :
    (rememberNext info cache).previous? other = cache.previous? other := by
  unfold rememberNext at kept ⊢
  split
  · rename_i current next
    by_cases same : other = current
    · rw [same]
      exact CursorCache.previous?_recordNext_self current next cache
    · exact CursorCache.previous?_record_of_mem distinct _ same kept
  · rfl

theorem size_rememberNext_le (bounded : cache.bound = some bound)
    (fits : cache.size ≤ bound.val) (info : PageInfo) :
    (rememberNext info cache).size ≤ bound.val := by
  unfold rememberNext
  split
  · rw [CursorCache.size_eq_length, CursorCache.recordNext, CursorCache.cursors_record bounded]
    exact length_recent_le _ _ _
  · exact fits

end Engine
end CatalogQuery
