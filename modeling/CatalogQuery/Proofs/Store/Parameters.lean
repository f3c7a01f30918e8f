import CatalogQuery.Store.Address

/-!
# Putting parameters together and reading numbers from them

Parameters that are taken apart into pairs and put together again are the same, but for
the names without texts (`ofPairs_toPairs`).  Where no name is without texts, what is
read of them never fails: a text that is no number leaves the current one
(`exists_pages`).
-/

namespace CatalogQuery

/-- The page by number that the numbers of another one are completed from. -/
def Pagination.numbered : Pagination → OffsetPagination
  | offset request => request
  | cursor _ => .first

namespace QueryParams

/-- The texts of a name are collected at its place. -/
theorem foldl_add_collects {name : Text} {params : QueryParams}
    (absent : name ∉ Fields.names params) (known texts : List Text) :
    (texts.map (name, ·)).foldl (fun params pair => add pair.1 pair.2 params)
        (params ++ [(name, known)]) = params ++ [(name, known ++ texts)] := by
  induction texts generalizing known with
  | nil => simp
  | cons text rest ih =>
      have added : add name text (params ++ [(name, known)]) =
          params ++ [(name, known ++ [text])] := by
        rw [add, Fields.get?_append, Fields.get?_eq_none_iff.mpr absent,
          Fields.set_append_of_absent absent]
        simp [Fields.get?, Fields.set]
      rw [List.map_cons, List.foldl_cons, added, ih]
      simp

/-- The texts of a new name end up at the end; a name without texts is not there. -/
theorem foldl_add_of_absent {name : Text} {params : QueryParams}
    (absent : name ∉ Fields.names params) (texts : List Text) :
    (texts.map (name, ·)).foldl (fun params pair => add pair.1 pair.2 params) params =
      params ++ [(name, texts)].filter (!·.2.isEmpty) := by
  cases texts with
  | nil => simp
  | cons text rest =>
      have added : add name text params = params ++ [(name, [text])] := by
        rw [add, Fields.get?_eq_none_iff.mpr absent]
        simpa [Fields.set] using Fields.set_append_of_absent absent [text] []
      rw [List.map_cons, List.foldl_cons, added, foldl_add_collects absent]
      rfl

/-- The pairs of further parameters are added behind those that are there. -/
theorem foldl_add_toPairs {done rest : QueryParams}
    (distinct : (Fields.names (done ++ rest)).Nodup) :
    (toPairs rest).foldl (fun params pair => add pair.1 pair.2 params)
        (done.filter (!·.2.isEmpty)) = (done ++ rest).filter (!·.2.isEmpty) := by
  induction rest generalizing done with
  | nil => simp [toPairs]
  | cons entry rest ih =>
      obtain ⟨name, texts⟩ := entry
      have absent : name ∉ Fields.names (done.filter (!·.2.isEmpty)) := fun present =>
        Fields.absent_of_nodup distinct ((List.filter_sublist.map Prod.fst).subset present)
      have later : (Fields.names ((done ++ [(name, texts)]) ++ rest)).Nodup := by
        simpa using distinct
      have first : toPairs ((name, texts) :: rest) = texts.map (name, ·) ++ toPairs rest := rfl
      rw [first, List.foldl_append, foldl_add_of_absent absent, ← List.filter_append, ih later]
      simp

/-- Parameters that are taken apart and put together are the same but for the names
without texts. -/
theorem ofPairs_toPairs {params : QueryParams} (distinct : (Fields.names params).Nodup) :
    ofPairs params.toPairs = params.filter (!·.2.isEmpty) :=
  @foldl_add_toPairs [] params distinct

/-! ## Reading -/

/-- The first text under a name. -/
def firstText? (name : Text) (params : QueryParams) : Option Text :=
  (Fields.get? name params).bind List.head?

/-- The integer that the first text under a name writes, unless it is below a minimum. -/
def number? (name : Text) (minimum : Int) (params : QueryParams) : Option Int :=
  (((params.firstText? name).bind Text.string?).bind Text.integer?).filter (minimum ≤ ·)

/-- Whether there is a parameter of a page by cursor. -/
def ByCursor (params : QueryParams) : Prop :=
  Fields.has "cursor" params = true ∨ Fields.has "limit" params = true

/-- Whether there is a parameter of a page by number. -/
def ByNumber (params : QueryParams) : Prop :=
  Fields.has "page" params = true ∨ Fields.has "page_size" params = true

/-- A page that parameters leave of a current one. -/
structure Pages (params : QueryParams) (current page : Pagination) : Prop where
  by_cursor : params.ByCursor → ∃ limit, page = .cursor ⟨params.firstText? "cursor", limit⟩ ∧
    limit.map (fun count => (count.val : Int)) = (params.number? "limit" 1).or
      (current.limit?.map fun count => (count.val : Int))
  by_number : ¬params.ByCursor → params.ByNumber → ∃ request, page = .offset request ∧
    (request.page : Int) = (params.number? "page" 0).getD current.numbered.page ∧
    (request.pageSize.val : Int) =
      (params.number? "page_size" 1).getD current.numbered.pageSize.val ∧
    request.zeroBased = (params.firstText? "zero_based").any fun text =>
      text.chars?.any (Text.sameLetters · "true")
  unpaged : ¬params.ByCursor → ¬params.ByNumber → page = current

variable {params : QueryParams}

theorem pagination_of_cursor (current : Pagination) (byCursor : params.ByCursor)
    {cursor : Option Text} (cursor_read : params.first? "cursor" = .ok cursor)
    {limit : Option Count} (limit_read : params.countOr "limit" some current.limit? = .ok limit) :
    params.pagination current = .ok (.cursor ⟨cursor, limit⟩) := by
  unfold pagination
  refine (if_pos byCursor).trans ?_
  rw [cursor_read, limit_read]
  rfl

section Texts

variable (texts : ∀ entry ∈ params, entry.2 ≠ [])

include texts

theorem first?_eq (name : Text) : params.first? name = .ok (params.firstText? name) := by
  unfold first? firstText?
  cases found : Fields.get? name params with
  | none => rfl
  | some read =>
      cases read with
      | nil => exact absurd rfl (texts _ (Fields.mem_of_get? found))
      | cons text rest => rfl

theorem has_eq_isSome (name : Text) :
    Fields.has name params = (params.firstText? name).isSome := by
  unfold firstText? Fields.has
  cases found : Fields.get? name params with
  | none => rfl
  | some read =>
      cases read with
      | nil => exact absurd rfl (texts _ (Fields.mem_of_get? found))
      | cons text rest => rfl

theorem integer?_eq (name : Text) : params.integer? name =
    .ok (((params.firstText? name).bind Text.string?).bind Text.integer?) := by
  rw [integer?, first?_eq texts]
  rfl

theorem exists_naturalOr_eq (name : Text) (current : Nat) :
    ∃ number, params.naturalOr name current = .ok number ∧
      (number : Int) = (params.number? name 0).getD current := by
  have read := integer?_eq texts name
  unfold naturalOr number?
  rw [read]
  cases written : ((params.firstText? name).bind Text.string?).bind Text.integer? with
  | none => exact ⟨current, rfl, rfl⟩
  | some i =>
      by_cases natural : 0 ≤ i
      · refine ⟨i.toNat, ?_, ?_⟩
        · simp [bind, Except.bind, natural]
        · have size : (i.toNat : Int) = i := Int.toNat_of_nonneg natural
          simp only [Option.filter, natural, decide_true, if_true, Option.getD_some, size]
      · refine ⟨current, ?_, ?_⟩
        · simp [bind, Except.bind, natural]
        · simp [Option.filter, natural]

/-- A number of items is read if there is one, and else the current value stays. -/
theorem countOr_eq {α : Type} (name : Text) (wrap : Count → α) (current : α) :
    (params.number? name 1 = none ∧ params.countOr name wrap current = .ok current) ∨
      ∃ count : Count, params.number? name 1 = some (count.val : Int) ∧
        params.countOr name wrap current = .ok (wrap count) := by
  have read := integer?_eq texts name
  unfold countOr number?
  rw [read]
  cases written : ((params.firstText? name).bind Text.string?).bind Text.integer? with
  | none => exact Or.inl ⟨rfl, rfl⟩
  | some i =>
      by_cases positive : 1 ≤ i
      · have count : 1 ≤ i.toNat := by omega
        refine Or.inr ⟨⟨i.toNat, count⟩, ?_, ?_⟩
        · have size : (i.toNat : Int) = i := by omega
          simp [Option.filter, positive, size]
        · simp [bind, Except.bind, count]
      · have short : ¬ 1 ≤ i.toNat := by omega
        refine Or.inl ⟨?_, ?_⟩
        · simp [Option.filter, positive]
        · simp [bind, Except.bind, short]

theorem zeroBased_eq : params.zeroBased = .ok ((params.firstText? "zero_based").any fun text =>
    text.chars?.any (Text.sameLetters · "true")) := by
  rw [zeroBased, first?_eq texts]
  cases params.firstText? "zero_based" <;> rfl

theorem pagination_of_number (byCursor : ¬params.ByCursor) (byNumber : params.ByNumber)
    {current : Pagination} {page : Nat} {pageSize : Count}
    (page_read : params.naturalOr "page" current.numbered.page = .ok page)
    (size_read : params.countOr "page_size" id current.numbered.pageSize = .ok pageSize) :
    params.pagination current =
      .ok (.offset ⟨page, pageSize, (params.firstText? "zero_based").any fun text =>
        text.chars?.any (Text.sameLetters · "true")⟩) := by
  have shape : params.pagination current =
      (do
        let page ← params.naturalOr "page" current.numbered.page
        let pageSize ← params.countOr "page_size" id current.numbered.pageSize
        let zeroBased ← params.zeroBased
        .ok (.offset ⟨page, pageSize, zeroBased⟩)) := by
    unfold pagination
    refine (if_neg byCursor).trans ((if_pos byNumber).trans ?_)
    cases current <;> rfl
  rw [shape, page_read, size_read, zeroBased_eq texts]
  rfl

/-- Whichever parameters of a page are there, some page is read. -/
theorem exists_pages (current : Pagination) :
    ∃ page, params.pagination current = .ok page ∧ params.Pages current page := by
  by_cases byCursor : params.ByCursor
  · have reads {limit : Option Count}
        (read : params.countOr "limit" some current.limit? = .ok limit)
        (meant : limit.map (fun count => (count.val : Int)) = (params.number? "limit" 1).or
          (current.limit?.map fun count => (count.val : Int))) :
        ∃ page, params.pagination current = .ok page ∧ params.Pages current page :=
      ⟨_, pagination_of_cursor current byCursor (first?_eq texts "cursor") read,
        fun _ => ⟨limit, rfl, meant⟩, fun other => absurd byCursor other,
        fun other => absurd byCursor other⟩
    rcases countOr_eq texts "limit" some current.limit? with ⟨none, kept⟩ | ⟨count, read, taken⟩
    · exact reads kept (by rw [none, Option.none_or])
    · exact reads taken (by rw [read]; rfl)
  · by_cases byNumber : params.ByNumber
    · obtain ⟨page, page_read, numbered⟩ := exists_naturalOr_eq texts "page" current.numbered.page
      have reads {pageSize : Count}
          (read : params.countOr "page_size" id current.numbered.pageSize = .ok pageSize)
          (meant : (pageSize.val : Int) =
            (params.number? "page_size" 1).getD current.numbered.pageSize.val) :
          ∃ page, params.pagination current = .ok page ∧ params.Pages current page :=
        ⟨_, pagination_of_number texts byCursor byNumber page_read read,
          fun other => absurd other byCursor, fun _ _ => ⟨_, rfl, numbered, meant, rfl⟩,
          fun _ other => absurd byNumber other⟩
      rcases countOr_eq texts "page_size" id current.numbered.pageSize with
        ⟨none, kept⟩ | ⟨count, read, taken⟩
      · exact reads kept (by rw [none]; rfl)
      · exact reads taken (by rw [read]; rfl)
    · refine ⟨current, ?_, fun other => absurd other byCursor,
        fun _ other => absurd other byNumber, fun _ _ => rfl⟩
      unfold pagination
      exact (if_neg byCursor).trans (if_neg byNumber)

end Texts

end QueryParams
end CatalogQuery
