import CatalogQuery.Text

/-!
# Ordered fields

A list of named entries in which a name occurs once.  Storing under a name
that is present keeps its place, and a new name goes to the end, so the order
of the entries is the order in which their names first appeared.
-/

namespace CatalogQuery

/-- Named entries in the order in which their names first appeared. -/
abbrev Fields (α : Type) := List (Text × α)

namespace Fields

variable {α : Type}

/-- What is stored under a name. -/
def get? (name : Text) : Fields α → Option α
  | [] => none
  | (key, value) :: rest => if key = name then some value else get? name rest

/-- Whether a name is present. -/
def has (name : Text) (fields : Fields α) : Bool := (get? name fields).isSome

/-- The names in order. -/
def names (fields : Fields α) : List Text := fields.map (·.1)

/-- Store a value under a name. -/
def set (name : Text) (value : α) : Fields α → Fields α
  | [] => [(name, value)]
  | (key, old) :: rest =>
      if key = name then (key, value) :: rest else (key, old) :: set name value rest

/-- Store the entries of a list one after the other. -/
def setAll (fields : Fields α) (pairs : List (Text × α)) : Fields α :=
  pairs.foldl (fun result pair => set pair.1 pair.2 result) fields

/-- The entries of a list of pairs, a repeated name keeping its first place
and its last value. -/
def ofPairs (pairs : List (Text × α)) : Fields α := setAll [] pairs

/-- The entries with another name. -/
def erase (name : Text) (fields : Fields α) : Fields α :=
  fields.filter (·.1 != name)

@[simp]
theorem get?_nil (name : Text) : get? name ([] : Fields α) = none := rfl

theorem get?_set_self (name : Text) (value : α) (fields : Fields α) :
    get? name (set name value fields) = some value := by
  induction fields with
  | nil => simp [set, get?]
  | cons entry rest ih =>
      obtain ⟨key, old⟩ := entry
      by_cases same : key = name <;> simp [set, get?, same, ih]

theorem get?_set_of_ne {name other : Text} (value : α) (fields : Fields α)
    (different : other ≠ name) :
    get? other (set name value fields) = get? other fields := by
  induction fields with
  | nil => simp [set, get?, Ne.symm different]
  | cons entry rest ih =>
      obtain ⟨key, old⟩ := entry
      by_cases same : key = name
      · subst same; simp [set, get?, Ne.symm different]
      · simp [set, get?, same, ih]

/-- Storing under a name adds at most that name, at the end. -/
theorem names_set (name : Text) (value : α) (fields : Fields α) :
    names (set name value fields) =
      if name ∈ names fields then names fields else names fields ++ [name] := by
  induction fields with
  | nil => simp [set, names]
  | cons entry rest ih =>
      obtain ⟨key, old⟩ := entry
      by_cases same : key = name
      · subst same; simp [set, names]
      · simp only [names] at ih
        by_cases present : name ∈ rest.map (·.1) <;>
          simp [set, names, same, Ne.symm same, ih, present]

/-- Entries that are put at the end are only found if the name is new. -/
theorem get?_append (name : Text) (first second : Fields α) :
    get? name (first ++ second) = (get? name first).or (get? name second) := by
  induction first with
  | nil => rfl
  | cons entry rest ih =>
      obtain ⟨key, value⟩ := entry
      by_cases same : key = name <;> simp [get?, same, ih]

theorem get?_erase_self (name : Text) (fields : Fields α) :
    get? name (erase name fields) = none := by
  induction fields with
  | nil => rfl
  | cons entry rest ih =>
      obtain ⟨key, value⟩ := entry
      simp only [erase] at ih ⊢
      by_cases same : key = name <;> simp [get?, same, ih]

theorem get?_erase_of_ne {name other : Text} (fields : Fields α) (different : other ≠ name) :
    get? other (erase name fields) = get? other fields := by
  induction fields with
  | nil => rfl
  | cons entry rest ih =>
      obtain ⟨key, value⟩ := entry
      simp only [erase] at ih ⊢
      by_cases same : key = name
      · subst same
        simp [get?, ih, Ne.symm different]
      · by_cases found : key = other <;> simp [get?, same, found, ih, different]

theorem get?_eq_none_iff {name : Text} {fields : Fields α} :
    get? name fields = none ↔ name ∉ names fields := by
  induction fields with
  | nil => simp [names]
  | cons entry rest ih =>
      obtain ⟨key, value⟩ := entry
      simp only [names] at ih
      by_cases same : key = name
      · simp [get?, names, same]
      · simp [get?, names, same, Ne.symm same, ih]

theorem mem_of_get? {name : Text} {value : α} {fields : Fields α}
    (found : get? name fields = some value) : (name, value) ∈ fields := by
  induction fields with
  | nil => cases found
  | cons entry rest ih =>
      obtain ⟨key, first⟩ := entry
      by_cases same : key = name
      · simp only [get?, same, if_true, Option.some.injEq] at found
        simp [same, found]
      · simp only [get?, same, if_false] at found
        simp [ih found]

theorem names_erase (name : Text) (fields : Fields α) :
    names (erase name fields) = (names fields).filter (· != name) := by
  simp [names, erase, List.filter_map, Function.comp_def]

/-- If every name occurs once, entries that are dropped from the front are lost,
and no others. -/
theorem get?_drop (name : Text) (count : Nat) {fields : Fields α}
    (distinct : (names fields).Nodup) :
    get? name (fields.drop count) = get? name fields ∨ get? name (fields.drop count) = none := by
  by_cases kept : name ∈ names (fields.drop count)
  · left
    have split : names (fields.take count) ++ names (fields.drop count) = names fields := by
      rw [names, names, ← List.map_append, List.take_append_drop]
      rfl
    rw [← split] at distinct
    have dropped : get? name (fields.take count) = none :=
      get?_eq_none_iff.mpr fun before =>
        (List.nodup_append.mp distinct).2.2 name before name kept rfl
    conv => rhs; rw [← List.take_append_drop count fields, get?_append, dropped]
    rfl
  · exact Or.inr (get?_eq_none_iff.mpr kept)

theorem names_append (first second : Fields α) :
    names (first ++ second) = names first ++ names second :=
  List.map_append

theorem absent_of_nodup {fields rest : Fields α} {pair : Text × α}
    (distinct : (names (fields ++ pair :: rest)).Nodup) : pair.1 ∉ names fields := by
  rw [names_append] at distinct
  exact fun present =>
    (List.nodup_append.mp distinct).2.2 pair.1 present pair.1 (by simp [names]) rfl

/-- Storing under a name passes over entries of other names. -/
theorem set_append_of_absent {name : Text} {first : Fields α} (absent : name ∉ names first)
    (value : α) (second : Fields α) :
    set name value (first ++ second) = first ++ set name value second := by
  induction first with
  | nil => rfl
  | cons entry rest ih =>
      obtain ⟨key, old⟩ := entry
      simp only [names, List.map_cons, List.mem_cons, not_or] at absent ih
      simp [set, Ne.symm absent.1, ih absent.2]

/-- Entries whose names are all new go to the end in their order. -/
theorem setAll_of_distinct {fields pairs : Fields α} (distinct : (names (fields ++ pairs)).Nodup) :
    setAll fields pairs = fields ++ pairs := by
  induction pairs generalizing fields with
  | nil => simp [setAll]
  | cons pair rest ih =>
      have absent := absent_of_nodup distinct
      have stored : set pair.1 pair.2 fields = fields ++ [pair] := by
        simpa [set] using set_append_of_absent absent pair.2 []
      have later : (names ((fields ++ [pair]) ++ rest)).Nodup := by simpa using distinct
      calc setAll fields (pair :: rest)
          = setAll (fields ++ [pair]) rest := by rw [← stored]; rfl
        _ = fields ++ pair :: rest := by rw [ih later]; simp

end Fields
end CatalogQuery
