import CatalogQuery.Proofs.Filter.FormRows
import CatalogQuery.Proofs.Validation.Checks

/-!
# What a row means

A row is spliced into the data of a filter, and the filter that takes the data reads it
on its own: the keys of objects alone tell a related entity from a predicate, and one
operation from another.  So a row means what it says unless its value is an object of
the wrong kind: with `equals` any object says something else, and so does one without a
start with `range`.  All other rows that are accepted come back with their field, source
and operation, and these two never do (`toForm_keeps_iff`).
-/

namespace CatalogQuery

namespace FormFilter

/-- A row whose value leaves it to the row what the operation is. -/
def Plain (row : FormFilter) : Prop :=
  match row.operation with
  | .equals => row.operand.toValue.fields? = none
  | .range => ∃ value, row.operation.toValue row.operand = .ok value ∧
      ((value.field? "from").isSome = true ∨ (value.field? "from_").isSome = true)
  | _ => True

end FormFilter

/-- The operation that a value is read as, if it is read as a predicate. -/
def Operation.ofValue? : Value → Option Operation
  | .object [(key, _)] =>
      ((key.meaning? SingleOperator.keyed).map single).or
        (((key.meaning? ListOperator.keyed).map several).or
          ((key.meaning? BoundOperator.keyed).map bound))
  | .object fields =>
      if Fields.has "from" fields ∨ Fields.has "from_" fields then some range else none
  | .table _ => none
  | _ => some equals

/-- The keys of predicates that are objects, except for those that stand beside another
one. -/
def Operation.keys : List String :=
  ["from", "from_"] ++ SingleOperator.keyed.map (·.1) ++ ListOperator.keyed.map (·.1) ++
    BoundOperator.keyed.map (·.1)

/-! ## Readers of fields -/

namespace FieldReader

variable {α : Type} {readers : List (FieldReader α)} {model : String} {field : Text}
  {value : Value} {filter : α}

theorem joined_eq_ok {found : List (String × Checked α)} {filters : List (String × α)}
    (passed : joined found = .ok filters) :
    found = filters.map fun entry => (entry.1, .ok entry.2) := by
  induction found generalizing filters with
  | nil =>
      cases passed
      rfl
  | cons first rest ih =>
      obtain ⟨⟨entry, others⟩, both, rfl⟩ := Outcome.map_eq_ok.mp passed
      obtain ⟨head, tail⟩ := Checked.both_eq_ok.mp both
      obtain ⟨filter, checked, rfl⟩ := Outcome.map_eq_ok.mp head
      rw [ih tail, List.map_cons, ← checked]

/-- What is accepted has known fields only, and one that is set. -/
theorem only_eq_ok (passed : only model readers value = .ok filter) :
    ∃ fields name, value.fields? = some fields ∧ checks readers fields = [(name, .ok filter)] ∧
      ∀ key : Text, .text key ∈ value.keys → key.isAmong (readers.map (·.name)) = true := by
  unfold only at passed
  split at passed
  · cases passed
  · next fields entries =>
      cases closed : Checked.closed (readers.map (·.name)) value.keys
          (joined (checks readers fields)) with
      | error issues =>
          rw [closed] at passed
          cases passed
      | ok found =>
          have checked := joined_eq_ok (Checked.of_closed closed)
          have known : ∀ key : Text, .text key ∈ value.keys →
              key.isAmong (readers.map (·.name)) = true := by
            intro key member
            have expected := Checked.strayIssue?_of_closed closed _ member
            cases among : key.isAmong (readers.map (·.name)) with
            | true => rfl
            | false => simp [Checked.strayIssue?, among] at expected
          simp only [closed, bind, Except.bind] at passed
          split at passed
          · next name _ =>
              cases passed
              exact ⟨fields, name, entries, checked, known⟩
          · cases passed

/-- An object with one field is read by the reader of the field. -/
theorem exists_mem_of_only (passed : only model readers (.object [(field, value)]) = .ok filter) :
    ∃ reader ∈ readers, field = reader.name ∧ reader.check value = .ok filter := by
  obtain ⟨fields, name, entries, checked, -⟩ := only_eq_ok passed
  cases entries
  have member : (name, .ok filter) ∈ checks readers [(field, value)] := by simp [checked]
  obtain ⟨reader, known, read⟩ := List.mem_filterMap.mp member
  by_cases named : field = reader.name
  · simp only [Fields.get?, named, if_true] at read
    split at read
    · cases read
    · have checked : Checked.inField reader.name (reader.check value) = .ok filter :=
        congrArg Prod.snd (Option.some.inj read)
      exact ⟨reader, known, named, Checked.inField_eq_ok.mp checked⟩
  · simp [Fields.get?, named] at read

/-- A reader whose filters say of its field what was read. -/
def Faithful (test : α → String × FieldTest) (reader : FieldReader α) : Prop :=
  ∀ value filter, reader.check value = .ok filter →
    (test filter).1 = reader.name ∧ (test filter).2.ReadFrom value

variable {test : α → String × FieldTest} {name : String}

/-- All readers make a filter of what they check. -/
theorem faithful_of_check {β : Type} {check : Value → Checked β} {wrap : β → α}
    {meant : β → FieldTest} (tells : ∀ found, test (wrap found) = (name, meant found))
    (reads : ∀ value found, check value = .ok found → (meant found).ReadFrom value) :
    Faithful test ⟨name, fun value => (check value).map wrap⟩ := by
  intro value filter checked
  obtain ⟨found, read, rfl⟩ := Outcome.map_eq_ok.mp checked
  rw [tells]
  exact ⟨rfl, reads value found read⟩

theorem faithful_text {wrap : TextPredicate → α}
    (tells : ∀ predicate, test (wrap predicate) = (name, .text predicate)) :
    Faithful test (.text name wrap) :=
  faithful_of_check tells fun _ _ read => read

theorem faithful_number {wrap : NumberPredicate → α}
    (tells : ∀ predicate, test (wrap predicate) = (name, .number predicate)) :
    Faithful test (.number name wrap) :=
  faithful_of_check tells fun _ _ read => read

theorem faithful_moment {wrap : MomentPredicate → α}
    (tells : ∀ predicate, test (wrap predicate) = (name, .moment predicate)) :
    Faithful test (.moment name wrap) :=
  faithful_of_check tells fun _ _ read => read

theorem faithful_related {β : Type} {check : Value → Checked β} {wrap : β → α}
    {inner : β → EntityFilter}
    (tells : ∀ filter, test (wrap filter) = (name, .related (inner filter)))
    (reads : ∀ value filter, check value = .ok filter → (inner filter).ReadFrom value) :
    Faithful test (.related name check wrap) :=
  faithful_of_check tells reads

/-- What a value must be for a filter with a test to be read from it. -/
structure Accepted (value : Value) (test : String × FieldTest) : Prop where
  object : value.fields? ≠ none
  /-- No field of an entity has the name of an operator. -/
  free : ∀ key ∈ Operation.keys, .text key ∉ value.keys
  /-- A single field is the one that is tested, by what stands there. -/
  single : ∀ field content, value = .object [(field, content)] →
    field = test.1 ∧ test.2.ReadFrom content

theorem accepted_of_only (faithful : ∀ reader ∈ readers, Faithful test reader)
    (apart : ∀ name ∈ readers.map (·.name), name ∉ Operation.keys)
    (passed : only model readers value = .ok filter) : Accepted value (test filter) := by
  obtain ⟨fields, _, entries, _, known⟩ := only_eq_ok passed
  refine ⟨by simp [entries], ?_, ?_⟩
  · intro key operator present
    have among := known key present
    rw [Text.isAmong_ofString] at among
    exact apart key (of_decide_eq_true among) operator
  · rintro field content rfl
    obtain ⟨reader, member, rfl, checked⟩ := exists_mem_of_only passed
    obtain ⟨named, tells⟩ := faithful reader member content filter checked
    exact ⟨congrArg _ named.symm, tells⟩

end FieldReader

open FieldReader

theorem LibraryFilter.faithful_readers :
    ∀ reader ∈ readers, Faithful (fun filter => (EntityFilter.library filter).test) reader := by
  intro reader member
  simp only [readers, List.mem_cons, List.not_mem_nil, or_false] at member
  rcases member with rfl | rfl | rfl
  · exact faithful_text fun _ => rfl
  · exact faithful_text fun _ => rfl
  · exact faithful_moment fun _ => rfl

theorem SeriesMetadataFilter.faithful_readers :
    ∀ reader ∈ readers,
      Faithful (fun filter => (EntityFilter.seriesMetadata filter).test) reader := by
  intro reader member
  rcases List.mem_append.mp member with texts | numbers
  · obtain ⟨field, -, rfl⟩ := List.mem_map.mp texts
    exact faithful_text fun _ => rfl
  · obtain ⟨field, -, rfl⟩ := List.mem_map.mp numbers
    exact faithful_number fun _ => rfl

theorem SeriesFilter.faithful_readers :
    ∀ reader ∈ readers, Faithful (fun filter => (EntityFilter.series filter).test) reader := by
  intro reader member
  simp only [readers, List.mem_cons, List.not_mem_nil, or_false] at member
  rcases member with rfl | rfl | rfl | rfl
  · exact faithful_text fun _ => rfl
  · exact faithful_text fun _ => rfl
  · exact faithful_related (fun _ => rfl) fun _ _ read => read
  · exact faithful_related (fun _ => rfl) fun _ _ read => read

theorem MediaMetadataFilter.faithful_readers :
    ∀ reader ∈ readers,
      Faithful (fun filter => (EntityFilter.mediaMetadata filter).test) reader := by
  intro reader member
  rcases List.mem_append.mp member with texts | numbers
  · obtain ⟨field, -, rfl⟩ := List.mem_map.mp texts
    exact faithful_text fun _ => rfl
  · obtain ⟨field, -, rfl⟩ := List.mem_map.mp numbers
    exact faithful_number fun _ => rfl

theorem MediaFilter.faithful_readers :
    ∀ reader ∈ readers, Faithful (fun filter => (EntityFilter.media filter).test) reader := by
  intro reader member
  simp only [readers, List.mem_cons, List.not_mem_nil, or_false] at member
  rcases member with rfl | rfl | rfl | rfl | rfl
  · exact faithful_text fun _ => rfl
  · exact faithful_text fun _ => rfl
  · exact faithful_text fun _ => rfl
  · exact faithful_related (fun _ => rfl) fun _ _ read => read
  · exact faithful_related (fun _ => rfl) fun _ _ read => read

namespace EntityFilter

variable {filter : EntityFilter} {value : Value}

theorem accepted_of_readFrom (read : filter.ReadFrom value) : Accepted value filter.test := by
  cases filter with
  | media filter =>
      have accepted := accepted_of_only MediaFilter.faithful_readers (by decide) read
      exact accepted
  | mediaMetadata filter =>
      have accepted := accepted_of_only MediaMetadataFilter.faithful_readers (by decide) read
      exact accepted
  | series filter =>
      have accepted := accepted_of_only SeriesFilter.faithful_readers (by decide) read
      exact accepted
  | seriesMetadata filter =>
      have accepted := accepted_of_only SeriesMetadataFilter.faithful_readers (by decide) read
      exact accepted
  | library filter =>
      have accepted := accepted_of_only LibraryFilter.faithful_readers (by decide) read
      exact accepted

end EntityFilter

/-! ## Predicates -/

section Predicates

variable {α : Type} {operand? : Value → Option α} {f : α → Value} {value : Value}

/-- Of the values of a kind none is an object. -/
def Plainly (operand? : Value → Option α) : Prop :=
  ∀ value, value.fields? ≠ none → operand? value = none

theorem Match.ofValue?_of_read? (plainly : Plainly operand?) {predicate : Match α}
    (read : read? operand? value = some predicate) :
    Operation.ofValue? value = some (predicate.describe f).1 := by
  unfold read? at read
  split at read
  · next x reads =>
      cases read
      -- Only objects are read as anything else than a value to be equal to.
      have bare : value.fields? = none := by
        by_cases object : value.fields? = none
        · exact object
        · rw [plainly value object] at reads
          cases reads
      cases value <;> first | rfl | cases bare
  · split at read
    · next key operand =>
        split at read
        · next operator single =>
            obtain ⟨x, -, rfl⟩ := Option.map_eq_some_iff.mp read
            simp [Operation.ofValue?, single, describe]
        · next single =>
            split at read
            · next operator several =>
                obtain ⟨x, -, rfl⟩ := Option.map_eq_some_iff.mp read
                simp [Operation.ofValue?, single, several, describe]
            · cases read
    · cases read

theorem Range.has_of_readWith? {start : Text} {fields : Fields Value} {range : Range α}
    (read : readWith? operand? start fields = some range) : fields.has start = true := by
  obtain ⟨value, present, -⟩ := Option.bind_eq_some_iff.mp read
  simp [Fields.has, present]

theorem Range.has_of_read? {fields : Fields Value} {range : Range α}
    (read : read? operand? fields = some range) :
    Fields.has "from" fields = true ∨ Fields.has "from_" fields = true := by
  unfold read? at read
  split at read
  · next has => exact Or.inl has
  · exact Or.inr (has_of_readWith? read)

/-- A key that names a bound names no other operator. -/
theorem BoundOperator.meaning?_eq_none {key : Text} {operator : BoundOperator}
    (bound : key.meaning? keyed = some operator) :
    key.meaning? SingleOperator.keyed = none ∧ key.meaning? ListOperator.keyed = none := by
  obtain ⟨name, rfl, member⟩ := Text.mem_of_meaning? bound
  have apart : ∀ entry ∈ keyed, SingleOperator.keyed.lookup entry.1 = none ∧
      ListOperator.keyed.lookup entry.1 = none := by decide
  rw [Text.meaning?_ofString, Text.meaning?_ofString]
  exact apart _ member

/-- A predicate is read from the values of its own operation only. -/
theorem OrderedMatch.ofValue?_of_read? (plainly : Plainly operand?) {predicate : OrderedMatch α}
    (read : read? operand? value = some predicate) :
    Operation.ofValue? value = some (predicate.describe f).1 := by
  unfold read? at read
  split at read
  · next plain matched =>
      cases read
      exact Match.ofValue?_of_read? plainly matched
  · split at read
    · next key operand =>
        split at read
        · next operator bound =>
            obtain ⟨x, -, rfl⟩ := Option.map_eq_some_iff.mp read
            obtain ⟨single, several⟩ := BoundOperator.meaning?_eq_none bound
            simp [Operation.ofValue?, single, several, bound, describe]
        · cases read
    · next fields several _ =>
        obtain ⟨range, ends, rfl⟩ := Option.map_eq_some_iff.mp read
        have started := Range.has_of_read? ends
        unfold Operation.ofValue?
        split
        · next key operand same => exact absurd (Value.object.inj same) (several key operand)
        · next _ same =>
            cases same
            exact if_pos started
        · next same => cases same
        · next object _ => exact absurd rfl (object _)
    · cases read

end Predicates

theorem plainly_text : Plainly readText? := by
  intro value object
  cases value <;> first | rfl | exact absurd rfl object

theorem plainly_number : Plainly Number.read? := by
  intro value object
  cases value <;> first | rfl | exact absurd rfl object

theorem plainly_moment : Plainly Checked.moment? := by
  intro value object
  cases value <;> first | rfl | exact absurd rfl object

/-- What is read as a predicate describes the operation that it was read as. -/
theorem FieldTest.ofValue?_of_readFrom {test : FieldTest} {value : Value}
    (own : ∀ filter, test ≠ .related filter) (read : test.ReadFrom value) :
    Operation.ofValue? value = some test.describe.1 := by
  cases test with
  | text predicate =>
      exact Match.ofValue?_of_read? plainly_text (TextPredicate.check_eq_ok.mp read)
  | number predicate =>
      exact OrderedMatch.ofValue?_of_read? plainly_number (NumberPredicate.check_eq_ok.mp read)
  | moment predicate =>
      exact OrderedMatch.ofValue?_of_read? plainly_moment (MomentPredicate.check_eq_ok.mp read)
  | related filter => exact absurd rfl (own filter)

/-! ## Rows -/

namespace Operation

variable {value operand : Value} {operation : Operation}

theorem ofValue?_single (operator : SingleOperator) :
    ofValue? (.object [(operator.key, operand)]) = some (single operator) := by
  simp [ofValue?, operator.lookup_key]

theorem ofValue?_several (operator : ListOperator) :
    ofValue? (.object [(operator.key, operand)]) = some (several operator) := by
  simp [ofValue?, operator.lookup_key]

theorem ofValue?_bound (operator : BoundOperator) :
    ofValue? (.object [(operator.key, operand)]) = some (bound operator) := by
  simp [ofValue?, operator.lookup_key]

/-- The only key of an object is that of an operator. -/
theorem ofValue?_entry {key : Text} (meant : ofValue? (.object [(key, operand)]) = some operation) :
    operation ≠ equals ∧ operation ≠ range ∧ key ≠ "from" ∧ key ≠ "from_" := by
  unfold ofValue? at meant
  refine ⟨?_, ?_, ?_, ?_⟩
  · rintro rfl
    simp [Option.or_eq_some_iff] at meant
  · rintro rfl
    simp [Option.or_eq_some_iff] at meant
  · rintro rfl
    cases meant
  · rintro rfl
    cases meant

theorem ofValue?_object {fields : Fields Value}
    (meant : ofValue? (.object fields) = some operation) :
    operation ≠ equals ∧ (operation = range ↔
      Fields.has "from" fields = true ∨ Fields.has "from_" fields = true) := by
  have many (read : (if Fields.has "from" fields = true ∨ Fields.has "from_" fields = true then
      some range else none) = some operation) : operation ≠ equals ∧ (operation = range ↔
        Fields.has "from" fields = true ∨ Fields.has "from_" fields = true) := by
    obtain ⟨has, same⟩ := Option.ite_none_right_eq_some.mp read
    cases same
    exact ⟨nofun, iff_of_true rfl has⟩
  match fields with
  | [] => exact many meant
  | [(key, operand)] =>
      obtain ⟨not_equals, not_range, not_from, not_from_⟩ := ofValue?_entry meant
      refine ⟨not_equals, iff_of_false not_range ?_⟩
      simp [Fields.has, Fields.get?, not_from, not_from_]
  | first :: second :: rest => exact many meant

theorem eq_equals_iff (meant : ofValue? value = some operation) :
    operation = equals ↔ value.fields? = none := by
  cases value with
  | object fields => exact iff_of_false (ofValue?_object meant).1 nofun
  | table entries => cases meant
  | _ =>
      cases meant
      exact iff_of_true rfl rfl

theorem eq_range_iff (meant : ofValue? value = some operation) :
    operation = range ↔
      (value.field? "from").isSome = true ∨ (value.field? "from_").isSome = true := by
  cases value with
  | object fields => exact (ofValue?_object meant).2
  | table entries => cases meant
  | _ =>
      cases meant
      exact iff_of_false nofun nofun

end Operation

theorem Value.text_mem_keys {name : Text} {value : Value}
    (present : (value.field? name).isSome = true) : .text name ∈ value.keys := by
  obtain ⟨content, found⟩ := Option.isSome_iff_exists.mp present
  obtain ⟨fields, entries, stored⟩ := Option.bind_eq_some_iff.mp found
  have member := Fields.mem_of_get? stored
  cases value with
  | object fields =>
      cases entries
      exact List.mem_map_of_mem member
  | table pairs =>
      cases entries
      obtain ⟨⟨key, content⟩, pair, named⟩ := List.mem_filterMap.mp member
      refine List.mem_map.mpr ⟨_, pair, ?_⟩
      cases key <;> cases named
      rfl
  | _ => cases entries

namespace FormFilter

variable {row : FormFilter} {value : Value}

/-- What is spliced in for a row is read as the operation of the row exactly if the row
is plain. -/
theorem plain_iff {operation : Operation} (made : row.operation.toValue row.operand = .ok value)
    (meant : Operation.ofValue? value = some operation) :
    operation = row.operation ↔ row.Plain := by
  obtain ⟨field, named, source, operand⟩ := row
  cases named with
  | equals =>
      cases made
      exact Operation.eq_equals_iff meant
  | range =>
      rw [Operation.eq_range_iff meant]
      constructor
      · intro started
        exact ⟨value, made, started⟩
      · rintro ⟨other, again, started⟩
        cases made.symm.trans again
        exact started
  | single operator =>
      cases made
      rw [Operation.ofValue?_single] at meant
      exact iff_of_true (Option.some.inj meant).symm trivial
  | several operator =>
      cases made
      rw [Operation.ofValue?_several] at meant
      exact iff_of_true (Option.some.inj meant).symm trivial
  | bound operator =>
      cases made
      rw [Operation.ofValue?_bound] at meant
      exact iff_of_true (Option.some.inj meant).symm trivial

/-- What is read as a filter on a related entity does not come from a plain row. -/
theorem not_plain_of_readFrom {filter : EntityFilter}
    (made : row.operation.toValue row.operand = .ok value) (read : filter.ReadFrom value) :
    ¬ row.Plain := by
  obtain ⟨object, free, -⟩ := EntityFilter.accepted_of_readFrom read
  obtain ⟨field, named, source, operand⟩ := row
  -- Otherwise the object that is spliced in has the key of an operator.
  cases named with
  | equals =>
      cases made
      exact object
  | range =>
      rintro ⟨other, again, started⟩
      cases made.symm.trans again
      rcases started with start | start
      · exact free _ (by decide) (Value.text_mem_keys start)
      · exact free _ (by decide) (Value.text_mem_keys start)
  | single operator =>
      cases made
      have known : operator.key ∈ Operation.keys := by cases operator <;> decide
      exact absurd (List.mem_singleton_self _) (free _ known)
  | several operator =>
      cases made
      have known : operator.key ∈ Operation.keys := by cases operator <;> decide
      exact absurd (List.mem_singleton_self _) (free _ known)
  | bound operator =>
      cases made
      have known : operator.key ∈ Operation.keys := by cases operator <;> decide
      exact absurd (List.mem_singleton_self _) (free _ known)

end FormFilter

/-! ## Paths -/

namespace EntityFilter

variable {filter leaf : EntityFilter} {value : Value}

/-- The names of the fields that hold related entities. -/
def relatedNames : List String := ["metadata", "series", "library"]

/-- No other field has such a name. -/
theorem exists_related (named : filter.test.1 ∈ relatedNames) :
    ∃ inner, filter.test.2 = .related inner := by
  cases filter with
  | media filter =>
      cases filter with
      | text field predicate =>
          have other : field.key ∉ relatedNames := by cases field <;> decide
          exact absurd named other
      | metadata inner => exact ⟨_, rfl⟩
      | series inner => exact ⟨_, rfl⟩
  | mediaMetadata filter =>
      cases filter with
      | text field predicate =>
          have other : field.key ∉ relatedNames := by cases field <;> decide
          exact absurd named other
      | number field predicate =>
          have other : field.key ∉ relatedNames := by cases field <;> decide
          exact absurd named other
  | series filter =>
      cases filter with
      | text field predicate =>
          have other : field.key ∉ relatedNames := by cases field <;> decide
          exact absurd named other
      | metadata inner => exact ⟨_, rfl⟩
      | library inner => exact ⟨_, rfl⟩
  | seriesMetadata filter =>
      cases filter with
      | text field predicate =>
          have other : field.key ∉ relatedNames := by cases field <;> decide
          exact absurd named other
      | number field predicate =>
          have other : field.key ∉ relatedNames := by cases field <;> decide
          exact absurd named other
  | library filter =>
      cases filter with
      | text field predicate =>
          have other : field.key ∉ relatedNames := by cases field <;> decide
          exact absurd named other
      | updatedAt predicate =>
          have other : "updated_at" ∉ relatedNames := by decide
          exact absurd named other

theorem follow?_cons {name : String} {inner : EntityFilter} (path : List String)
    (holds : filter.test = (name, .related inner)) :
    filter.follow? (name :: path) = inner.follow? path := by
  simp [follow?, related?, holds]

/-- What is read at the end of a path is read as the filter that the path leads to. -/
theorem exists_follow? {path : List String} (related : ∀ name ∈ path, name ∈ relatedNames)
    (read : filter.ReadFrom (Value.nest path value)) :
    ∃ leaf, filter.follow? path = some leaf ∧ leaf.ReadFrom value := by
  induction path generalizing filter with
  | nil => exact ⟨filter, rfl, read⟩
  | cons name rest ih =>
      obtain ⟨named, tells⟩ := (accepted_of_readFrom read).single _ _ rfl
      have same : name = filter.test.1 := Text.ofString_inj.mp named
      obtain ⟨inner, relates⟩ := exists_related (same ▸ related name (List.mem_cons_self ..))
      have holds : filter.test = (name, .related inner) := Prod.ext same.symm relates
      rw [relates] at tells
      obtain ⟨leaf, followed, reads⟩ :=
        ih (fun other member => related other (List.mem_cons_of_mem _ member)) tells
      exact ⟨leaf, (follow?_cons rest holds).trans followed, reads⟩

end EntityFilter

theorem Source.path_related (source : Source) :
    ∀ name ∈ source.path, name ∈ EntityFilter.relatedNames := by
  cases source <;> decide

theorem MediaMetadataFilter.test_ne_related (filter : MediaMetadataFilter)
    (inner : EntityFilter) : (EntityFilter.mediaMetadata filter).test.2 ≠ .related inner := by
  cases filter <;> simp [EntityFilter.test]

theorem SeriesMetadataFilter.test_ne_related (filter : SeriesMetadataFilter)
    (inner : EntityFilter) : (EntityFilter.seriesMetadata filter).test.2 ≠ .related inner := by
  cases filter <;> simp [EntityFilter.test]

theorem LibraryFilter.test_ne_related (filter : LibraryFilter) (inner : EntityFilter) :
    (EntityFilter.library filter).test.2 ≠ .related inner := by
  cases filter <;> simp [EntityFilter.test]

namespace MediaFilter

variable {filter : MediaFilter} {source : Source} {leaf : EntityFilter}

/-- The path of a source leads to where a filter ends, or to a related entity on the
way. -/
theorem source_of_follow? (led : (EntityFilter.media filter).follow? source.path = some leaf) :
    (filter.source = (source, leaf) ∧ ∀ inner, leaf.test.2 ≠ .related inner) ∨
      (filter.source.1 ≠ source ∧ ∃ inner, leaf.test.2 = .related inner) := by
  unfold EntityFilter.follow? at led
  cases source with
  | book =>
      obtain rfl : EntityFilter.media filter = leaf := Option.some.inj led
      cases filter with
      | text field predicate => exact Or.inl ⟨rfl, by simp [EntityFilter.test]⟩
      | metadata inner => exact Or.inr ⟨nofun, _, rfl⟩
      | series inner =>
          refine Or.inr ⟨?_, _, rfl⟩
          cases inner <;> nofun
  | bookMetadata =>
      cases filter <;> simp [EntityFilter.related?, EntityFilter.test, Source.path] at led
      case metadata inner =>
        cases led
        exact Or.inl ⟨rfl, inner.test_ne_related⟩
  | series =>
      cases filter <;> simp [EntityFilter.related?, EntityFilter.test, Source.path] at led
      case series inner =>
        cases led
        cases inner with
        | text field predicate => exact Or.inl ⟨rfl, by simp [EntityFilter.test]⟩
        | metadata inner => exact Or.inr ⟨nofun, _, rfl⟩
        | library inner => exact Or.inr ⟨nofun, _, rfl⟩
  | seriesMetadata =>
      rcases filter with _ | _ | ⟨_⟩ | inner | _ <;>
        simp [EntityFilter.related?, EntityFilter.test, Source.path] at led
      cases led
      exact Or.inl ⟨rfl, inner.test_ne_related⟩
  | library =>
      rcases filter with _ | _ | ⟨_⟩ | _ | inner <;>
        simp [EntityFilter.related?, EntityFilter.test, Source.path] at led
      cases led
      exact Or.inl ⟨rfl, inner.test_ne_related⟩

end MediaFilter

namespace FormFilter

variable {row : FormFilter} {filter : MediaFilter}

/-- Every row that is accepted comes back, and it comes back with its own field, source and
operation exactly if it is plain. -/
theorem toForm_keeps_iff (accepted : row.toFilter = .ok filter) :
    ∃ back, filter.toForm = .ok back ∧
      (back.field = row.field ∧ back.source = row.source ∧ back.operation = row.operation ↔
        row.Plain) := by
  obtain ⟨value, made, reported⟩ := Outcome.bind_eq_ok.mp accepted
  have read : (EntityFilter.media filter).ReadFrom
      (Value.nest row.source.path (.object [(row.field, value)])) :=
    Checked.reported_eq_ok.mp reported
  obtain ⟨leaf, led, reads⟩ := EntityFilter.exists_follow? row.source.path_related read
  obtain ⟨named, tells⟩ := (EntityFilter.accepted_of_readFrom reads).single _ _ rfl
  refine ⟨⟨filter.source.2.test.1, filter.source.2.test.2.describe.1, filter.source.1,
    filter.source.2.test.2.describe.2⟩, ?_, ?_⟩
  · simp only [MediaFilter.toForm, make_describe_test, Checked.reported]
  · -- The path ends at what was meant as the operand, or that was read as a filter.
    rcases MediaFilter.source_of_follow? led with ⟨ends, own⟩ | ⟨apart, inner, relates⟩
    · have meant := FieldTest.ofValue?_of_readFrom own tells
      rw [ends, ← plain_iff made meant]
      exact ⟨fun same => same.2.2, fun same => ⟨named.symm, rfl, same⟩⟩
    · rw [relates] at tells
      refine iff_of_false ?_ (not_plain_of_readFrom made tells)
      rintro ⟨-, same, -⟩
      exact apart same

/-- A range that is given by its ends is plain. -/
theorem age_range_keeps :
    let ends : Value := .object [("from", .int 6), ("to", .int 12)]
    let row : FormFilter := ⟨"age_rating", .range, .seriesMetadata, .value ends⟩
    ∃ filter, row.toFilter = .ok filter ∧ row.Plain ∧
      ∃ back, filter.toForm = .ok back ∧
        back.field = row.field ∧ back.source = row.source ∧ back.operation = row.operation := by
  intro ends row
  have accepted : row.toFilter = .ok (.series (.metadata
      (.number .ageRating (.range ⟨.int 6, .int 12, none⟩)))) := rfl
  have plain : row.Plain := ⟨ends, rfl, Or.inl rfl⟩
  obtain ⟨back, flattened, keeps⟩ := toForm_keeps_iff accepted
  exact ⟨_, accepted, plain, back, flattened, keeps.mpr plain⟩

/-- An object is read as what it says also under another operation. -/
theorem object_speaks_for_itself :
    let equal : FormFilter := ⟨"name", .equals, .book, .value (.object [("contains", .text "x")])⟩
    let ranged : FormFilter := ⟨"year", .range, .bookMetadata, .value (.object [("gt", .int 5)])⟩
    (∃ filter back, make equal.field equal.operation equal.source equal.operand = .ok equal ∧
      equal.toFilter = .ok filter ∧ filter.toForm = .ok back ∧
        back.operation = .single .contains) ∧
    (∃ filter back, make ranged.field ranged.operation ranged.source ranged.operand = .ok ranged ∧
      ranged.toFilter = .ok filter ∧ filter.toForm = .ok back ∧ back.operation = .bound .gt) := by
  refine ⟨⟨.text .name (.single .contains "x"), _, rfl, rfl, rfl, rfl⟩, ?_⟩
  exact ⟨.metadata (.number .year (.bound .gt (.int 5))), _, rfl, rfl, rfl, rfl⟩

end FormFilter
end CatalogQuery
