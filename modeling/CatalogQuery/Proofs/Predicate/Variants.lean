import CatalogQuery.Proofs.Predicate.Reading

/-!
# The variants of predicates

The predicates of a kind are a union of variants, one for each operation, and each of
them has a reader of its own (`Match.variant?`, `OrderedMatch.variant?`) that knows
nothing of the others.  A predicate is read by one pass over the keys instead, which
finds exactly what the variant of its operation reads (`OrderedMatch.variant?_eq_some_iff`).
So of all variants at most one accepts an object.  Which one is told by the keys of the
object and by nothing else, and the operands only decide whether it does
(`Operation.Takes`).
-/

namespace CatalogQuery

/-! ## Keys -/

/-- The name that the operand of an operator has in its variant.  It may stand for the
key of the operator. -/
def SingleOperator.operandName : SingleOperator → String
  | not => "not_"
  | contains => "contains"
  | excludes => "excludes"

/-- The name that the operands of an operator have in its variant. -/
def ListOperator.operandName : ListOperator → String
  | any => "any_"
  | none => "none"

/-- What stands under a key if nothing else is there.  Another name may stand for the
key, which is looked for only if the key itself is absent. -/
def Fields.sole? (key other : Text) (fields : Fields Value) : Option Value :=
  let name := if fields.has key then key else other
  if fields.names.all (· == name) then fields.get? name else none

/-- The keys of an object are those of a list, in whatever order. -/
def Fields.HasKeys (fields : Fields Value) (keys : List String) : Prop :=
  ∀ name, name ∈ fields.names ↔ name ∈ keys.map Text.ofString

/-- The objects that an operation takes: which keys they have, each in one spelling, and
what stands under them. -/
inductive Operation.Takes {α : Type} (operand? : Value → Option α) (fields : Fields Value) :
    Operation → Prop where
  | single {operator : SingleOperator} {key : String} {value : Value}
      (spelled : key = operator.key ∨ key = operator.operandName) (keys : fields.HasKeys [key])
      (stored : fields.get? key = some value) (valid : (operand? value).isSome = true) :
      Takes operand? fields (.single operator)
  | several {operator : ListOperator} {key : String} {items : List Value}
      (spelled : key = operator.key ∨ key = operator.operandName) (keys : fields.HasKeys [key])
      (stored : fields.get? key = some (.list items))
      (valid : ∀ item ∈ items, (operand? item).isSome = true) :
      Takes operand? fields (.several operator)
  | bound {operator : BoundOperator} {value : Value} (keys : fields.HasKeys [operator.key])
      (stored : fields.get? operator.key = some value)
      (valid : (operand? value).isSome = true) : Takes operand? fields (.bound operator)
  | range {startKey : String} {start stop : Value}
      (spelled : startKey = "from" ∨ startKey = "from_")
      (keys : fields.HasKeys [startKey, "to"] ∨ fields.HasKeys [startKey, "to", "inclusive"])
      (started : fields.get? startKey = some start) (stopped : fields.get? "to" = some stop)
      (valid : (operand? start).isSome = true ∧ (operand? stop).isSome = true)
      (inclusive : ∀ value, fields.get? "inclusive" = some value →
        value.isNull = true ∨ ∃ included, Checked.truth value = .ok included) :
      Takes operand? fields .range

/-- The keys that the wire form of an operation may have. -/
def Operation.sentKeys : Operation → List (List String)
  | equals => []
  | single operator => [[operator.key]]
  | several operator => [[operator.key]]
  | bound operator => [[operator.key]]
  | range => [["from", "to"], ["from", "to", "inclusive"]]

/-! ## Readers of single variants -/

/-- What the variant of an operation reads, without order. -/
def Match.variant? {α : Type} (operand? : Value → Option α) (operation : Operation)
    (value : Value) : Option (Match α) :=
  match operation, value with
  | .equals, value => (operand? value).map .equals
  | .single operator, .object fields =>
      ((Fields.sole? operator.key operator.operandName fields).bind operand?).map (.single operator)
  | .several operator, .object fields =>
      ((Fields.sole? operator.key operator.operandName fields).bind (readOperands? operand?)).map
        (.several operator)
  | _, _ => none

/-- What the variant of an operation reads. -/
def OrderedMatch.variant? {α : Type} (operand? : Value → Option α) (operation : Operation)
    (value : Value) : Option (OrderedMatch α) :=
  match operation, value with
  | .bound operator, .object fields =>
      ((Fields.sole? operator.key operator.key fields).bind operand?).map (.bound operator)
  | .range, .object fields => (Range.read? operand? fields).map .range
  | operation, value => (Match.variant? operand? operation value).map .plain

namespace Fields

variable {fields : Fields Value} {key other : Text} {value : Value}

/-- If every name occurs once, names that are all the same are one name. -/
theorem eq_singleton_of_names (distinct : fields.names.Nodup)
    (only : ∀ name ∈ fields.names, name = key) (stored : fields.get? key = some value) :
    fields = [(key, value)] := by
  match fields with
  | [] => cases stored
  | [(name, content)] =>
      obtain rfl : name = key := only name (by simp [names])
      simpa [get?] using stored
  | (first, _) :: (second, _) :: rest =>
      have same : first = second :=
        (only first (by simp [names])).trans (only second (by simp [names])).symm
      simp [names, same] at distinct

theorem eq_of_get?_singleton {name : Text} {content : Value}
    (stored : Fields.get? name [(key, content)] = some value) : key = name := by
  by_cases same : key = name
  · exact same
  · simp [get?, same] at stored

theorem sole?_eq_some_iff (distinct : fields.names.Nodup) :
    fields.sole? key other = some value ↔
      ∃ name, (name = key ∨ name = other) ∧ fields = [(name, value)] := by
  constructor
  · intro found
    obtain ⟨only, stored⟩ := Option.ite_none_right_eq_some.mp found
    refine ⟨_, ?_, eq_singleton_of_names distinct (by simpa using only) stored⟩
    split
    · exact Or.inl rfl
    · exact Or.inr rfl
  · rintro ⟨name, rfl | rfl, rfl⟩
    · simp [sole?, has, get?, names]
    · by_cases same : name = key <;> simp [sole?, has, get?, names, same]

/-- An object with one key is that key and what stands under it. -/
theorem hasKeys_singleton_iff {key : String} (distinct : fields.names.Nodup) :
    (fields.HasKeys [key] ∧ fields.get? key = some value) ↔ fields = [((key : Text), value)] := by
  constructor
  · rintro ⟨keys, stored⟩
    exact eq_singleton_of_names distinct (fun name member => by simpa using (keys name).mp member)
      stored
  · rintro rfl
    simp [HasKeys, names, get?]

end Fields

/-! ## One pass over the keys -/

/-- An operator is meant by its key and by the name of its operand. -/
theorem SingleOperator.meaning?_eq_some_iff {key : Text} {operator : SingleOperator} :
    key.meaning? keyed = some operator ↔
      key = Text.ofString operator.key ∨ key = Text.ofString operator.operandName := by
  constructor
  · intro meant
    obtain ⟨name, rfl, member⟩ := Text.mem_of_meaning? meant
    have spelled : ∀ entry ∈ keyed, entry.1 = entry.2.key ∨ entry.1 = entry.2.operandName := by
      decide
    simpa using spelled _ member
  · rintro (rfl | rfl) <;> rw [Text.meaning?_ofString] <;> cases operator <;> rfl

theorem ListOperator.meaning?_eq_some_iff {key : Text} {operator : ListOperator} :
    key.meaning? keyed = some operator ↔
      key = Text.ofString operator.key ∨ key = Text.ofString operator.operandName := by
  constructor
  · intro meant
    obtain ⟨name, rfl, member⟩ := Text.mem_of_meaning? meant
    have spelled : ∀ entry ∈ keyed, entry.1 = entry.2.key ∨ entry.1 = entry.2.operandName := by
      decide
    simpa using spelled _ member
  · rintro (rfl | rfl) <;> rw [Text.meaning?_ofString] <;> cases operator <;> rfl

theorem BoundOperator.meaning?_eq_some_iff {key : Text} {operator : BoundOperator} :
    key.meaning? keyed = some operator ↔ key = Text.ofString operator.key := by
  constructor
  · intro meant
    obtain ⟨name, rfl, member⟩ := Text.mem_of_meaning? meant
    have spelled : ∀ entry ∈ keyed, entry.1 = entry.2.key := by decide
    simpa using spelled _ member
  · rintro rfl
    rw [Text.meaning?_ofString]
    exact operator.lookup_key.1

/-- What means a list operator means no operator with one value. -/
theorem ListOperator.single_eq_none {key : Text} {operator : ListOperator}
    (meant : key.meaning? keyed = some operator) : key.meaning? SingleOperator.keyed = .none := by
  obtain ⟨name, rfl, member⟩ := Text.mem_of_meaning? meant
  have apart : ∀ entry ∈ keyed, SingleOperator.keyed.lookup entry.1 = .none := by decide
  rw [Text.meaning?_ofString]
  exact apart _ member

section Union

variable {α : Type} (form : OperandForm α) {operation : Operation} {fields : Fields Value}

/-- A variant that accepts an object is the one of the operation that the union finds. -/
theorem Match.read?_of_variant? (distinct : fields.names.Nodup) {predicate : Match α}
    (read : variant? form.read? operation (.object fields) = some predicate) :
    read? form.read? (.object fields) = some predicate ∧
      (predicate.describe form.write).1 = operation := by
  cases operation with
  | equals => simp [variant?, form.read?_object] at read
  | single operator =>
      obtain ⟨value, found, rfl⟩ := Option.map_eq_some_iff.mp read
      obtain ⟨operand, stored, valid⟩ := Option.bind_eq_some_iff.mp found
      obtain ⟨key, spelled, rfl⟩ := (Fields.sole?_eq_some_iff distinct).mp stored
      have meant := SingleOperator.meaning?_eq_some_iff.mpr spelled
      simp [read?, form.read?_object, meant, valid, describe]
  | several operator =>
      obtain ⟨values, found, rfl⟩ := Option.map_eq_some_iff.mp read
      obtain ⟨operand, stored, valid⟩ := Option.bind_eq_some_iff.mp found
      obtain ⟨key, spelled, rfl⟩ := (Fields.sole?_eq_some_iff distinct).mp stored
      have meant := ListOperator.meaning?_eq_some_iff.mpr spelled
      simp [read?, form.read?_object, meant, ListOperator.single_eq_none meant, valid, describe]
  | bound operator => cases read
  | range => cases read

theorem Match.variant?_of_read? {predicate : Match α}
    (read : read? form.read? (.object fields) = some predicate) :
    variant? form.read? (predicate.describe form.write).1 (.object fields) = some predicate := by
  unfold read? at read
  simp only [form.read?_object] at read
  split at read
  · next key operand single =>
      cases single
      have distinct : (Fields.names [(key, operand)]).Nodup := by simp [Fields.names]
      split at read
      · next operator meant =>
          obtain ⟨value, valid, rfl⟩ := Option.map_eq_some_iff.mp read
          have stored := (Fields.sole?_eq_some_iff distinct).mpr
            ⟨key, SingleOperator.meaning?_eq_some_iff.mp meant, rfl⟩
          simp [describe, variant?, stored, valid]
      · split at read
        · next operator meant =>
            obtain ⟨values, valid, rfl⟩ := Option.map_eq_some_iff.mp read
            have stored := (Fields.sole?_eq_some_iff distinct).mpr
              ⟨key, ListOperator.meaning?_eq_some_iff.mp meant, rfl⟩
            simp [describe, variant?, stored, valid]
        · cases read
  · cases read

/-- The variant of an operation accepts exactly what is read as a predicate with that
operation. -/
theorem Match.variant?_eq_some_iff (distinct : fields.names.Nodup) {predicate : Match α} :
    variant? form.read? operation (.object fields) = some predicate ↔
      read? form.read? (.object fields) = some predicate ∧
        (predicate.describe form.write).1 = operation := by
  constructor
  · exact read?_of_variant? form distinct
  · rintro ⟨read, rfl⟩
    exact variant?_of_read? form read

/-- Whether the ends of a range belong to it, as its object tells. -/
def Range.inclusiveOf? (fields : Fields Value) : Option (Option Bool) :=
  match Fields.get? "inclusive" fields with
  | some value => readInclusive? value
  | none => some none

theorem Range.readWith?_eq (operand? : Value → Option α) (startKey : Text)
    (fields : Fields Value) :
    readWith? operand? startKey fields = (do
      let start ← operand? (← fields.get? startKey)
      let stop ← operand? (← fields.get? "to")
      let inclusive ← inclusiveOf? fields
      if fields.names.all (keys startKey).contains then some ⟨start, stop, inclusive⟩
      else none) := by
  unfold readWith? inclusiveOf?
  cases Fields.get? "inclusive" fields <;> rfl

theorem Range.readWith?_eq_some_iff {operand? : Value → Option α} {startKey : Text}
    {range : Range α} :
    readWith? operand? startKey fields = some range ↔
      (∃ start, fields.get? startKey = some start ∧ operand? start = some range.start) ∧
        (∃ stop, fields.get? "to" = some stop ∧ operand? stop = some range.stop) ∧
          inclusiveOf? fields = some range.inclusive ∧
            ∀ name ∈ fields.names, name ∈ keys startKey := by
  obtain ⟨start, stop, inclusive⟩ := range
  have closed : (fields.names.all (keys startKey).contains = true) ↔
      ∀ name ∈ fields.names, name ∈ keys startKey := by simp
  rw [readWith?_eq]
  simp only [bind, Option.bind_eq_some_iff, Option.ite_none_right_eq_some, closed,
    Option.some.injEq, Range.mk.injEq]
  constructor
  · rintro ⟨start, stored, _, valid, stop, stored', _, valid', _, told, known, rfl, rfl, rfl⟩
    exact ⟨⟨start, stored, valid⟩, ⟨stop, stored', valid'⟩, told, known⟩
  · rintro ⟨⟨start, stored, valid⟩, ⟨stop, stored', valid'⟩, told, known⟩
    exact ⟨start, stored, _, valid, stop, stored', _, valid', _, told, known, rfl, rfl, rfl⟩

/-- A range is read from one of the two spellings of its start. -/
theorem Range.exists_read?_eq (operand? : Value → Option α) (fields : Fields Value) :
    ∃ startKey : String, (startKey = "from" ∨ startKey = "from_") ∧
      read? operand? fields = readWith? operand? startKey fields := by
  unfold read?
  split
  · exact ⟨"from", Or.inl rfl, rfl⟩
  · exact ⟨"from_", Or.inr rfl, rfl⟩

/-- A range has two keys at least, so it is not taken for an operator with one. -/
theorem OrderedMatch.read?_of_range {range : Range α}
    (read : Range.read? form.read? fields = some range) :
    OrderedMatch.read? form.read? (.object fields) = some (.range range) := by
  obtain ⟨startKey, spelled, same⟩ := Range.exists_read?_eq form.read? fields
  obtain ⟨⟨start, first, -⟩, ⟨stop, last, -⟩, -⟩ :=
    Range.readWith?_eq_some_iff.mp (same.symm.trans read)
  match fields with
  | [] => cases first
  | [(key, operand)] =>
      have same : startKey = "to" := Text.ofString_inj.mp
        ((Fields.eq_of_get?_singleton first).symm.trans (Fields.eq_of_get?_singleton last))
      rcases spelled with rfl | rfl <;> exact absurd same (by decide)
  | first :: second :: rest => simp [OrderedMatch.read?, Match.read?, form.read?_object, read]

theorem OrderedMatch.read?_of_variant? (distinct : fields.names.Nodup)
    {predicate : OrderedMatch α}
    (read : variant? form.read? operation (.object fields) = some predicate) :
    read? form.read? (.object fields) = some predicate ∧
      (predicate.describe form.write).1 = operation := by
  unfold variant? at read
  split at read
  · next operator fields same =>
      cases same
      obtain ⟨value, found, rfl⟩ := Option.map_eq_some_iff.mp read
      obtain ⟨operand, stored, valid⟩ := Option.bind_eq_some_iff.mp found
      obtain ⟨key, spelled, rfl⟩ := (Fields.sole?_eq_some_iff distinct).mp stored
      obtain rfl := spelled.elim id id
      simp [OrderedMatch.read?, Match.read?, form.read?_object, operator.lookup_key, valid,
        describe]
  · next same =>
      cases same
      obtain ⟨range, ends, rfl⟩ := Option.map_eq_some_iff.mp read
      exact ⟨OrderedMatch.read?_of_range form ends, rfl⟩
  · obtain ⟨plain, found, rfl⟩ := Option.map_eq_some_iff.mp read
    obtain ⟨union, described⟩ := Match.read?_of_variant? form distinct found
    exact ⟨by simp [OrderedMatch.read?, union], described⟩

theorem OrderedMatch.variant?_of_read? {predicate : OrderedMatch α}
    (read : read? form.read? (.object fields) = some predicate) :
    variant? form.read? (predicate.describe form.write).1 (.object fields) = some predicate := by
  unfold read? at read
  split at read
  · next plain matched =>
      cases read
      have single := Match.variant?_of_read? form matched
      cases plain <;> simpa [describe, Match.describe, variant?] using single
  · split at read
    · next key operand single =>
        cases single
        split at read
        · next operator meant =>
            obtain ⟨value, valid, rfl⟩ := Option.map_eq_some_iff.mp read
            have stored : Fields.sole? operator.key operator.key [(key, operand)] = some operand :=
              (Fields.sole?_eq_some_iff (by simp [Fields.names])).mpr
                ⟨key, Or.inl (BoundOperator.meaning?_eq_some_iff.mp meant), rfl⟩
            simp [describe, variant?, stored, valid]
        · cases read
    · next same =>
        cases same
        obtain ⟨range, ends, rfl⟩ := Option.map_eq_some_iff.mp read
        simp [describe, variant?, ends]
    · cases read

/-- The variant of an operation accepts exactly what is read as a predicate with that
operation. -/
theorem OrderedMatch.variant?_eq_some_iff (distinct : fields.names.Nodup)
    {predicate : OrderedMatch α} :
    variant? form.read? operation (.object fields) = some predicate ↔
      read? form.read? (.object fields) = some predicate ∧
        (predicate.describe form.write).1 = operation := by
  constructor
  · exact read?_of_variant? form distinct
  · rintro ⟨read, rfl⟩
    exact variant?_of_read? form read

end Union

/-! ## What a variant takes -/

section Takes

variable {α : Type} {operand? : Value → Option α} {fields : Fields Value}

theorem readOperands?_isSome_iff {value : Value} :
    (readOperands? operand? value).isSome = true ↔
      ∃ items, value = .list items ∧ ∀ item ∈ items, (operand? item).isSome = true := by
  have all (items : List Value) : (items.mapM operand?).isSome = true ↔
      ∀ item ∈ items, (operand? item).isSome = true := by
    induction items with
    | nil => simp
    | cons first rest ih =>
        rw [List.forall_mem_cons, ← ih, List.mapM_cons]
        cases operand? first <;> cases rest.mapM operand? <;> simp
  cases value with
  | list items => simpa [readOperands?] using all items
  | _ => simp [readOperands?]

theorem readInclusive?_isSome_iff {value : Value} :
    (readInclusive? value).isSome = true ↔
      value.isNull = true ∨ ∃ included, Checked.truth value = .ok included := by
  have checked : ((Checked.truth value).map some).toOption.isSome = true ↔
      ∃ included, Checked.truth value = .ok included := by
    cases Checked.truth value <;> simp [Except.map, Except.toOption]
  cases value with
  | null => exact iff_of_true rfl (Or.inl rfl)
  | _ => exact checked.trans ⟨Or.inr, fun told => told.resolve_left Bool.false_ne_true⟩

namespace Fields

theorem mem_names_of_get? {name : Text} {value : Value}
    (stored : fields.get? name = some value) : name ∈ fields.names :=
  List.mem_map_of_mem (f := (·.1)) (mem_of_get? stored)

/-- What stands alone under a key passes a check exactly if the key is the only one. -/
theorem sole?_bind_isSome_iff {β : Type} {check : Value → Option β} {key other : String}
    (distinct : fields.names.Nodup) :
    ((fields.sole? key other).bind check).isSome = true ↔
      ∃ (name : String) (value : Value), (name = key ∨ name = other) ∧ fields.HasKeys [name] ∧
        fields.get? name = some value ∧ (check value).isSome = true := by
  simp only [Option.isSome_iff_exists, Option.bind_eq_some_iff, sole?_eq_some_iff distinct]
  constructor
  · rintro ⟨result, value, ⟨name, spelled, only⟩, passed⟩
    obtain ⟨string, rfl⟩ : ∃ string, name = Text.ofString string := by
      rcases spelled with rfl | rfl
      · exact ⟨key, rfl⟩
      · exact ⟨other, rfl⟩
    obtain ⟨keys, stored⟩ := (hasKeys_singleton_iff distinct).mpr only
    exact ⟨string, value, by simpa using spelled, keys, stored, result, passed⟩
  · rintro ⟨name, value, spelled, keys, stored, result, passed⟩
    exact ⟨result, value, ⟨name, by simpa using spelled,
      (hasKeys_singleton_iff distinct).mp ⟨keys, stored⟩⟩, passed⟩

end Fields

/-- The variant of an operation accepts the objects that the operation takes. -/
theorem Match.variant?_isSome_iff (form : OperandForm α) {operation : Operation}
    (distinct : fields.names.Nodup) (unordered : operation.isOrdered = false) :
    (variant? form.read? operation (.object fields)).isSome = true ↔
      operation.Takes form.read? fields := by
  cases operation with
  | equals =>
      refine iff_of_false (by simp [variant?, form.read?_object]) ?_
      intro taken
      cases taken
  | single operator =>
      rw [variant?, Option.isSome_map, Fields.sole?_bind_isSome_iff distinct]
      constructor
      · rintro ⟨key, value, spelled, keys, stored, valid⟩
        exact .single spelled keys stored valid
      · intro taken
        cases taken with
        | single spelled keys stored valid => exact ⟨_, _, spelled, keys, stored, valid⟩
  | several operator =>
      rw [variant?, Option.isSome_map, Fields.sole?_bind_isSome_iff distinct]
      constructor
      · rintro ⟨key, value, spelled, keys, stored, valid⟩
        obtain ⟨items, rfl, each⟩ := readOperands?_isSome_iff.mp valid
        exact .several spelled keys stored each
      · intro taken
        cases taken with
        | several spelled keys stored valid =>
            exact ⟨_, _, spelled, keys, stored, readOperands?_isSome_iff.mpr ⟨_, rfl, valid⟩⟩
  | bound operator => cases unordered
  | range => cases unordered

namespace Range

/-- The keys of a range are its own two, and `inclusive` beside them if it is there. -/
theorem hasKeys_iff {startKey : String} {start stop : Value}
    (started : fields.get? startKey = some start) (stopped : fields.get? "to" = some stop) :
    (∀ name ∈ fields.names, name ∈ keys startKey) ↔
      fields.HasKeys [startKey, "to"] ∨ fields.HasKeys [startKey, "to", "inclusive"] := by
  have first := Fields.mem_names_of_get? started
  have last := Fields.mem_names_of_get? stopped
  constructor
  · intro known
    by_cases present : Text.ofString "inclusive" ∈ fields.names
    · refine Or.inr fun name => ⟨known name, ?_⟩
      simp only [List.map_cons, List.map_nil, List.mem_cons, List.not_mem_nil, or_false]
      rintro (rfl | rfl | rfl) <;> assumption
    · refine Or.inl fun name => ⟨fun member => ?_, ?_⟩
      · have other : name ≠ Text.ofString "inclusive" := fun same => present (same ▸ member)
        simpa [keys, other] using known name member
      · simp only [List.map_cons, List.map_nil, List.mem_cons, List.not_mem_nil, or_false]
        rintro (rfl | rfl) <;> assumption
  · rintro (exact | exact) name member
    · have listed := (exact name).mp member
      simp only [List.map_cons, List.map_nil, List.mem_cons, List.not_mem_nil, or_false] at listed
      rcases listed with rfl | rfl <;> simp [keys]
    · exact (exact name).mp member

theorem readWith?_isSome_iff {startKey : Text} :
    (readWith? operand? startKey fields).isSome = true ↔
      (∃ start, fields.get? startKey = some start ∧ (operand? start).isSome = true) ∧
        (∃ stop, fields.get? "to" = some stop ∧ (operand? stop).isSome = true) ∧
          (inclusiveOf? fields).isSome = true ∧ ∀ name ∈ fields.names, name ∈ keys startKey := by
  simp only [Option.isSome_iff_exists, readWith?_eq_some_iff]
  constructor
  · rintro ⟨range, ⟨start, started, first⟩, ⟨stop, stopped, last⟩, told, known⟩
    exact ⟨⟨start, started, _, first⟩, ⟨stop, stopped, _, last⟩, ⟨_, told⟩, known⟩
  · rintro ⟨⟨start, started, x, first⟩, ⟨stop, stopped, y, last⟩, ⟨b, told⟩, known⟩
    exact ⟨⟨x, y, b⟩, ⟨start, started, first⟩, ⟨stop, stopped, last⟩, told, known⟩

theorem inclusiveOf?_isSome_iff :
    (inclusiveOf? fields).isSome = true ↔
      ∀ value, fields.get? "inclusive" = some value →
        value.isNull = true ∨ ∃ included, Checked.truth value = .ok included := by
  unfold inclusiveOf?
  cases fields.get? "inclusive" with
  | none => simp
  | some value => simp [readInclusive?_isSome_iff]

/-- The keys of an object and what stands under them decide whether it is a range. -/
theorem read?_isSome_iff :
    (read? operand? fields).isSome = true ↔ Operation.range.Takes operand? fields := by
  constructor
  · intro accepted
    obtain ⟨startKey, spelled, same⟩ := exists_read?_eq operand? fields
    rw [same] at accepted
    obtain ⟨⟨start, started, first⟩, ⟨stop, stopped, last⟩, told, known⟩ :=
      readWith?_isSome_iff.mp accepted
    exact .range spelled ((hasKeys_iff started stopped).mp known) started stopped ⟨first, last⟩
      (inclusiveOf?_isSome_iff.mp told)
  · intro taken
    cases taken with
    | range spelled keys started stopped valid inclusive =>
        have read := readWith?_isSome_iff.mpr ⟨⟨_, started, valid.1⟩, ⟨_, stopped, valid.2⟩,
          inclusiveOf?_isSome_iff.mpr inclusive, (hasKeys_iff started stopped).mpr keys⟩
        unfold read?
        rcases spelled with rfl | rfl
        · rwa [if_pos (by simp [Fields.has, started])]
        · -- The start is looked for under `from` first, so that name must be absent.
          have absent : Text.ofString "from" ∉ fields.names := by
            rcases keys with keys | keys <;> simp [keys (Text.ofString "from")]
          have unset := Fields.get?_eq_none_iff.mpr absent
          rwa [if_neg (by simp [Fields.has, unset])]

end Range

/-- The variant of an operation accepts the objects that the operation takes. -/
theorem OrderedMatch.variant?_isSome_iff (form : OperandForm α) {operation : Operation}
    (distinct : fields.names.Nodup) :
    (variant? form.read? operation (.object fields)).isSome = true ↔
      operation.Takes form.read? fields := by
  cases operation with
  | bound operator =>
      rw [variant?, Option.isSome_map, Fields.sole?_bind_isSome_iff distinct]
      constructor
      · rintro ⟨key, value, rfl | rfl, keys, stored, valid⟩
        · exact .bound keys stored valid
        · exact .bound keys stored valid
      · intro taken
        cases taken with
        | bound keys stored valid => exact ⟨_, _, Or.inl rfl, keys, stored, valid⟩
  | range => rw [variant?, Option.isSome_map, Range.read?_isSome_iff]
  | equals => simpa [variant?] using Match.variant?_isSome_iff form distinct rfl
  | single operator => simpa [variant?] using Match.variant?_isSome_iff form distinct rfl
  | several operator => simpa [variant?] using Match.variant?_isSome_iff form distinct rfl

end Takes

/-! ## Wire forms -/

section Sent

variable {α : Type} (write : α → Value)

/-- A predicate that is no mere value is written as an object with the keys of its
operation. -/
theorem Match.names_toValue {predicate : Match α}
    (object : (predicate.describe write).1 ≠ .equals) :
    ∃ wire, predicate.toValue write = .object wire ∧
      ∃ keys ∈ (predicate.describe write).1.sentKeys,
        Fields.names wire = keys.map Text.ofString := by
  cases predicate with
  | equals value => exact absurd rfl object
  | single operator value => exact ⟨_, rfl, _, List.mem_singleton_self _, rfl⟩
  | several operator values => exact ⟨_, rfl, _, List.mem_singleton_self _, rfl⟩

theorem OrderedMatch.names_toValue {predicate : OrderedMatch α}
    (object : (predicate.describe write).1 ≠ .equals) :
    ∃ wire, predicate.toValue write = .object wire ∧
      ∃ keys ∈ (predicate.describe write).1.sentKeys,
        Fields.names wire = keys.map Text.ofString := by
  cases predicate with
  | plain predicate => exact Match.names_toValue write object
  | bound operator value => exact ⟨_, rfl, _, List.mem_singleton_self _, rfl⟩
  | range ends =>
      obtain ⟨start, stop, inclusive⟩ := ends
      cases inclusive with
      | none => exact ⟨_, rfl, ["from", "to"], by simp [describe, Operation.sentKeys], rfl⟩
      | some included =>
          exact ⟨_, rfl, ["from", "to", "inclusive"], by simp [describe, Operation.sentKeys],
            by simp [Range.map, Fields.set, Fields.names]⟩

end Sent

end CatalogQuery
