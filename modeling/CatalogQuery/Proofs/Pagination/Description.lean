import CatalogQuery.Pagination.Page
import CatalogQuery.Proofs.Predicate.Reading
import CatalogQuery.Proofs.Validation.Checks

/-!
# Reading descriptions of pages

The tag of a description is the first of its two keys that holds something, and it alone
decides how the rest is read (`Tagged`).  Every other key counts in either of its spellings,
a key that may be left out has a default, and what stands under any other name is passed
over (`Describes`).  In all of these forms a description is read as the same page
information, which its wire form is one way to write (`read_by_tag_alone`).
-/

namespace CatalogQuery

namespace PageInfo

/-- Nothing stands under a name, or null. -/
def Vacant (name : Text) (fields : Fields Value) : Prop :=
  Fields.get? name fields = none ∨ Fields.get? name fields = some .null

/-- The tag that an object carries. -/
inductive Tagged (fields : Fields Value) (tag : Value) : Prop where
  | byKind (found : Fields.get? "__kind" fields = some tag) (given : tag.isNull = false)
  | byTypename (vacant : Vacant "__kind" fields)
      (found : Fields.get? "__typename" fields = some tag) (given : tag.isNull = false)

/-- What stands under a key, in the spelling that counts. -/
inductive Spelling.Holds (spelling : Spelling) (fields : Fields Value) (value : Value) : Prop where
  | capitals (found : Fields.get? spelling.capitals fields = some value)
  | underscores (absent : Fields.get? spelling.capitals fields = none)
      (found : Fields.get? spelling.underscores fields = some value)

/-- What a key that may be left out stands for. -/
inductive Spelling.Means (spelling : Spelling) (fields : Fields Value) (default value : Value) :
    Prop where
  | held (holds : spelling.Holds fields value)
  | omitted (usual : value = default) (absent : Fields.get? spelling.capitals fields = none)
      (unspelled : Fields.get? spelling.underscores fields = none)

/-- The objects that a page is described by.  Nothing is said about other names. -/
inductive Describes (fields : Fields Value) : PageInfo → Prop where
  | offset {info : OffsetPageInfo} (tagged : Tagged fields (.text (tagOf .offset)))
      (currentPage : Spelling.Holds ⟨"currentPage", "current_page"⟩ fields
        (.int info.currentPage))
      (totalPages : Spelling.Holds ⟨"totalPages", "total_pages"⟩ fields (.int info.totalPages))
      (pageSize : Spelling.Holds ⟨"pageSize", "page_size"⟩ fields (.int info.pageSize))
      (pageOffset : Spelling.Means ⟨"pageOffset", "page_offset"⟩ fields (.int 0)
        (.int info.pageOffset))
      (zeroBased : Spelling.Means ⟨"zeroBased", "zero_based"⟩ fields (.bool false)
        (.bool info.zeroBased)) :
      Describes fields (.offset info)
  | cursor {info : CursorPageInfo} (tagged : Tagged fields (.text (tagOf .cursor)))
      (currentCursor : Spelling.Holds ⟨"currentCursor", "current_cursor"⟩ fields
        (.text info.currentCursor))
      (nextCursor : Spelling.Means ⟨"nextCursor", "next_cursor"⟩ fields .null
        (info.nextCursor.elim .null .text)) :
      Describes fields (.cursor info)

variable {fields : Fields Value} {mode : PaginationMode}

theorem modeOfTag?_eq_some_iff {tag : Value} :
    modeOfTag? tag = some mode ↔ tag = .text (tagOf mode) := by
  constructor
  · intro known
    cases tag with
    | text text =>
        obtain ⟨string, read, meant⟩ := Option.bind_eq_some_iff.mp known
        obtain rfl := Text.eq_ofString_of_string? read
        have named : string = tagOf mode := by
          simp only [List.lookup_cons, List.lookup_nil] at meant
          split at meant
          · rename_i same
            rw [eq_of_beq same, ← Option.some.inj meant]
          · split at meant
            · rename_i same
              rw [eq_of_beq same, ← Option.some.inj meant]
            · cases meant
        rw [named]
    | _ => cases known
  · rintro rfl
    cases mode <;> exact Text.meaning?_ofString _ _

/-- A description that carries the tag of a mode is read by the rules of that mode. -/
theorem ofFields_of_named (named : tag? fields = some (.text (tagOf mode))) :
    (∃ info, ofFields fields = .ok info ∧ info.mode = mode) ∨
      ∃ error, ofFields fields = .error (.invalid error) := by
  have meant : modeOfTag? (.text (tagOf mode)) = some mode := modeOfTag?_eq_some_iff.mpr rfl
  cases mode with
  | offset =>
      simp only [ofFields, named, meant]
      cases checkOffset fields with
      | ok info => exact Or.inl ⟨.offset info, rfl, rfl⟩
      | error issues => exact Or.inr ⟨_, rfl⟩
  | cursor =>
      simp only [ofFields, named, meant]
      cases checkCursor fields with
      | ok info => exact Or.inl ⟨.cursor info, rfl, rfl⟩
      | error issues => exact Or.inr ⟨_, rfl⟩

theorem ofFields_of_unknown {tag : Value} (named : tag? fields = some tag)
    (strange : ∀ known, tag ≠ .text (tagOf known)) :
    ofFields fields = .error (.pagination (.unknownTag tag.inspect)) := by
  have unmeant : modeOfTag? tag = none := by
    rw [Option.eq_none_iff_forall_ne_some]
    intro known meant
    exact strange known (modeOfTag?_eq_some_iff.mp meant)
  simp [ofFields, named, unmeant]

/-- What an object with a tag is read as: the tag names a mode, or is unknown. -/
theorem ofFields_of_tag? {tag : Value} (named : tag? fields = some tag) :
    (∃ mode, tag = .text (tagOf mode) ∧
      ((∃ info, ofFields fields = .ok info ∧ info.mode = mode) ∨
        ∃ error, ofFields fields = .error (.invalid error))) ∨
    (∀ mode, tag ≠ .text (tagOf mode)) ∧
      ofFields fields = .error (.pagination (.unknownTag tag.inspect)) := by
  by_cases familiar : ∃ mode, tag = .text (tagOf mode)
  · obtain ⟨mode, rfl⟩ := familiar
    exact Or.inl ⟨mode, rfl, ofFields_of_named named⟩
  · have strange : ∀ mode, tag ≠ .text (tagOf mode) := not_exists.mp familiar
    exact Or.inr ⟨strange, ofFields_of_unknown named strange⟩

theorem tag?_of_tagged {tag : Value} (tagged : Tagged fields tag) : tag? fields = some tag := by
  cases tagged with
  | byKind found given => simp [tag?, tagKeys, found, given]
  | byTypename vacant found given =>
      have null : Value.isNull .null = true := rfl
      rcases vacant with absent | empty
      · simp [tag?, tagKeys, absent, found, given]
      · simp [tag?, tagKeys, empty, null, found, given]

theorem tag?_of_vacant (kind : Vacant "__kind" fields) (typename : Vacant "__typename" fields) :
    tag? fields = none := by
  refine List.findSome?_eq_none_iff.mpr fun key member => ?_
  have vacant : Vacant key fields := by
    simp only [tagKeys, List.mem_cons, List.not_mem_nil, or_false] at member
    rcases member with rfl | rfl
    · exact kind
    · exact typename
  rcases vacant with absent | null
  · simp [absent]
  · simp [null, Value.isNull]

theorem tagged_or_vacant (fields : Fields Value) :
    (∃ tag, Tagged fields tag) ∨ Vacant "__kind" fields ∧ Vacant "__typename" fields := by
  have vacant_or_given (name : Text) : Vacant name fields ∨
      ∃ tag, Fields.get? name fields = some tag ∧ tag.isNull = false := by
    unfold Vacant
    cases found : Fields.get? name fields with
    | none => exact Or.inl (Or.inl rfl)
    | some value => cases value <;> simp [Value.isNull]
  rcases vacant_or_given "__kind" with kind | ⟨tag, found, given⟩
  · rcases vacant_or_given "__typename" with typename | ⟨tag, found, given⟩
    · exact Or.inr ⟨kind, typename⟩
    · exact Or.inl ⟨tag, .byTypename kind found given⟩
  · exact Or.inl ⟨tag, .byKind found given⟩

theorem tag?_eq_some_iff {tag : Value} : tag? fields = some tag ↔ Tagged fields tag := by
  refine ⟨fun named => ?_, tag?_of_tagged⟩
  rcases tagged_or_vacant fields with ⟨other, tagged⟩ | ⟨kind, typename⟩
  · cases named.symm.trans (tag?_of_tagged tagged)
    exact tagged
  · cases named.symm.trans (tag?_of_vacant kind typename)

theorem tag?_eq_none_iff :
    tag? fields = none ↔ Vacant "__kind" fields ∧ Vacant "__typename" fields := by
  refine ⟨fun unnamed => ?_, fun vacant => tag?_of_vacant vacant.1 vacant.2⟩
  rcases tagged_or_vacant fields with ⟨tag, tagged⟩ | vacant
  · cases unnamed.symm.trans (tag?_of_tagged tagged)
  · exact vacant

theorem ofFields_eq_missingTag_iff :
    ofFields fields = .error (.pagination .missingTag) ↔ tag? fields = none := by
  cases named : tag? fields with
  | none => simp [ofFields, named]
  | some tag =>
      rcases ofFields_of_tag? named with ⟨_, -, ⟨_, made, -⟩ | ⟨_, made⟩⟩ | ⟨-, made⟩ <;>
        simp [made]

theorem ofFields_eq_unknownTag_iff {shown : String} :
    ofFields fields = .error (.pagination (.unknownTag shown)) ↔
      ∃ tag, tag? fields = some tag ∧ (∀ mode, tag ≠ .text (tagOf mode)) ∧
        shown = tag.inspect := by
  cases named : tag? fields with
  | none => simp [ofFields, named]
  | some tag =>
      rcases ofFields_of_tag? named with ⟨mode, rfl, read⟩ | ⟨strange, made⟩
      · refine iff_of_false ?_ ?_
        · rcases read with ⟨_, made, -⟩ | ⟨_, made⟩ <;> simp [made]
        · rintro ⟨_, same, strange, -⟩
          exact strange mode (Option.some.inj same).symm
      · simp [made, strange, eq_comm]

theorem tag?_of_ofFields {info : PageInfo} (read : ofFields fields = .ok info) :
    tag? fields = some (.text (tagOf info.mode)) := by
  cases named : tag? fields with
  | none => simp [ofFields, named] at read
  | some tag =>
      rcases ofFields_of_tag? named with ⟨mode, rfl, ⟨other, made, rfl⟩ | ⟨_, made⟩⟩ | ⟨-, made⟩
      · cases read.symm.trans made
        rfl
      · cases read.symm.trans made
      · cases read.symm.trans made

section Keys

variable {α : Type} {capitals underscores : String} {value : Value} {check : Value → Checked α}
  {result : α}

theorem required_of_holds (holds : Spelling.Holds ⟨capitals, underscores⟩ fields value)
    (passes : check value = .ok result) :
    required capitals underscores check fields = .ok result := by
  cases holds with
  | capitals found => simp [required, Spelling.get?, found, Checked.inField_eq_ok, passes]
  | underscores absent found =>
      simp [required, Spelling.get?, absent, found, Checked.inField_eq_ok, passes]

theorem optional_of_means {default : Value} {usual : α}
    (means : Spelling.Means ⟨capitals, underscores⟩ fields default value)
    (passes : check value = .ok result) (passes_default : check default = .ok usual) :
    optional capitals underscores usual check fields = .ok result := by
  cases means with
  | held holds =>
      cases holds with
      | capitals found => simp [optional, Spelling.get?, found, Checked.inField_eq_ok, passes]
      | underscores absent found =>
          simp [optional, Spelling.get?, absent, found, Checked.inField_eq_ok, passes]
  | omitted same absent unspelled =>
      rw [same, passes_default] at passes
      simp [optional, Spelling.get?, absent, unspelled, Except.ok.inj passes]

end Keys

theorem ofFields_of_describes {info : PageInfo} (describes : Describes fields info) :
    ofFields fields = .ok info := by
  have meant (mode : PaginationMode) : modeOfTag? (.text (tagOf mode)) = some mode :=
    modeOfTag?_eq_some_iff.mpr rfl
  cases describes with
  | @offset info tagged currentPage totalPages pageSize pageOffset zeroBased =>
      have integer (i : Int) : Checked.integer (.int i) = .ok i := rfl
      have truth (b : Bool) : Checked.truth (.bool b) = .ok b := rfl
      have checked : checkOffset fields = .ok info := by
        unfold checkOffset
        rw [required_of_holds currentPage (integer _), required_of_holds totalPages (integer _),
          required_of_holds pageSize (integer _),
          optional_of_means pageOffset (integer _) (integer 0),
          optional_of_means zeroBased (truth _) (truth false)]
        rfl
      simp only [ofFields, tag?_of_tagged tagged, meant, checked]
      rfl
  | @cursor info tagged currentCursor nextCursor =>
      have text (cursor : Text) : Checked.text (.text cursor) = .ok cursor := rfl
      have last : Checked.optional Checked.text .null = .ok none := rfl
      have next : Checked.optional Checked.text (info.nextCursor.elim .null .text) =
          .ok info.nextCursor := by
        cases info.nextCursor <;> rfl
      have checked : checkCursor fields = .ok info := by
        unfold checkCursor
        rw [required_of_holds currentCursor (text _), optional_of_means nextCursor next last]
        rfl
      simp only [ofFields, tag?_of_tagged tagged, meant, checked]
      rfl

theorem exists_describes_toWire (info : PageInfo) :
    ∃ fields, info.toWire = .object fields ∧ Describes fields info := by
  cases info with
  | offset info =>
      refine ⟨_, rfl, .offset (.byKind rfl rfl) (.capitals ?_) (.capitals ?_) (.capitals ?_)
        (.held (.capitals ?_)) (.held (.capitals ?_))⟩ <;> simp [Fields.get?]
  | cursor info =>
      refine ⟨_, rfl, .cursor (.byKind rfl rfl) (.capitals ?_) (.held (.capitals ?_))⟩
      · simp [Fields.get?]
      · cases info.nextCursor <;> simp [Fields.get?]

/-- A description is read by its tag: its wire form, and every other way to write it, is
read as the same page information.  An object without a tag, or with a tag that names no
mode, is refused as such whatever else it holds, and what any other object is read as has
the mode of its tag. -/
theorem read_by_tag_alone (info : PageInfo) (fields : Fields Value) :
    (∃ written, info.toWire = .object written ∧ Describes written info ∧
      ofValue info.toWire = .ok info) ∧
    (Describes fields info → ofValue (.object fields) = .ok info) ∧
    (ofValue (.object fields) = .error (.pagination .missingTag) ↔
      Vacant "__kind" fields ∧ Vacant "__typename" fields) ∧
    (∀ shown, ofValue (.object fields) = .error (.pagination (.unknownTag shown)) ↔
      ∃ tag, Tagged fields tag ∧ (∀ mode, tag ≠ .text (tagOf mode)) ∧ shown = tag.inspect) ∧
    (ofValue (.object fields) = .ok info → Tagged fields (.text (tagOf info.mode))) := by
  obtain ⟨written, wire, describes⟩ := exists_describes_toWire info
  have reads : ofValue info.toWire = .ok info := by
    rw [wire]
    exact ofFields_of_describes describes
  refine ⟨⟨written, wire, describes, reads⟩, fun described => ofFields_of_describes described,
    ofFields_eq_missingTag_iff.trans tag?_eq_none_iff, fun shown => ?_,
    fun read => tag?_eq_some_iff.mp (tag?_of_ofFields read)⟩
  simp only [← tag?_eq_some_iff]
  exact ofFields_eq_unknownTag_iff

/-- A description by the number of a page, tagged by the second key, with both spellings
mixed, a key left out and keys of the other mode. -/
theorem mixed_description_read :
    let info : PageInfo := .offset ⟨-3, 0, 20, 0, true⟩
    let fields : Fields Value := [("nextCursor", .int 7), ("current_page", .int (-3)),
      ("__kind", .null), ("zero_based", .bool true), ("totalPages", .int 0),
      ("__typename", .text "OffsetPaginationInfo"), ("page_size", .int 20),
      ("currentCursor", .null)]
    Describes fields info ∧ ofValue (.object fields) = .ok info ∧
      Tagged fields (.text (tagOf info.mode)) := by
  intro info fields
  have describes : Describes fields info := by
    refine .offset (.byTypename (.inr ?_) ?_ rfl) (.underscores ?_ ?_) (.capitals ?_)
      (.underscores ?_ ?_) (.omitted rfl ?_ ?_) (.held (.underscores ?_ ?_)) <;>
        simp [fields, Fields.get?, tagOf]
  obtain ⟨-, reads, -, -, tagged⟩ := read_by_tag_alone info fields
  exact ⟨describes, reads describes, tagged (reads describes)⟩

end PageInfo
end CatalogQuery
