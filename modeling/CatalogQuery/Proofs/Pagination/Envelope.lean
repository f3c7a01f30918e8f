import CatalogQuery.Pagination.Page
import CatalogQuery.Proofs.Validation.Checks

/-!
# Spellings of envelopes

Either part of an envelope stands under one of two keys, of which the first one counts if it
is there at all.  So which key is used makes no difference as long as the other one is
missing, and null under the second key makes none either.  Null under the first key does: it
hides what the second one holds, so the envelope describes no page, or its page has no nodes
(`null_hides_second_spelling`).
-/

namespace CatalogQuery

namespace PageResponse

/-- The two keys of a part of an envelope. -/
structure Part where
  first : String
  second : String

def Part.info : Part := ⟨"pageInfo", "page_info"⟩

def Part.nodes : Part := ⟨"nodes", "data"⟩

/-- How a part is spelled: with which of its keys, and whether null stands under the other
one. -/
structure Style where
  bySecond : Bool
  besideNull : Bool

namespace Style

/-- One of the keys, without the other one. -/
def once (bySecond : Bool) : Style := ⟨bySecond, false⟩

def used (style : Style) (part : Part) : String :=
  if style.bySecond then part.second else part.first

def unused (style : Style) (part : Part) : String :=
  if style.bySecond then part.first else part.second

/-- Whether null stands under the first key, and the part under the second one. -/
def hides (style : Style) : Bool := style.bySecond && style.besideNull

end Style

/-- An envelope with a part that is spelled in a style; a part without a value is left
out. -/
structure Spells (part : Part) (style : Style) (value : Option Value) (envelope : Fields Value) :
    Prop where
  used : Fields.get? (style.used part) envelope = value
  unused : Fields.get? (style.unused part) envelope = if style.besideNull then some .null else none

/-- An envelope with both parts, each in its own style. -/
structure Holds (infoStyle nodesStyle : Style) (info nodes : Option Value)
    (envelope : Fields Value) : Prop where
  info : Spells .info infoStyle info envelope
  nodes : Spells .nodes nodesStyle nodes envelope

variable {envelope : Fields Value} {page : PageResponse} {part : Part} {style : Style}
  {value : Option Value}

theorem either?_of_hides (spells : Spells part style value envelope) (hides : style.hides = true) :
    either? part.first part.second envelope = some .null := by
  obtain ⟨bySecond, besideNull⟩ : style.bySecond = true ∧ style.besideNull = true := by
    simpa [Style.hides] using hides
  have null := spells.unused
  simp only [Style.unused, bySecond, besideNull, if_true] at null
  simp [either?, null]

/-- A part that is not hidden is found, and a part that is left out is not, unless as
null. -/
theorem either?_of_shows (spells : Spells part style value envelope) (shows : style.hides = false) :
    either? part.first part.second envelope = value ∨
      value = none ∧ either? part.first part.second envelope = some .null := by
  obtain ⟨bySecond, besideNull⟩ := style
  obtain ⟨used, unused⟩ := spells
  cases bySecond with
  | true =>
      have alone : besideNull = false := by simpa [Style.hides] using shows
      simp only [Style.unused, Style.used, alone, if_true, Bool.false_eq_true, if_false]
        at used unused
      simp [either?, used, unused]
  | false =>
      simp only [Style.unused, Style.used, Bool.false_eq_true, if_false] at used unused
      cases value with
      | some held => simp [either?, used]
      | none => cases besideNull <;> simp [either?, used, unused]

theorem nodesOf_of_spells {nodes : Option Value} (spells : Spells .nodes style nodes envelope) :
    nodesOf (either? "nodes" "data" envelope) =
      if style.hides then .ok [] else nodesOf nodes := by
  have null : nodesOf (some .null) = .ok [] := rfl
  cases hides : style.hides with
  | true => exact congrArg nodesOf (either?_of_hides spells hides)
  | false =>
      rcases either?_of_shows spells hides with found | ⟨rfl, found⟩
      · exact congrArg nodesOf found
      · exact congrArg nodesOf found

/-- What it takes for an envelope to be accepted. -/
theorem ofValue_eq_ok_iff :
    ofValue (.object envelope) = .ok page ↔
      ∃ info, either? "pageInfo" "page_info" envelope = some info ∧
        PageInfo.ofValue info = .ok page.pageInfo ∧
          nodesOf (either? "nodes" "data" envelope) = .ok page.nodes := by
  constructor
  · intro accepted
    simp only [ofValue] at accepted
    split at accepted
    · cases accepted
    · cases accepted
    · next info _ found =>
      obtain ⟨described, read, accepted⟩ := Outcome.bind_eq_ok.mp accepted
      obtain ⟨nodes, listed, accepted⟩ := Outcome.bind_eq_ok.mp accepted
      cases accepted
      exact ⟨info, found, read, Checked.reported_eq_ok.mp listed⟩
  · rintro ⟨info, found, read, listed⟩
    have given : info ≠ .null := by
      rintro rfl
      cases read
    simp only [ofValue, found]
    refine Outcome.bind_eq_ok.mpr ⟨_, read, ?_⟩
    exact Outcome.bind_eq_ok.mpr ⟨_, Checked.reported_eq_ok.mpr listed, rfl⟩

theorem ofValue_of_hides {info : Option Value} (spells : Spells .info style info envelope)
    (hides : style.hides = true) :
    ofValue (.object envelope) = .error (.pagination .noPageInfo) := by
  have found : either? "pageInfo" "page_info" envelope = some .null := either?_of_hides spells hides
  simp [ofValue, found]

/-- An envelope that is accepted is read as the same page in every other style, except that
null under the first key of a part hides the part: then no page is described, or the page
has no nodes. -/
theorem null_hides_second_spelling {bySecond bySecond' : Bool} {infoStyle nodesStyle : Style}
    {info nodes : Option Value} {respelled : Fields Value}
    (holds : Holds (.once bySecond) (.once bySecond') info nodes envelope)
    (accepted : ofValue (.object envelope) = .ok page)
    (again : Holds infoStyle nodesStyle info nodes respelled) :
    ofValue (.object respelled) =
      if infoStyle.hides then .error (.pagination .noPageInfo)
      else .ok { page with nodes := if nodesStyle.hides then [] else page.nodes } := by
  have shows (bySecond : Bool) : (Style.once bySecond).hides = false := by
    simp [Style.once, Style.hides]
  obtain ⟨found, present, read, listed⟩ := ofValue_eq_ok_iff.mp accepted
  cases hides : infoStyle.hides with
  | true => exact ofValue_of_hides again.info hides
  | false =>
      have given : info = some found := by
        rcases either?_of_shows holds.info (shows _) with same | ⟨rfl, null⟩
        · exact same.symm.trans present
        · cases null.symm.trans present
          cases read
      have kept : nodesOf nodes = .ok page.nodes := by
        rw [nodesOf_of_spells holds.nodes, shows] at listed
        exact listed
      refine ofValue_eq_ok_iff.mpr ⟨found, ?_, read, ?_⟩
      · rcases either?_of_shows again.info hides with same | ⟨absent, -⟩
        · exact same.trans given
        · cases absent.symm.trans given
      · rw [nodesOf_of_spells again.nodes, kept]
        split <;> rfl

/-- An envelope in its usual spelling, read as another one that hides its nodes behind null. -/
theorem nodes_hidden_behind_null :
    let info : Value :=
      .object [("__kind", .text "CursorPaginationInfo"), ("currentCursor", .text "c0")]
    let envelope : Fields Value := [("nodes", .list [.int 1]), ("pageInfo", info)]
    let respelled : Fields Value :=
      [("nodes", .null), ("data", .list [.int 1]), ("page_info", info)]
    Holds (.once false) (.once false) (some info) (some (.list [.int 1])) envelope ∧
      Holds (.once true) ⟨true, true⟩ (some info) (some (.list [.int 1])) respelled ∧
        ofValue (.object envelope) = .ok ⟨[.int 1], .cursor ⟨"c0", none⟩⟩ ∧
          ofValue (.object respelled) = .ok ⟨[], .cursor ⟨"c0", none⟩⟩ := by
  intro info envelope respelled
  have holds : Holds (.once false) (.once false) (some info) (some (.list [.int 1])) envelope :=
    ⟨⟨rfl, rfl⟩, ⟨rfl, rfl⟩⟩
  have again : Holds (.once true) ⟨true, true⟩ (some info) (some (.list [.int 1])) respelled :=
    ⟨⟨rfl, rfl⟩, ⟨rfl, rfl⟩⟩
  have accepted : ofValue (.object envelope) = .ok ⟨[.int 1], .cursor ⟨"c0", none⟩⟩ := rfl
  exact ⟨holds, again, accepted, null_hides_second_spelling holds accepted again⟩

/-- Null beside a key loses what stands under it: the nodes, or the page. -/
theorem null_spelling_not_passed_over :
    let info : Value :=
      .object [("__kind", .text "CursorPaginationInfo"), ("currentCursor", .text "c0")]
    let nodes : Value := .list [.int 1]
    let page : PageResponse := ⟨[.int 1], .cursor ⟨"c0", none⟩⟩
    ofValue (.object [("page_info", info), ("data", nodes)]) = .ok page ∧
      ofValue (.object [("page_info", info), ("data", nodes), ("nodes", .null)]) =
        .ok { page with nodes := [] } ∧
      ofValue (.object [("page_info", info), ("data", nodes), ("pageInfo", .null)]) =
        .error (.pagination .noPageInfo) :=
  ⟨rfl, rfl, rfl⟩

end PageResponse
end CatalogQuery
