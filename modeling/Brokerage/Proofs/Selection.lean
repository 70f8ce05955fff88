import Brokerage.Proofs.Dict
import Brokerage.Proofs.Paging

/-! # What a listing holds

A listing holds the routers that every filter accepts. The sort keys order them one after the other;
routers that no sort key tells apart stay in the order of their creation. Reversal, marker, limit
and fields then work on the ordered routers.
-/

namespace Brokerage

namespace Router

/-- The texts that a router shows under the keys of filters and sort keys: its id, its name if it
has one, and its attributes, strings as they are and other values as JSON. -/
inductive Shows (r : Router) : String → String → Prop where
  | id : Shows r "id" r.id
  | name {name : String} (named : r.name = some name) : Shows r "name" name
  | text {key text : String} (free : key ≠ "id" ∧ key ≠ "name")
    (held : r.attributes.get? key = some (.string text)) : Shows r key text
  | value {key : String} {v : Json} (free : key ≠ "id" ∧ key ≠ "name")
    (held : r.attributes.get? key = some v) (other : ∀ text, v ≠ .string text) : Shows r key v.text

theorem project_project (r : Router) (fields others : List String) :
    (r.project (some fields)).project (some others) = r.project (some (fields ∩ others)) := by
  have both (key : String) :
      (fields ∩ others).contains key = (others.contains key && fields.contains key) := by
    rw [Bool.eq_iff_iff]
    simp [and_comm]
  have attributes : (r.attributes.restrict fields.contains).restrict others.contains =
      r.attributes.restrict (fields ∩ others).contains := by
    apply Dict.ext_get?
    intro key
    rw [Dict.get?_restrict, Dict.get?_restrict, Dict.get?_restrict, both]
    cases others.contains key <;> rfl
  simp only [project, attributes, both]
  cases others.contains "name" <;> cases others.contains "metadata" <;> rfl

end Router

namespace Listing

variable {r a b : Router} {sort : SortKey} {sorts : List SortKey} {key text : String}

theorem attributeText_other {v : Json} (other : ∀ text, v ≠ .string text) :
    attributeText v = v.text := by
  cases v with
  | string text => exact absurd rfl (other text)
  | null | bool | number | array | object => rfl

theorem textOf_eq_some : textOf r key = some text ↔ r.Shows key text := by
  unfold textOf Router.attribute?
  constructor
  · intro shown
    split at shown
    · rename_i same
      cases same
      cases shown
      exact .id
    · split at shown
      · rename_i same
        cases same
        obtain ⟨_, mapped, rfl⟩ := Option.map_eq_some_iff.1 shown
        obtain ⟨name, named, rfl⟩ := Option.map_eq_some_iff.1 mapped
        exact .name named
      · rename_i notId notName
        obtain ⟨v, held, rfl⟩ := Option.map_eq_some_iff.1 shown
        by_cases isText : ∃ text, v = .string text
        · obtain ⟨text, rfl⟩ := isText
          exact .text ⟨notId, notName⟩ held
        · have other : ∀ text, v ≠ .string text := not_exists.1 isText
          rw [attributeText_other other]
          exact .value ⟨notId, notName⟩ held other
  · intro shows
    cases shows with
    | id => rfl
    | name named => simp [named, attributeText]
    | text free held => simp [free, held, attributeText]
    | value free held other => simp [free, held, attributeText_other other]

/-- A router shows a text that is accepted under the key of every filter. -/
def Wanted (filters : Dict (List String)) (r : Router) : Prop :=
  ∀ key accepted, filters.get? key = some accepted → ∃ text ∈ accepted, r.Shows key text

theorem accepts_iff {filters : Dict (List String)} :
    accepts filters r = true ↔ Wanted filters r := by
  unfold accepts Wanted
  rw [List.all_eq_true, Prod.forall]
  refine forall₂_congr fun key accepted => ?_
  rw [Dict.mem_entries]
  refine imp_congr_right fun _ => ?_
  dsimp only
  cases shown : textOf r key with
  | none =>
      rw [Bool.false_eq_true, false_iff]
      rintro ⟨text, _, shows⟩
      cases shown.symm.trans (textOf_eq_some.2 shows)
  | some text =>
      rw [List.contains_iff_mem]
      constructor
      · exact fun member => ⟨text, member, textOf_eq_some.1 shown⟩
      · rintro ⟨other, member, shows⟩
        cases shown.symm.trans (textOf_eq_some.2 shows)
        exact member

/-! ## Order -/

theorem compareText_eq : compareText = compare := by
  funext a b
  cases a <;> cases b <;> rfl

theorem compareText_eq_lt {a b : Option String} : compareText a b = .lt ↔ a < b := by
  cases a with
  | none => cases b <;> simp [compareText]
  | some a =>
      cases b with
      | none => simp [compareText]
      | some b =>
          rw [Option.some_lt_some]
          exact compareOfLessAndEq_eq_lt

theorem compareText_eq_eq {a b : Option String} : compareText a b = .eq ↔ a = b := by
  rw [compareText_eq]
  exact Std.LawfulEqOrd.compare_eq_iff_eq

/-- A sort key puts one router before another: by their texts, with a missing one first, or the
other way round. -/
def Before (sort : SortKey) (a b : Router) : Prop :=
  if sort.ascending then textOf a sort.key < textOf b sort.key
  else textOf b sort.key < textOf a sort.key

/-- The first sort key that tells two routers apart puts the one before the other. -/
inductive Precedes : List SortKey → Router → Router → Prop where
  | here {sort : SortKey} {rest : List SortKey} {a b : Router} (before : Before sort a b) :
    Precedes (sort :: rest) a b
  | later {sort : SortKey} {rest : List SortKey} {a b : Router}
    (tied : textOf a sort.key = textOf b sort.key) (later : Precedes rest a b) :
    Precedes (sort :: rest) a b

/-- No sort key tells two routers apart. -/
def Tied (sorts : List SortKey) (a b : Router) : Prop :=
  ∀ sort ∈ sorts, textOf a sort.key = textOf b sort.key

theorem compareBy_eq_lt : compareBy sort a b = .lt ↔ Before sort a b := by
  unfold compareBy Before
  split <;> exact compareText_eq_lt

theorem compareBy_eq_eq :
    compareBy sort a b = .eq ↔ textOf a sort.key = textOf b sort.key := by
  unfold compareBy
  split
  · exact compareText_eq_eq
  · rw [compareText_eq_eq]
    exact eq_comm

theorem compareAll_eq_lt : compareAll sorts a b = .lt ↔ Precedes sorts a b := by
  induction sorts with
  | nil => exact ⟨nofun, nofun⟩
  | cons sort rest ih =>
      rw [compareAll, Ordering.then_eq_lt, compareBy_eq_lt, compareBy_eq_eq, ih]
      constructor
      · rintro (before | ⟨tied, later⟩)
        · exact .here before
        · exact .later tied later
      · rintro (before | ⟨tied, later⟩)
        · exact .inl before
        · exact .inr ⟨tied, later⟩

theorem compareAll_eq_eq : compareAll sorts a b = .eq ↔ Tied sorts a b := by
  induction sorts with
  | nil => simp [compareAll, Tied]
  | cons sort rest ih =>
      rw [compareAll, Ordering.then_eq_eq, compareBy_eq_eq, ih]
      simp [Tied]

instance (sort : SortKey) : Std.TransCmp (compareBy sort) := by
  have rising : Std.TransCmp (compareOn (textOf · sort.key)) := inferInstance
  cases direction : sort.ascending with
  | true =>
      have same : compareBy sort = compareOn (textOf · sort.key) := by
        funext a b
        simp [compareBy, direction, compareText_eq, compareOn]
      rwa [same]
  | false =>
      have opposite : compareBy sort = fun a b => compareOn (textOf · sort.key) b a := by
        funext a b
        simp [compareBy, direction, compareText_eq, compareOn]
      rw [opposite]
      infer_instance

instance (sorts : List SortKey) : Std.TransCmp (compareAll sorts) := by
  induction sorts with
  | nil => exact { eq_swap := rfl, isLE_trans := fun _ _ => rfl }
  | cons sort rest ih => exact inferInstanceAs (Std.TransCmp (compareLex _ (compareAll rest)))

/-! ## The routers of a listing -/

variable {routers : List Router} {q : Query}

theorem mem_select : r ∈ select q routers ↔ r ∈ routers ∧ Wanted q.filters r := by
  rw [(select_perm q routers).mem_iff, List.mem_filter, accepts_iff]

theorem isLE_trans (sorts : List SortKey) (a b c : Router) (h : (compareAll sorts a b).isLE = true)
    (h' : (compareAll sorts b c).isLE = true) : (compareAll sorts a c).isLE = true :=
  Std.TransCmp.isLE_trans h h'

theorem isLE_total (sorts : List SortKey) (a b : Router) :
    ((compareAll sorts a b).isLE || (compareAll sorts b a).isLE) = true := by
  have swapped : compareAll sorts b a = (compareAll sorts a b).swap := Std.OrientedCmp.eq_swap
  rw [swapped]
  cases compareAll sorts a b <;> rfl

theorem not_precedes (h : (compareAll sorts a b).isLE = true) : ¬ Precedes sorts b a := by
  intro precedes
  have less := compareAll_eq_lt.2 precedes
  exact Std.OrientedCmp.not_isLE_of_lt less h

/-- No router stands behind one that it precedes. -/
theorem select_ordered (forward : q.pageReverse = false) :
    (select q routers).Pairwise fun a b => ¬ Precedes q.sorts b a := by
  simp only [select, forward]
  exact (List.pairwise_mergeSort (isLE_trans q.sorts) (isLE_total q.sorts) _).imp not_precedes

/-- Of two routers that no sort key tells apart the older one stays first. -/
theorem select_stable (forward : q.pageReverse = false) (older : [a, b].Sublist routers)
    (one : Wanted q.filters a) (other : Wanted q.filters b) (tied : Tied q.sorts a b) :
    [a, b].Sublist (select q routers) := by
  have kept : [a, b].Sublist (routers.filter (accepts q.filters)) := by
    simpa [accepts_iff.2 one, accepts_iff.2 other] using older.filter (accepts q.filters)
  have level : (compareAll q.sorts a b).isLE = true := by rw [compareAll_eq_eq.2 tied]; rfl
  simp only [select, forward]
  exact List.pair_sublist_mergeSort (isLE_trans q.sorts) (isLE_total q.sorts) level kept

/-- The query for all routers, whole and in the order of the sort keys. -/
def Query.plain (q : Query) : Query := { q.unpaged with fields := none, pageReverse := false }

theorem page_plain (q : Query) (routers : List Router) :
    page q.plain routers = select q.plain routers := List.map_id _

end Listing

namespace Backend

open Listing (Query Wanted Precedes Tied)

variable {b : Backend}

/-- What a backend answers to a query without limit and marker, and what these, the fields and the
reversal do to it. -/
structure Lists (b : Backend) (q : Query) : Prop where
  /-- No router is listed twice. -/
  distinct : ((b.list q.unpaged).map (·.id)).Nodup
  /-- The routers that every filter accepts are listed. -/
  selected : ∀ id, id ∈ (b.list q.unpaged).map (·.id) ↔
    ∃ r ∈ b.routers, r.id = id ∧ Wanted q.filters r
  /-- No router stands behind one that the sort keys put after it. -/
  ordered : (b.list q.plain).Pairwise fun r s => ¬ Precedes q.sorts s r
  /-- Routers that no sort key tells apart stand in the order of their creation. -/
  stable : ∀ r s, [r, s].Sublist b.routers → Wanted q.filters r → Wanted q.filters s →
    Tied q.sorts r s → [r, s].Sublist (b.list q.plain)
  reversed : b.list { q.unpaged with pageReverse := true } =
    (b.list { q.unpaged with pageReverse := false }).reverse
  /-- The listing goes on behind the router of the marker. -/
  continued : ∀ before r after, b.list q.unpaged = before ++ r :: after →
    b.list { q.unpaged with marker := some r.id } = after
  /-- A marker that is not listed changes nothing. -/
  restarted : ∀ marker, marker ∉ (b.list q.unpaged).map (·.id) →
    b.list { q.unpaged with marker := some marker } = b.list q.unpaged
  limited : ∀ marker n, b.list { q.unpaged with marker, limit := some n } =
    (b.list { q.unpaged with marker }).take n
  /-- The fields are taken of each router of the listing for itself. -/
  projected : ∀ marker limit, b.list { q.unpaged with marker, limit } =
    (b.list { q.unpaged with marker, limit, fields := none }).map (·.project q.fields)

theorem list_marked (b : Backend) (q : Query) (marker : Option String) :
    b.list { q.unpaged with marker } = Listing.afterMarker marker (b.list q.unpaged) :=
  (Listing.afterMarker_map marker q.fields _).symm

/-- A backend lists the routers that the filters accept, each once, ordered by the sort keys one
after the other and then by age. Fields that are taken twice are those of both lists. -/
theorem listing_exact (keyed : b.Keyed) (q : Query) :
    b.Lists q ∧ ∀ (r : Router) (fields others : List String),
      (r.project (some fields)).project (some others) = r.project (some (fields ∩ others)) := by
  refine ⟨?_, Router.project_project⟩
  have distinct : ((b.list q.unpaged).map (·.id)).Nodup := Listing.page_unpaged_nodup keyed q
  constructor
  case distinct => exact distinct
  case selected =>
    intro id
    refine (Listing.page_unpaged_ids q b.routers).mem_iff.trans ?_
    rw [List.mem_map]
    constructor
    · rintro ⟨r, kept, same⟩
      obtain ⟨held, accepted⟩ := List.mem_filter.1 kept
      exact ⟨r, held, same, Listing.accepts_iff.1 accepted⟩
    · rintro ⟨r, held, same, wanted⟩
      exact ⟨r, List.mem_filter.2 ⟨held, Listing.accepts_iff.2 wanted⟩, same⟩
  case ordered =>
    rw [list, Listing.page_plain]
    exact Listing.select_ordered (q := q.plain) rfl
  case stable =>
    intro r s older one other tied
    rw [list, Listing.page_plain]
    exact Listing.select_stable (q := q.plain) rfl older one other tied
  case reversed => exact List.map_reverse
  case continued =>
    intro before r after split
    rw [split] at distinct
    rw [list_marked, split, Listing.afterMarker_append distinct]
  case restarted =>
    intro marker missing
    rw [list_marked, Listing.afterMarker_missing]
    intro r member same
    exact missing (List.mem_map.2 ⟨r, member, (Option.some.inj same).symm⟩)
  case limited =>
    intro marker n
    rw [list_marked]
    exact Listing.page_paged q n marker b.routers
  case projected =>
    intro marker limit
    have whole : b.list { q.unpaged with marker, limit, fields := none } = Listing.upToLimit limit
        (Listing.afterMarker marker (Listing.select q.unpaged b.routers)) := List.map_id _
    rw [whole]
    rfl

/-- Two routers with a text and a number for one attribute, and one without it. -/
def tagged : Backend × IdSupply :=
  after (.new "edge", ⟨0⟩)
    [.create ⟨none, ∅, .ofList [("tag", .string "b")]⟩, .create .empty,
      .create ⟨none, ∅, .ofList [("tag", .ofNat 7)]⟩]

theorem tagged_by_number :
    let q : Query :=
      { Query.all with filters := .ofList [("tag", ["7"])], sorts := [⟨"tag", false⟩] }
    tagged.1.Keyed ∧ tagged.1.Lists q ∧
      (tagged.1.list q.unpaged).map (·.id) = [IdSupply.name 2] := by
  intro q
  have keyed : tagged.1.Keyed := Keyed.after (keyed_new "edge") _
  have kept : (tagged.1.routers.filter (Listing.accepts q.filters)).map (·.id) =
      [IdSupply.name 2] := by decide +kernel
  refine ⟨keyed, (listing_exact keyed q).1, ?_⟩
  exact List.perm_singleton.1 (kept ▸ Listing.page_unpaged_ids q tagged.1.routers)

end Backend
end Brokerage
