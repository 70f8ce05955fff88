import Brokerage.Proofs.Selection
import Mathlib.Data.List.Perm.Basic

/-! # The order of a listing

Whatever the sort keys are, they compare all routers without contradiction, so sorting by them comes
out in one way only; with every direction turned they give the opposite order. Where the id is among
the keys no two routers of a backend compare equal. A listing by such keys does not show when its
routers were created, and it is reversed by turning every direction.
-/

namespace Brokerage
namespace Listing

variable {sorts : List SortKey} {routers sorted other : List Router} {q : Query}

/-- A comparison ranks all things, ties allowed, and never contradicts itself. -/
structure WeakOrder {α : Type} (cmp : α → α → Ordering) : Prop where
  reflexive : ∀ a, cmp a a = .eq
  dual : ∀ a b, cmp b a = (cmp a b).swap
  transitive : ∀ a b c, (cmp a b).isLE = true → (cmp b c).isLE = true → (cmp a c).isLE = true
  /-- Each of the three answers is transitive by itself. -/
  uniform : ∀ answer a b c, cmp a b = answer → cmp b c = answer → cmp a c = answer
  total : ∀ a b, (cmp a b).isLE = true ∨ (cmp b a).isLE = true

theorem compareAll_weakOrder (sorts : List SortKey) : WeakOrder (compareAll sorts) where
  reflexive _ := Std.ReflCmp.compare_self
  dual _ _ := Std.OrientedCmp.eq_swap
  transitive := isLE_trans sorts
  uniform answer a b c first second := by
    cases answer with
    | lt => exact Std.TransCmp.lt_trans first second
    | eq => exact Std.TransCmp.eq_trans first second
    | gt => exact Std.TransCmp.gt_trans first second
  total a b := by simpa using isLE_total sorts a b

/-! ## Sorting -/

/-- No router stands behind one that comes after it. -/
def InOrder (sorts : List SortKey) (routers : List Router) : Prop :=
  routers.Pairwise fun a b => (compareAll sorts a b).isLE = true

/-- The routers of a list that compare equal to one, as they stand there. -/
def peers (sorts : List SortKey) (r : Router) (routers : List Router) : List Router :=
  routers.filter (compareAll sorts r · = .eq)

/-- Sorting by some keys makes one list of the other: it brings the same routers in order and keeps
the order that equal ones had. -/
structure Sorts (sorts : List SortKey) (routers sorted : List Router) : Prop where
  perm : sorted.Perm routers
  ordered : InOrder sorts sorted
  stable : ∀ r, peers sorts r sorted = peers sorts r routers

theorem mem_peers {r a : Router} :
    a ∈ peers sorts r routers ↔ a ∈ routers ∧ compareAll sorts r a = .eq := by
  simp [peers]

theorem peers_inOrder (sorts : List SortKey) (r : Router) (routers : List Router) :
    InOrder sorts (peers sorts r routers) := by
  refine List.pairwise_of_forall_mem_list fun a ha b hb => ?_
  have tied : compareAll sorts a b = .eq :=
    Std.TransCmp.eq_trans (Std.OrientedCmp.eq_comm.1 (mem_peers.1 ha).2) (mem_peers.1 hb).2
  rw [tied]
  rfl

theorem sorts_mergeSort (sorts : List SortKey) (routers : List Router) :
    Sorts sorts routers (routers.mergeSort fun a b => (compareAll sorts a b).isLE) where
  perm := List.mergeSort_perm _ _
  ordered := List.pairwise_mergeSort (isLE_trans sorts) (isLE_total sorts) _
  stable r := by
    -- Peers are in order as they stand, and what is in order is found again in the sorted list.
    have found : (peers sorts r routers).Sublist
        (routers.mergeSort fun a b => (compareAll sorts a b).isLE) :=
      List.sublist_mergeSort (isLE_trans sorts) (isLE_total sorts) (peers_inOrder sorts r routers)
        List.filter_sublist
    have kept := found.filter (compareAll sorts r · = .eq)
    rw [peers, List.filter_filter] at kept
    simp only [Bool.and_self] at kept
    exact (kept.eq_of_length ((List.mergeSort_perm _ _).filter _).length_eq.symm).symm

theorem InOrder.head_isLE {a b : Router} {rest : List Router} (h : InOrder sorts (a :: rest))
    (member : b ∈ a :: rest) : (compareAll sorts a b).isLE = true := by
  rcases List.mem_cons.1 member with rfl | later
  · exact Std.ReflCmp.isLE_rfl
  · exact (List.pairwise_cons.1 h).1 b later

/-- Two lists of the same routers in order are one list if they have the same peers. -/
theorem InOrder.unique (h : InOrder sorts sorted) (h' : InOrder sorts other)
    (perm : sorted.Perm other) (level : ∀ r, peers sorts r sorted = peers sorts r other) :
    sorted = other := by
  induction sorted generalizing other with
  | nil => exact perm.nil_eq
  | cons a rest ih =>
      cases other with
      | nil => exact perm.eq_nil
      | cons b rest' =>
          have tied : compareAll sorts a b = .eq :=
            Std.OrientedCmp.isLE_antisymm (h.head_isLE (perm.mem_iff.2 List.mem_cons_self))
              (h'.head_isLE (perm.mem_iff.1 List.mem_cons_self))
          have self : compareAll sorts a a = .eq := Std.ReflCmp.compare_self
          -- Both heads are least, so each is the first of the same peers.
          obtain rfl : a = b := by
            have first := level a
            simp only [peers, List.filter_cons, tied, self, decide_true, if_true] at first
            exact (List.cons.inj first).1
          congr 1
          refine ih h.tail h'.tail perm.cons_inv fun r => ?_
          have same := level r
          simp only [peers, List.filter_cons] at same
          split at same
          · exact (List.cons.inj same).2
          · exact same

theorem Sorts.unique (h : Sorts sorts routers sorted) (h' : Sorts sorts routers other) :
    sorted = other :=
  h.ordered.unique h'.ordered (h.perm.trans h'.perm.symm) fun r =>
    (h.stable r).trans (h'.stable r).symm

theorem sorts_select (q : Query) (routers : List Router) :
    Sorts q.sorts (routers.filter (accepts q.filters)) (select q.plain routers) :=
  sorts_mergeSort q.sorts _

/-- Any way of sorting gives the listing. -/
theorem sorts_iff : Sorts q.sorts (routers.filter (accepts q.filters)) sorted ↔
    sorted = select q.plain routers := by
  constructor
  · intro h
    exact h.unique (sorts_select q routers)
  · rintro rfl
    exact sorts_select q routers

/-! ## Directions turned -/

def SortKey.turned (sort : SortKey) : SortKey := { sort with ascending := !sort.ascending }

def Query.turned (q : Query) : Query := { q with sorts := q.sorts.map (·.turned) }

theorem compareBy_turned (sort : SortKey) (a b : Router) :
    compareBy sort.turned a b = compareBy sort b a := by
  unfold compareBy SortKey.turned
  cases sort.ascending <;> rfl

theorem compareAll_turned (sorts : List SortKey) (a b : Router) :
    compareAll (sorts.map (·.turned)) a b = compareAll sorts b a := by
  induction sorts with
  | nil => rfl
  | cons sort rest ih => rw [List.map_cons, compareAll, compareBy_turned, ih, compareAll]

/-! ## The id among the keys -/

/-- One of the sort keys is the id. -/
def Query.ByIds (q : Query) : Prop := "id" ∈ q.sorts.map (·.key)

instance (q : Query) : Decidable q.ByIds := inferInstanceAs (Decidable (_ ∈ _))

theorem Query.ByIds.ids_eq {a b : Router} (h : q.ByIds) (tied : compareAll q.sorts a b = .eq) :
    a.id = b.id := by
  obtain ⟨sort, member, named⟩ := List.mem_map.1 h
  have same := compareAll_eq_eq.1 tied sort member
  rw [named] at same
  exact Option.some.inj same

/-- Routers under ids of their own are in order in one way only. -/
theorem Query.ByIds.inOrder_unique (byIds : q.ByIds) (distinct : (sorted.map (·.id)).Nodup)
    (h : InOrder q.sorts sorted) (h' : InOrder q.sorts other) (perm : sorted.Perm other) :
    sorted = other := by
  refine perm.eq_of_pairwise (fun a b ha hb one two => ?_) h h'
  have same : a.id = b.id := byIds.ids_eq (Std.OrientedCmp.isLE_antisymm one two)
  exact List.inj_on_of_nodup_map distinct ha (perm.mem_iff.2 hb) same

theorem select_plain_ids (distinct : (routers.map (·.id)).Nodup) (q : Query) :
    ((select q.plain routers).map (·.id)).Nodup := by
  rw [← page_plain]
  exact page_unpaged_nodup distinct q.plain

theorem select_plain_perm (byIds : q.ByIds) (distinct : (routers.map (·.id)).Nodup)
    (perm : routers.Perm other) : select q.plain routers = select q.plain other := by
  have one := sorts_select q routers
  have two := sorts_select q other
  exact byIds.inOrder_unique (select_plain_ids distinct q) one.ordered two.ordered
    (one.perm.trans ((perm.filter _).trans two.perm.symm))

theorem InOrder.reverse (h : InOrder (sorts.map (·.turned)) routers) :
    InOrder sorts routers.reverse := by
  refine List.pairwise_reverse.2 (h.imp fun forward => ?_)
  rwa [compareAll_turned] at forward

theorem select_plain_turned (byIds : q.ByIds) (distinct : (routers.map (·.id)).Nodup) :
    select q.turned.plain routers = (select q.plain routers).reverse := by
  have one := sorts_select q routers
  have two := sorts_select q.turned routers
  have same : select q.plain routers = (select q.turned.plain routers).reverse :=
    byIds.inOrder_unique (select_plain_ids distinct q) one.ordered two.ordered.reverse
      (one.perm.trans (two.perm.symm.trans (List.reverse_perm _).symm))
  rw [same, List.reverse_reverse]

theorem select_eq (q : Query) (routers : List Router) : select q routers =
    if q.pageReverse then (select q.plain routers).reverse else select q.plain routers := rfl

theorem page_congr {q q' : Query} (selected : select q routers = select q' other)
    (marker : q.marker = q'.marker) (limit : q.limit = q'.limit) (fields : q.fields = q'.fields) :
    page q routers = page q' other := by
  simp only [page, selected, marker, limit, fields]

/-- How the sort keys of a query rank routers, and what that makes of its listings. -/
structure Query.Ranks (q : Query) : Prop where
  order : WeakOrder (compareAll q.sorts)
  /-- Turning all directions gives the opposite order. -/
  turned : ∀ a b, compareAll q.turned.sorts a b = (compareAll q.sorts a b).swap
  /-- Whatever way of sorting is taken, its result is the listing. -/
  sorted : ∀ (b : Backend) listed,
    Sorts q.sorts (b.routers.filter (accepts q.filters)) listed ↔ listed = b.list q.plain
  apart : q.ByIds → ∀ a b, a.id ≠ b.id → compareAll q.sorts a b ≠ .eq
  /-- Backends with the same routers list them alike, in whatever order they got them. -/
  ageless : q.ByIds → ∀ b b' : Backend, b.Keyed → b'.Keyed →
    (∀ r, r ∈ b.routers ↔ r ∈ b'.routers) → b.list q = b'.list q
  /-- A reversed listing is the one with all directions turned. -/
  reversed : q.ByIds → ∀ b : Backend, b.Keyed →
    b.list { q with pageReverse := !q.pageReverse } = b.list q.turned

end Listing

namespace Backend

open Listing (Query)

variable {b b' : Backend} {q : Query}

theorem list_ageless (byIds : q.ByIds) (keyed : b.Keyed) (keyed' : b'.Keyed)
    (same : ∀ r, r ∈ b.routers ↔ r ∈ b'.routers) : b.list q = b'.list q := by
  have perm : b.routers.Perm b'.routers :=
    (List.perm_ext_iff_of_nodup keyed.of_map keyed'.of_map).2 same
  refine Listing.page_congr ?_ rfl rfl rfl
  rw [Listing.select_eq q b.routers, Listing.select_eq q b'.routers,
    Listing.select_plain_perm byIds keyed perm]

theorem list_turned (byIds : q.ByIds) (keyed : b.Keyed) :
    b.list { q with pageReverse := !q.pageReverse } = b.list q.turned := by
  have same : Listing.select q.turned.plain b.routers = (Listing.select q.plain b.routers).reverse :=
    Listing.select_plain_turned byIds keyed
  refine Listing.page_congr ?_ rfl rfl rfl
  have plain : { q with pageReverse := !q.pageReverse }.plain = q.plain := rfl
  have kept : q.turned.pageReverse = q.pageReverse := rfl
  rw [Listing.select_eq q.turned, same, kept, Listing.select_eq, plain]
  cases q.pageReverse <;> simp

/-- Sort keys rank all routers, whichever keys they are and in whichever directions. With the id
among them they fix the whole listing, and turning all directions reverses it. -/
theorem sort_keys_rank (q : Query) : q.Ranks where
  order := Listing.compareAll_weakOrder q.sorts
  turned a b := (Listing.compareAll_turned q.sorts a b).trans Std.OrientedCmp.eq_swap
  sorted b listed := by
    rw [list, Listing.page_plain]
    exact Listing.sorts_iff
  apart byIds a b differ tied := differ (byIds.ids_eq tied)
  ageless byIds b b' := list_ageless byIds
  reversed byIds b := list_turned byIds

/-- Routers with and without a tag, which two backends got in different order. -/
theorem shuffled_listed_alike :
    let plain : Router := ⟨"m", none, ∅, ∅⟩
    let text : Router := ⟨"k", some "core", ∅, .ofList [("tag", .string "7")]⟩
    let number : Router := ⟨"p", none, ∅, .ofList [("tag", .ofNat 7)]⟩
    let b := [plain, text, number].foldl insert (.new "east")
    let b' := [number, plain, text].foldl insert (.new "west")
    let q : Query :=
      { Query.all with sorts := [⟨"tag", false⟩, ⟨"id", true⟩, ⟨"tag", true⟩], limit := some 2 }
    q.ByIds ∧ b.Keyed ∧ b'.Keyed ∧ (∀ r, r ∈ b.routers ↔ r ∈ b'.routers) ∧
      b.routers ≠ b'.routers ∧ b.list q = b'.list q ∧
      b.list { q with pageReverse := true } = b.list q.turned := by
  intro plain text number b b' q
  have byIds : q.ByIds := by decide
  have keyed : b.Keyed := by decide +kernel
  have keyed' : b'.Keyed := by decide +kernel
  have perm : b.routers.Perm b'.routers := by decide +kernel
  have same : ∀ r, r ∈ b.routers ↔ r ∈ b'.routers := fun _ => perm.mem_iff
  have ranks := sort_keys_rank q
  exact ⟨byIds, keyed, keyed', same, by decide +kernel, ranks.ageless byIds b b' keyed keyed' same,
    ranks.reversed byIds b keyed⟩

end Backend
end Brokerage
