import Brokerage.Proofs.Backend
import Mathlib.Data.List.Nodup

/-! # Reading a listing page by page

Whoever reads a listing asks for at most so many routers after the last one of the page before, until
a page has fewer. A backend cuts its pages out of one list whose ids do not repeat, so the pages put
together are that list, and their number is known beforehand.
-/

namespace Brokerage

theorem Router.project_id (r : Router) (fields : Option (List String)) :
    (r.project fields).id = r.id := by
  cases fields <;> rfl

namespace Listing

variable {routers before after : List Router} {r : Router} {marker : Option String} {n : Nat}

def Query.unpaged (q : Query) : Query := { q with limit := none, marker := none }

def Query.paged (q : Query) (n : Nat) (marker : Option String) : Query :=
  { q with limit := some n, marker }

/-! ## Cutting a list -/

theorem afterMarker_missing (missing : ∀ r ∈ routers, marker ≠ some r.id) :
    afterMarker marker routers = routers := by
  cases marker with
  | none => rfl
  | some id =>
      have nowhere : routers.findIdx? (·.id = id) = none := by
        simp only [List.findIdx?_eq_none_iff, decide_eq_false_iff_not]
        intro r member same
        exact missing r member (by rw [same])
      simp [afterMarker, nowhere]

theorem afterMarker_append (distinct : ((before ++ r :: after).map (·.id)).Nodup) :
    afterMarker (some r.id) (before ++ r :: after) = after := by
  have earlier : ∀ x ∈ before, x.id ≠ r.id := by
    intro x member same
    simp only [List.map_append, List.map_cons, List.nodup_append] at distinct
    exact distinct.2.2 x.id (List.mem_map_of_mem member) r.id List.mem_cons_self same
  have found : (before ++ r :: after).findIdx? (·.id = r.id) = some before.length := by
    have nowhere : before.findIdx? (·.id = r.id) = none := by
      simpa [List.findIdx?_eq_none_iff] using earlier
    simp [List.findIdx?_append, nowhere, List.findIdx?_cons]
  simp [afterMarker, found]

theorem afterMarker_suffix (marker : Option String) (routers : List Router) :
    afterMarker marker routers <:+ routers := by
  unfold afterMarker
  split
  · exact List.suffix_rfl
  · split
    · exact List.drop_suffix _ _
    · exact List.suffix_rfl

theorem afterMarker_map (marker : Option String) (fields : Option (List String))
    (routers : List Router) :
    afterMarker marker (routers.map (·.project fields)) =
      (afterMarker marker routers).map (·.project fields) := by
  cases marker with
  | none => rfl
  | some id =>
      simp only [afterMarker, List.findIdx?_map, Function.comp_def, Router.project_id]
      split <;> simp [List.map_drop]

theorem page_unpaged (q : Query) (routers : List Router) :
    page q.unpaged routers = (select q.unpaged routers).map (·.project q.fields) := rfl

/-- A page is cut out of the listing without limit and marker. -/
theorem page_paged (q : Query) (n : Nat) (marker : Option String) (routers : List Router) :
    page (q.paged n marker) routers = (afterMarker marker (page q.unpaged routers)).take n := by
  have same : select (q.paged n marker) routers = select q.unpaged routers := rfl
  rw [page_unpaged, afterMarker_map, ← List.map_take, ← same]
  rfl

theorem select_unsorted (q : Query) (routers : List Router) (unfiltered : q.filters = ∅)
    (unsorted : q.sorts = []) :
    select q routers = if q.pageReverse then routers.reverse else routers := by
  have accepted : routers.filter (accepts q.filters) = routers := by
    rw [unfiltered]
    exact List.filter_eq_self.2 fun _ _ => rfl
  have sorted : (routers.filter (accepts q.filters)).mergeSort
      (fun a b => (compareAll q.sorts a b).isLE) = routers := by
    rw [accepted, unsorted]
    exact List.mergeSort_of_pairwise (List.pairwise_of_forall fun _ _ => rfl)
  simp only [select, sorted]

theorem select_perm (q : Query) (routers : List Router) :
    (select q routers).Perm (routers.filter (accepts q.filters)) := by
  unfold select
  split
  · exact (List.reverse_perm _).trans (List.mergeSort_perm _ _)
  · exact List.mergeSort_perm _ _

/-- The ids on a listing are ids of the routers that it was made of. -/
theorem page_unpaged_ids (q : Query) (routers : List Router) :
    ((page q.unpaged routers).map (·.id)).Perm
      ((routers.filter (accepts q.filters)).map (·.id)) := by
  have ids : ((·.id) ∘ (·.project q.fields) : Router → String) = (·.id) := by
    funext r
    exact r.project_id q.fields
  rw [page_unpaged, List.map_map, ids]
  exact (select_perm _ _).map _

theorem page_unpaged_nodup (distinct : (routers.map (·.id)).Nodup) (q : Query) :
    ((page q.unpaged routers).map (·.id)).Nodup :=
  (page_unpaged_ids q routers).nodup_iff.2 (distinct.sublist (List.filter_sublist.map _))

theorem mem_page_unpaged {q : Query} (member : r ∈ page q.unpaged routers) :
    r.id ∈ routers.map (·.id) := by
  have listed := (page_unpaged_ids q routers).mem_iff.1 (List.mem_map_of_mem member)
  exact (List.filter_sublist.map _).subset listed

/-! ## Page after page -/

/-- The pages that are answered when one after the other is asked for, each after the last router of
the page before, to the first one of fewer than `n` routers; and the state that this ends in. -/
inductive Reads {σ ε : Type} (ask : Option String → σ → Except ε (List Router) × σ) (n : Nat) :
    Option String → σ → List (List Router) → σ → Prop where
  | last {marker : Option String} {s t : σ} {page : List Router}
    (answer : ask marker s = (.ok page, t)) (short : page.length < n) :
    Reads ask n marker s [page] t
  | next {marker : Option String} {s t u : σ} {page : List Router} {r : Router}
    {pages : List (List Router)} (answer : ask marker s = (.ok page, t)) (full : n ≤ page.length)
    (last : page.getLast? = some r) (rest : Reads ask n (some r.id) t pages u) :
    Reads ask n marker s (page :: pages) u

section

variable {σ ε : Type} {ask : Option String → σ → Except ε (List Router) × σ} {good : σ → Prop}
  {all : List Router}

/-- Whoever answers out of one list is read to the end of it. -/
theorem reads_rest (distinct : (all.map (·.id)).Nodup) (pos : 0 < n)
    (answers : ∀ marker s, good s → ∃ t, ask marker s = (.ok ((afterMarker marker all).take n), t) ∧
      good t)
    (before rest : List Router) (split : all = before ++ rest) (marker : Option String)
    (here : afterMarker marker all = rest) (s : σ) (start : good s) :
    ∃ pages t, Reads ask n marker s pages t ∧ good t ∧ pages.length = rest.length / n + 1 ∧
      pages.flatten = rest := by
  obtain ⟨t, answer, held⟩ := answers marker s start
  rw [here] at answer
  -- A page that is full leaves less than there was; the first one that is not ends the reading.
  by_cases short : rest.length < n
  · have whole : rest.take n = rest := List.take_of_length_le (Nat.le_of_lt short)
    rw [whole] at answer
    refine ⟨[rest], t, .last answer short, held, ?_, by simp⟩
    simp [Nat.div_eq_of_lt short]
  · have full : (rest.take n).length = n := by
      rw [List.length_take]
      omega
    have there : rest.take n ≠ [] := List.ne_nil_of_length_pos (by omega)
    obtain ⟨front, r, page⟩ : ∃ front r, rest.take n = front ++ [r] :=
      ⟨_, _, (List.dropLast_append_getLast there).symm⟩
    have cut : all = (before ++ front) ++ r :: rest.drop n := by
      calc
        all = before ++ (rest.take n ++ rest.drop n) := by rw [split, List.take_append_drop]
        _ = (before ++ front) ++ r :: rest.drop n := by rw [page]; simp
    -- No other router has the id of the marker, so it is found where this page ends.
    have next : afterMarker (some r.id) all = rest.drop n := by
      rw [cut] at distinct ⊢
      exact afterMarker_append distinct
    have shorter : (rest.drop n).length < rest.length := by
      rw [List.length_drop]
      omega
    obtain ⟨pages, u, reads, held, count, later⟩ :=
      reads_rest distinct pos answers (before ++ rest.take n) (rest.drop n)
        (by rw [List.append_assoc, List.take_append_drop, split]) (some r.id) next t held
    refine ⟨rest.take n :: pages, u, .next answer (Nat.le_of_eq full.symm) (by simp [page]) reads,
      held, ?_, ?_⟩
    · rw [List.length_cons, count, List.length_drop,
        Nat.div_eq_sub_div pos (Nat.le_of_not_lt short)]
    · rw [List.flatten_cons, later, List.take_append_drop]
termination_by rest.length

theorem reads_all (distinct : (all.map (·.id)).Nodup) (pos : 0 < n)
    (answers : ∀ marker s, good s → ∃ t, ask marker s = (.ok ((afterMarker marker all).take n), t) ∧
      good t)
    (s : σ) (start : good s) :
    ∃ pages t, Reads ask n none s pages t ∧ good t ∧ pages.length = all.length / n + 1 ∧
      pages.flatten = all :=
  reads_rest distinct pos answers [] all rfl none rfl s start

end

end Listing

namespace Backend

open Listing (Query Reads)

variable {b : Backend} {ids : IdSupply}

/-- The routers are held under their ids, no two under one. -/
def Keyed (b : Backend) : Prop := (b.routers.map (·.id)).Nodup

instance (b : Backend) : Decidable b.Keyed := inferInstanceAs (Decidable (List.Nodup _))

theorem keyed_new (name : String) : (new name).Keyed := .nil

/-- A router that takes the place of those with its id leaves the ids as they are. -/
theorem ids_replaced (routers : List Router) {r : Router} {id : String} (same : r.id = id) :
    (routers.map fun x => if x.id = id then r else x).map (·.id) = routers.map (·.id) := by
  rw [List.map_map]
  apply List.map_congr_left
  intro x _
  simp only [Function.comp_apply]
  split
  · rename_i hit
    exact same.trans hit.symm
  · rfl

theorem Keyed.insert (h : b.Keyed) (r : Router) : (b.insert r).Keyed := by
  by_cases known : (b.find? r.id).isSome
  · have replaced : (b.insert r).routers = b.routers.map fun x => if x.id = r.id then r else x := by
      simp only [Backend.insert, known, if_true, routers, List.map_map]
      apply List.map_congr_left
      intro e _
      simp only [Function.comp_apply]
      split <;> rfl
    rwa [Keyed, replaced, ids_replaced _ rfl]
  · have new : ∀ other ∈ b.routers, other.id ≠ r.id := find?_none.1 (by simpa using known)
    rw [Keyed, insert_routers new, List.map_append, List.nodup_append]
    refine ⟨h, by simp, ?_⟩
    simpa using new

theorem Keyed.answer (h : b.Keyed) (ids : IdSupply) (call : Call) : (b.answer ids call).2.1.Keyed := by
  cases call with
  | create request => exact h.insert _
  | update id request =>
      rcases b.answer_update ids id request with ⟨old, _, same, b', answer, routers⟩ | ⟨_, answer⟩
      · have kept : (old.update request).id = id := same
        rwa [answer, Keyed, routers, ids_replaced _ kept]
      · rwa [answer]
  | delete id =>
      rcases b.answer_delete ids id with ⟨_, _, _, b', answer, _, routers⟩ | ⟨_, answer⟩
      · rw [answer, Keyed, routers]
        exact h.sublist (List.filter_sublist.map _)
      · rwa [answer]
  | get | list | addInterface | removeInterface | invoke =>
      rwa [Keyed, answer_gentle rfl]

def after (s : Backend × IdSupply) (calls : List Call) : Backend × IdSupply :=
  calls.foldl (fun s call => (s.1.answer s.2 call).2) s

theorem Keyed.after {s : Backend × IdSupply} (h : s.1.Keyed) (calls : List Call) :
    (after s calls).1.Keyed := by
  induction calls generalizing s with
  | nil => exact h
  | cons call rest ih => exact ih (h.answer s.2 call)

def askPage (q : Query) (n : Nat) (marker : Option String) (s : Backend × IdSupply) :
    Except Error (List Router) × Backend × IdSupply :=
  s.1.answer s.2 (.list (q.paged n marker))

/-- Read page by page, a backend answers all routers of the query in their order, on as many full
pages as they fill and one with the rest, which may be empty. -/
theorem pages_complete (keyed : b.Keyed) (ids : IdSupply) (q : Query) {n : Nat} (pos : 0 < n) :
    ∃ pages, Reads (askPage q n) n none (b, ids) pages (b, ids) ∧
      pages.length = (b.list q.unpaged).length / n + 1 ∧ pages.flatten = b.list q.unpaged := by
  have distinct : ((b.list q.unpaged).map (·.id)).Nodup := Listing.page_unpaged_nodup keyed q
  have answers (marker : Option String) (s : Backend × IdSupply) (same : s = (b, ids)) :
      ∃ t, askPage q n marker s =
        (.ok ((Listing.afterMarker marker (b.list q.unpaged)).take n), t) ∧ t = (b, ids) := by
    subst same
    have page : b.list (q.paged n marker) = _ := Listing.page_paged q n marker b.routers
    exact ⟨_, congrArg (fun routers => (Except.ok routers, b, ids)) page, rfl⟩
  obtain ⟨pages, _, reads, rfl, counted⟩ := Listing.reads_all distinct pos answers (b, ids) rfl
  exact ⟨pages, reads, counted⟩

/-- Three routers, read two at a time from the newest to the oldest. -/
theorem three_routers_in_two_pages :
    let s := after (.new "edge", ⟨0⟩) (List.replicate 3 (.create .empty))
    let q : Query := { Query.all with pageReverse := true }
    s.1.Keyed ∧ 0 < 2 ∧ ∃ pages, Reads (askPage q 2) 2 none s pages s ∧ pages.length = 2 ∧
      pages.flatten.map (·.id) = [2, 1, 0].map IdSupply.name := by
  intro s q
  have keyed : s.1.Keyed := Keyed.after (keyed_new "edge") _
  obtain ⟨pages, reads, count, all⟩ := pages_complete keyed s.2 q (Nat.succ_pos 1)
  have selected : Listing.select q.unpaged s.1.routers = s.1.routers.reverse :=
    Listing.select_unsorted q.unpaged s.1.routers rfl rfl
  have listed : (s.1.list q.unpaged).map (·.id) = [2, 1, 0].map IdSupply.name := by
    change ((Listing.select q.unpaged s.1.routers).map (·.project none)).map (·.id) = _
    rw [selected]
    decide +kernel
  refine ⟨keyed, Nat.succ_pos 1, pages, reads, ?_, by rw [all, listed]⟩
  rw [count, ← List.length_map (·.id), listed]
  rfl

end Backend
end Brokerage
