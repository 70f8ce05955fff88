import Brokerage.Proofs.Abandonment
import Brokerage.Proofs.Gathering
import Brokerage.Proofs.QueryPairs
import Mathlib.Data.Finset.Card

/-! # Counting agrees with listing

A count asks for everything that the filters accept; a listing may order, reverse and trim it too.
None of this changes which ids come up, and of several routers with one id a single one is kept,
whatever the copies say. So without limit and marker the count is the number of routers that are
listed, and it fails where the listing fails.
-/

namespace Brokerage

namespace Dispatch

/-- The ids that some routers have. -/
def idsOf (routers : List Router) : Finset String := (routers.map (·.id)).toFinset

theorem idsOf_append (routers others : List Router) :
    idsOf (routers ++ others) = idsOf routers ∪ idsOf others := by
  rw [idsOf, List.map_append, List.toFinset_append]
  rfl

theorem length_firstOfEachId (routers : List Router) :
    (firstOfEachId routers).length = (idsOf routers).card := by
  have same : idsOf (firstOfEachId routers) = idsOf routers := by
    ext id
    simpa [idsOf] using exists_mem_firstOfEachId
  rw [← same, idsOf, List.toFinset_card_of_nodup firstOfEachId_nodup, List.length_map]

end Dispatch

open Dispatch (idsOf idsOf_append)

namespace Listing

variable {q : Query}

/-- Whatever routers there are, two queries select the same ids. -/
def SameIds (q q' : Query) : Prop :=
  ∀ routers, idsOf (page q routers) = idsOf (page q' routers)

/-- The query for everything that some filters accept. -/
def Query.ofFilters (filters : Dict (List String)) : Query := { all with filters }

theorem Query.unpaged_of_tells {pairs : List (String × String)} (h : q.Tells pairs)
    (whole : ∀ pair ∈ pairs, pair.1 ≠ "limit" ∧ pair.1 ≠ "marker") : q.unpaged = q := by
  have given {key : String} (absent : ∀ pair ∈ pairs, pair.1 ≠ key) :
      Query.valuesOf pairs key = [] := by
    simpa [Query.valuesOf] using absent
  have limit := h.limit
  have marker := h.marker
  rw [given fun pair member => (whole pair member).1] at limit
  rw [given fun pair member => (whole pair member).2] at marker
  obtain ⟨filters, fields, sorts, number, start, reversed⟩ := q
  cases limit
  cases marker
  rfl

theorem sameIds_ofFilters (whole : q.unpaged = q) : SameIds q (.ofFilters q.filters) := by
  intro routers
  have plain := page_unpaged_ids (.ofFilters q.filters) routers
  have listed := page_unpaged_ids q routers
  rw [whole] at listed
  exact List.toFinset_eq_of_perm _ _ (listed.trans plain.symm)

end Listing

namespace State

variable {s : State} {registry : Registry} {ctx : Context} {q q' : Listing.Query}

/-! ## Runs without faults -/

theorem perform_quiet (quiet : s.faults.remaining = 0) (e : Effect) :
    ∃ t, s.perform e = ((s.answer e).1.mapError .error, t) ∧ t.faults.remaining = 0 ∧
      t.backends = (s.answer e).2.backends := by
  have free : (s.meet e).1 = none := by
    cases hit : (s.meet e).1 with
    | none => rfl
    | some fault =>
        have fewer := meet_remaining hit
        omega
  have left : (s.meet e).2.faults.remaining = 0 :=
    Nat.le_zero.1 (quiet ▸ meet_remaining_le s e)
  obtain ⟨⟨faults, met⟩, _⟩ := meet_cases s e
  have performed : s.perform e = (s.meet e).2.settle e none := by
    rw [← free]
    rfl
  refine ⟨(s.perform e).2, ?_, ?_, ?_⟩
  · rw [performed, met]
    simp [settle, answer_recorded]
  · rw [performed, settle_faults, left]
  · rw [performed, met]
    simp [settle, answer_recorded, note]

theorem run_map {α β : Type} (p : Procedure α) (g : α → β) (s : State) :
    (s.run (p >>= fun a => pure (g a))).1 = (s.run p).1.map g := by
  have run := runUnder_bind (·.faults) p (fun a => pure (g a)) s
  rw [run_eq_runUnder, run_eq_runUnder, run]
  rcases s.runUnder (·.faults) p with ⟨_ | _, t⟩ <;> rfl

/-- What the backend of a descriptor answers to a query. -/
def pageAt (s : State) (q : Listing.Query) (home : String) : Except Error (List Router) :=
  match s.backends.get? home with
  | some b => .ok (Listing.page q b.routers)
  | none => .error (.unknownDescriptor home)

/-- What a state answers to a listing that asks the backends of some descriptors. -/
def listingAt (s : State) (registry : Registry) (q : Listing.Query) (homes : List String) :
    Except Error (List Router) := do
  let _ ← homes.mapM registry.get
  return Dispatch.firstOfEachId (← homes.mapM (s.pageAt q)).flatten

def listing (s : State) (registry : Registry) (q : Listing.Query) : Except Error (List Router) := do
  s.listingAt registry q (← (s.store.run s.now (.list Resource.routerType)).1)

theorem run_call (quiet : s.faults.remaining = 0) (ctx : Context) (q : Listing.Query)
    (home : String) :
    ∃ t, s.run (.callBackend home (.list q) ctx) = ((s.pageAt q home).mapError .error, t) ∧
      t.faults.remaining = 0 ∧ t.pageAt q = s.pageAt q := by
  obtain ⟨t, ran, still, backends⟩ := perform_quiet quiet (.backend home (.list q) ctx)
  refine ⟨t, ran.trans ?_, still, ?_⟩
  · simp only [answer, pageAt]
    cases s.backends.get? home <;> rfl
  · funext other
    simp only [answer] at backends
    cases known : s.backends.get? home with
    | none =>
        rw [known] at backends
        simp only [pageAt, backends]
    | some b =>
        rw [known] at backends
        simp only [pageAt, backends, Backend.answer, Dict.get?_insert]
        by_cases same : other = home
        · rw [if_pos same, same, known]
        · rw [if_neg same]

theorem run_gather (quiet : s.faults.remaining = 0) (homes : List String) :
    (s.run (Dispatch.gather ctx q homes)).1 =
      ((homes.mapM (s.pageAt q)).map List.flatten).mapError .error := by
  induction homes generalizing s with
  | nil => rfl
  | cons home rest ih =>
      obtain ⟨t, called, still, same⟩ := run_call quiet ctx q home
      rw [Dispatch.gather, List.mapM_cons]
      cases answered : s.pageAt q home with
      | error e =>
          rw [answered] at called
          exact congrArg Prod.fst (runUnder_bind_error called)
      | ok batch =>
          rw [answered] at called
          refine (congrArg Prod.fst (runUnder_bind_ok called)).trans ?_
          refine (run_map _ _ t).trans ?_
          rw [ih still, same]
          cases rest.mapM (s.pageAt q) <;> rfl

theorem run_listingAt (quiet : s.faults.remaining = 0) (homes : List String) :
    (s.run (do
        let _ ← Procedure.ofExcept (homes.mapM registry.get)
        return Dispatch.firstOfEachId (← Dispatch.gather ctx q homes))).1 =
      (s.listingAt registry q homes).mapError .error := by
  unfold listingAt
  cases homes.mapM registry.get with
  | error e => exact congrArg Prod.fst (runUnder_bind_error rfl)
  | ok names =>
      refine (congrArg Prod.fst (runUnder_bind_ok rfl)).trans ?_
      refine (run_map _ _ s).trans ?_
      rw [run_gather quiet]
      simp only [bind, Except.bind]
      cases homes.mapM (s.pageAt q) <;> rfl

theorem run_list (quiet : s.faults.remaining = 0) :
    (s.run (Dispatch.list registry ctx q)).1 = (s.listing registry q).mapError .error := by
  obtain ⟨t, read, still, backends⟩ := perform_quiet quiet (.store (.list Resource.routerType))
  have same : t.listingAt registry q = s.listingAt registry q := by
    unfold listingAt pageAt
    rw [backends]
    rfl
  have asked : s.run (.listDescriptors Resource.routerType) =
      ((s.store.run s.now (.list Resource.routerType)).1.mapError .error, t) := read
  unfold listing Dispatch.list
  cases told : (s.store.run s.now (.list Resource.routerType)).1 with
  | error e =>
      rw [told] at asked
      exact congrArg Prod.fst (runUnder_bind_error asked)
  | ok homes =>
      rw [told] at asked
      refine (congrArg Prod.fst (runUnder_bind_ok asked)).trans ?_
      exact same ▸ run_listingAt still homes

theorem run_count (quiet : s.faults.remaining = 0) (filters : Dict (List String)) :
    (s.run (Dispatch.count registry ctx filters)).1 =
      ((s.listing registry (.ofFilters filters)).map List.length).mapError .error := by
  refine (run_map _ _ s).trans ?_
  rw [run_list quiet]
  change ((s.listing registry (.ofFilters filters)).mapError _).map _ = _
  cases s.listing registry (.ofFilters filters) <;> rfl

/-! ## Ids -/

/-- Which ids several backends have together rests on the ids of each alone. -/
theorem idsOf_mapM (f : String → Except Error (List Router)) (homes : List String) :
    (homes.mapM f).map (fun batches => idsOf batches.flatten) =
      (homes.mapM fun home => (f home).map idsOf).map fun parts => parts.foldr (· ∪ ·) ∅ := by
  induction homes with
  | nil => rfl
  | cons home rest ih =>
      rw [List.mapM_cons, List.mapM_cons]
      cases f home with
      | error e => rfl
      | ok batch =>
          -- Both sides put the ids of the batch before what they make of the other backends.
          have put : ((rest.mapM f).map (batch :: ·)).map (fun batches => idsOf batches.flatten) =
              ((rest.mapM f).map fun batches => idsOf batches.flatten).map (idsOf batch ∪ ·) := by
            cases rest.mapM f with
            | error e => rfl
            | ok batches => exact congrArg Except.ok (idsOf_append batch batches.flatten)
          rw [ih] at put
          refine Eq.trans ?_ (put.trans ?_)
          · cases rest.mapM f <;> rfl
          · cases rest.mapM fun home => (f home).map idsOf <;> rfl

theorem idsOf_pageAt (s : State) (alike : Listing.SameIds q q') (home : String) :
    (s.pageAt q home).map idsOf = (s.pageAt q' home).map idsOf := by
  unfold pageAt
  cases s.backends.get? home with
  | none => rfl
  | some b => exact congrArg Except.ok (alike b.routers)

theorem idsOf_pages (s : State) (alike : Listing.SameIds q q') (homes : List String) :
    (homes.mapM (s.pageAt q)).map (fun batches => idsOf batches.flatten) =
      (homes.mapM (s.pageAt q')).map fun batches => idsOf batches.flatten := by
  rw [idsOf_mapM, idsOf_mapM, funext (s.idsOf_pageAt alike)]

theorem length_listingAt_eq (s : State) (registry : Registry) (q : Listing.Query)
    (homes : List String) :
    (s.listingAt registry q homes).map List.length =
      (homes.mapM registry.get).bind fun _ =>
        ((homes.mapM (s.pageAt q)).map fun batches => idsOf batches.flatten).map Finset.card := by
  unfold listingAt
  cases homes.mapM registry.get with
  | error e => rfl
  | ok names =>
      cases homes.mapM (s.pageAt q) with
      | error e => rfl
      | ok batches => exact congrArg Except.ok (Dispatch.length_firstOfEachId batches.flatten)

theorem length_listingAt (s : State) (registry : Registry) (alike : Listing.SameIds q q')
    (homes : List String) :
    (s.listingAt registry q homes).map List.length =
      (s.listingAt registry q' homes).map List.length := by
  rw [length_listingAt_eq, length_listingAt_eq, s.idsOf_pages alike]

theorem length_listing (s : State) (registry : Registry) (alike : Listing.SameIds q q') :
    (s.listing registry q).map List.length = (s.listing registry q').map List.length := by
  unfold listing
  cases (s.store.run s.now (.list Resource.routerType)).1 with
  | error e => rfl
  | ok homes => exact s.length_listingAt registry alike homes

theorem length_copies_listing :
    (copies.listing twoHomes .all).map List.length = .ok 2 := by
  have answered : copies.listing twoHomes .all = .ok (Dispatch.firstOfEachId
      [Listing.page .all [⟨"r", some "first", ∅, ∅⟩],
        Listing.page .all [⟨"r", some "second", ∅, ∅⟩, ⟨"q", none, ∅, ∅⟩]].flatten) := rfl
  rw [answered, Listing.page_all, Listing.page_all]
  decide +kernel

end State

namespace Http

theorem CountReport.toJson_injective : Function.Injective CountReport.toJson := by
  rintro ⟨n⟩ ⟨m⟩ same
  have fields : Json.object [("count", .ofNat n)] = Json.object [("count", .ofNat m)] := same
  have value : (n : Int) = m := by simpa [Json.ofNat] using fields
  rw [Int.ofNat_inj.1 value]

namespace Api

variable {registry : Registry} {newId : String} {r : Request} {target : Target} {s : State}
  {pairs : List (String × String)}

/-- A request to read what a path names, with some pairs in its query. -/
structure Gets (path : String) (pairs : List (String × String)) (r : Request) (target : Target) :
    Prop where
  method : r.method = "GET"
  path : target.path = path.toList
  pairs : target.pairs = pairs

/-- What a state answers to a request. -/
def reply (s : State) (registry : Registry) (newId : String) (r : Request) (target : Target) :
    Except Failure Response :=
  (s.run (handle registry newId r target).procedure).1

/-- The answer that shows a result. -/
def shown {α : Type} (answer : α → Response) : Except Error α → Response
  | .ok value => answer value
  | .error e => .ofError e

theorem run_answerTo {α : Type} {p : Procedure α} {result : Except Error α}
    (ends : (s.run p).1 = result.mapError .error) (answer : α → Response) :
    (s.run (answerTo p answer)).1 = .ok (shown answer result) := by
  have run : s.run (answerTo p answer) = _ :=
    State.runUnder_bind_ok (State.runUnder_outcome (·.faults) p s)
  have ended : (s.runUnder (·.faults) p).1 = result.mapError .error := ends
  rw [run, ended]
  cases result <;> rfl

theorem handle_gets {path : String} {command : Command} (route : Route)
    (asked : Gets path pairs r target)
    (found : Route.ofSegments? target.segments = some route) (known : "GET" ∈ Command.methods route)
    (reads : Command.ofRoute r target route "GET" = .ok command) :
    (handle registry newId r target).procedure =
      carryOut registry (contextOf r newId) command := by
  have whole : r.method ≠ "HEAD" := by simp [asked.method]
  have told := ofRequest_known found whole (asked.method ▸ known)
  rw [asked.method, reads] at told
  unfold handle
  rw [told]
  simp only [if_neg whole, id_map']

theorem handle_list (asked : Gets "/v1/routers" pairs r target) :
    (handle registry newId r target).procedure =
      carryOut registry (contextOf r newId) (.list pairs) := by
  refine handle_gets .routers asked ?_ (by decide) ?_
  · rw [Target.segments, asked.path]
    decide +kernel
  · rw [← asked.pairs]
    rfl

theorem handle_count (asked : Gets "/v1/routers/count" pairs r target) :
    (handle registry newId r target).procedure =
      carryOut registry (contextOf r newId) (.count pairs) := by
  refine handle_gets .routerCount asked ?_ (by decide) ?_
  · rw [Target.segments, asked.path]
    decide +kernel
  · rw [← asked.pairs]
    rfl

theorem reply_list {q : Listing.Query} (quiet : s.faults.remaining = 0)
    (asked : Gets "/v1/routers" pairs r target) (read : Listing.Query.ofPairs pairs = .ok q) :
    reply s registry newId r target =
      .ok (shown (fun routers => .json 200 (.array (routers.map (·.toJson))))
        (s.listing registry q)) := by
  rw [reply, handle_list asked, carryOut, withQuery, read]
  exact run_answerTo (State.run_list quiet) _

theorem reply_count {q : Listing.Query} (quiet : s.faults.remaining = 0)
    (asked : Gets "/v1/routers/count" pairs r target)
    (read : Listing.Query.ofPairs pairs = .ok q) :
    reply s registry newId r target =
      .ok (shown (fun count => .json 200 (CountReport.toJson ⟨count⟩))
        ((s.listing registry (.ofFilters q.filters)).map List.length)) := by
  rw [reply, handle_count asked, carryOut, withQuery, read]
  exact run_answerTo (State.run_count quiet q.filters) _

theorem status_failing (e : Error) : 400 ≤ e.status := by
  unfold Error.status
  split
  case h_4 => split <;> decide
  all_goals decide

/-- While no fault is pending, a count answers how many routers the listing for the same pairs
answers, unless these set a limit or a marker; or both requests fail with one error. -/
theorem count_agrees {counting : Request} {counted : Target} {q : Listing.Query}
    (quiet : s.faults.remaining = 0) (lists : Gets "/v1/routers" pairs r target)
    (counts : Gets "/v1/routers/count" pairs counting counted)
    (read : Listing.Query.ofPairs pairs = .ok q)
    (whole : ∀ pair ∈ pairs, pair.1 ≠ "limit" ∧ pair.1 ≠ "marker")
    (registry : Registry) (newId newId' : String) :
    (∃ routers : List Router,
      reply s registry newId r target = .ok (.json 200 (.array (routers.map (·.toJson)))) ∧
      reply s registry newId' counting counted =
        .ok (.json 200 (CountReport.toJson ⟨routers.length⟩))) ∨
    ∃ e : Error, 400 ≤ e.status ∧ reply s registry newId r target = .ok (.ofError e) ∧
      reply s registry newId' counting counted = .ok (.ofError e) := by
  have tells : q.Tells pairs := by
    rcases Listing.Query.ofPairs_cases pairs with ⟨_, same, tells, _⟩ | ⟨_, refused, _⟩
    · cases same.symm.trans read
      exact tells
    · cases refused.symm.trans read
  have alike := Listing.sameIds_ofFilters (Listing.Query.unpaged_of_tells tells whole)
  rw [reply_list quiet lists read, reply_count quiet counts read,
    ← s.length_listing registry alike]
  cases s.listing registry q with
  | ok routers => exact .inl ⟨routers, rfl, rfl⟩
  | error e => exact .inr ⟨e, status_failing e, rfl, rfl⟩

def reading (path query : String) : Target := ⟨path.toList, query.toList⟩

/-- Sorted, reversed and cut down to their ids, two copies of a router still count as one. -/
theorem copies_counted :
    let get : Request := ⟨"GET", "", [], ""⟩
    let query := "sort_key=name&sort_dir=desc&page_reverse=true&fields=id"
    ∃ routers : List Router, routers.length = 2 ∧
      reply State.copies State.twoHomes "" get (reading "/v1/routers" query) =
        .ok (.json 200 (.array (routers.map (·.toJson)))) ∧
      reply State.copies State.twoHomes "" get (reading "/v1/routers/count" query) =
        .ok (.json 200 (CountReport.toJson ⟨2⟩)) := by
  intro get query
  have quiet : State.copies.faults.remaining = 0 := by decide +kernel
  have lists : Gets "/v1/routers" (reading "/v1/routers" query).pairs get
      (reading "/v1/routers" query) := ⟨rfl, rfl, rfl⟩
  have counts : Gets "/v1/routers/count" (reading "/v1/routers" query).pairs get
      (reading "/v1/routers/count" query) := ⟨rfl, rfl, rfl⟩
  have read : Listing.Query.ofPairs (reading "/v1/routers" query).pairs =
      .ok ⟨∅, some ["id"], [⟨"name", false⟩], none, none, true⟩ := by decide +kernel
  have number : reply State.copies State.twoHomes "" get (reading "/v1/routers/count" query) =
      .ok (.json 200 (CountReport.toJson ⟨2⟩)) := by
    rw [reply_count quiet counts read]
    exact congrArg (fun count => Except.ok (shown _ count)) State.length_copies_listing
  rcases count_agrees quiet lists counts read (by decide +kernel) State.twoHomes "" ""
    with ⟨routers, listed, counted⟩ | ⟨e, failing, _, counted⟩
  · refine ⟨routers, ?_, listed, number⟩
    have same := Body.json.inj (congrArg Response.body (Except.ok.inj (counted.symm.trans number)))
    exact congrArg CountReport.count (CountReport.toJson_injective same)
  · have same := counted.symm.trans number
    have status : e.status = 200 := congrArg Response.status (Except.ok.inj same)
    omega

end Api
end Http
end Brokerage
