import Brokerage.Proofs.ByteOrder
import Brokerage.Proofs.Refinement

/-! # How a listing gathers its routers

A listing learns from the store which backends have a bound router, asks these one after the other,
and merges their answers. What a backend answers is left open here: it may hold routers that others
hold too, repeat itself, or fail.
-/

namespace Brokerage

namespace Dialogue

variable {Q : Type} {A : Q → Type} {α β σ : Type}

/-- What is asked, in turn, and what is answered to it. -/
def transcript (answer : (q : Q) → σ → A q × σ) : Dialogue Q A α → σ → List ((q : Q) × A q)
  | done _, _ => []
  | ask question next, s =>
    ⟨question, (answer question s).1⟩ ::
      (next (answer question s).1).transcript answer (answer question s).2

theorem transcript_bind (answer : (q : Q) → σ → A q × σ) (d : Dialogue Q A α)
    (f : α → Dialogue Q A β) (s : σ) :
    (d.bind f).transcript answer s =
      d.transcript answer s ++ (f (d.run answer s).1).transcript answer (d.run answer s).2 := by
  induction d generalizing s with
  | done value => rfl
  | ask question next ih => exact congrArg _ (ih _ _)

end Dialogue

theorem Registry.get_of_not_contains {registry : Registry} {descriptor : String}
    (unknown : registry.contains descriptor = false) :
    registry.get descriptor = .error (.unknownDescriptor descriptor) := by
  unfold Registry.contains Dict.contains at unknown
  unfold Registry.get
  cases held : registry.names.get? descriptor with
  | none => rfl
  | some name => simp [held] at unknown

/-- Whatever answers effects, with a state of its own. -/
abbrev World (σ : Type) : Type := (e : Effect) → σ → e.Outcome × σ

/-- Effects that were asked for, and what came of them. -/
abbrev Transcript : Type := List ((e : Effect) × e.Outcome)

namespace Procedure

variable {σ α β : Type} {world : World σ} {p : Procedure α} {f : α → Procedure β} {s t u : σ}
  {log more : Transcript} {a : α} {failure : Failure} {ended : Except Failure β}

/-- A procedure asks for what a transcript tells, and ends. -/
structure Talks (world : World σ) (p : Procedure α) (s : σ) (log : Transcript)
    (ended : Except Failure α) (t : σ) : Prop where
  log : (ExceptT.run p).transcript world s = log
  ends : (ExceptT.run p).run world s = (ended, t)

namespace Talks

theorem pure (world : World σ) (a : α) (s : σ) :
    Talks world (Pure.pure a : Procedure α) s [] (.ok a) s := ⟨rfl, rfl⟩

theorem perform {e : Effect} {outcome : e.Outcome} (answered : world e s = (outcome, t)) :
    Talks world (.perform e) s [⟨e, outcome⟩] outcome t := by
  have asked : Talks world (.perform e) s [⟨e, (world e s).1⟩] (world e s).1 (world e s).2 :=
    ⟨rfl, rfl⟩
  rwa [answered] at asked

theorem ofExcept {result : Except Error α} {outcome : Except Failure α} (world : World σ) (s : σ)
    (known : result.mapError .error = outcome) :
    Talks world (.ofExcept result) s [] outcome s := by
  subst known
  cases result <;> exact ⟨rfl, rfl⟩

theorem bind (first : Talks world p s log (.ok a) t) (next : Talks world (f a) t more ended u) :
    Talks world (p >>= f) s (log ++ more) ended u := by
  constructor
  · change ((ExceptT.run p).bind _).transcript world s = _
    rw [Dialogue.transcript_bind, first.log, first.ends]
    exact congrArg _ next.log
  · change ((ExceptT.run p).bind _).run world s = _
    rw [Dialogue.run_bind, first.ends]
    exact next.ends

theorem bind_error (first : Talks world p s log (.error failure) t) :
    Talks world (p >>= f) s log (.error failure) t := by
  constructor
  · change ((ExceptT.run p).bind _).transcript world s = _
    rw [Dialogue.transcript_bind, first.log, first.ends]
    exact List.append_nil log
  · change ((ExceptT.run p).bind _).run world s = _
    rw [Dialogue.run_bind, first.ends]
    rfl

theorem map (g : α → β) {ended : Except Failure α} (h : Talks world p s log ended t) :
    Talks world (p >>= fun a => Pure.pure (g a)) s log (ended.map g) t := by
  cases ended with
  | error failure => exact h.bind_error
  | ok a =>
      have put := h.bind (f := fun a => Pure.pure (g a)) (.pure world (g a) t)
      rwa [List.append_nil] at put

end Talks
end Procedure

namespace Dispatch

/-! ## Merging -/

section

variable {routers : List Router} {r : Router} {id : String}

theorem mem_firstOfEachId :
    r ∈ firstOfEachId routers ↔ routers.find? (·.id = r.id) = some r := by
  induction routers with
  | nil => simp [firstOfEachId]
  | cons x rest ih =>
      rw [firstOfEachId, List.mem_cons, List.mem_filter, ih, List.find?_cons]
      by_cases same : x.id = r.id
      · simp [same, eq_comm]
      · have other : r ≠ x := fun h => same (by rw [h])
        simp [same, other, Ne.symm same]

theorem firstOfEachId_nodup : ((firstOfEachId routers).map (·.id)).Nodup := by
  induction routers with
  | nil => exact List.nodup_nil
  | cons x rest ih =>
      rw [firstOfEachId, List.map_cons, List.nodup_cons]
      constructor
      · simp
      · exact ih.sublist (List.filter_sublist.map _)

theorem exists_mem_firstOfEachId :
    (∃ r ∈ firstOfEachId routers, r.id = id) ↔ ∃ r ∈ routers, r.id = id := by
  constructor
  · rintro ⟨r, member, same⟩
    exact ⟨r, List.mem_of_find?_eq_some (mem_firstOfEachId.1 member), same⟩
  · rintro ⟨copy, member, same⟩
    have there : (routers.find? (·.id = id)).isSome := by
      rw [List.find?_isSome]
      exact ⟨copy, member, by simpa using same⟩
    obtain ⟨r, found⟩ := Option.isSome_iff_exists.1 there
    have named : r.id = id := by simpa using List.find?_some found
    exact ⟨r, mem_firstOfEachId.2 (by rw [named, found]), named⟩

theorem firstOfEachId_ordered :
    (firstOfEachId routers).Pairwise fun a b =>
      routers.findIdx (·.id = a.id) < routers.findIdx (·.id = b.id) := by
  induction routers with
  | nil => exact .nil
  | cons x rest ih =>
      have place {y : Router} (member : y ∈ (firstOfEachId rest).filter (·.id != x.id)) :
          (x :: rest).findIdx (·.id = y.id) = rest.findIdx (·.id = y.id) + 1 := by
        have other : y.id ≠ x.id := by simpa using (List.mem_filter.1 member).2
        simp [List.findIdx_cons, Ne.symm other]
      rw [firstOfEachId, List.pairwise_cons]
      constructor
      · intro b member
        rw [place member]
        simp [List.findIdx_cons]
      · refine (ih.sublist List.filter_sublist).imp_of_mem fun here there earlier => ?_
        rw [place here, place there]
        exact Nat.succ_lt_succ earlier

end

/-- Where an id turns up first when all answers stand one after the other. -/
def firstPlace (batches : List (String × List Router)) (id : String) : Nat :=
  (batches.flatMap Prod.snd).findIdx (·.id = id)

/-- Routers are what the answers of several backends hold, every id once. -/
structure Merged (batches : List (String × List Router)) (routers : List Router) : Prop where
  distinct : (routers.map (·.id)).Nodup
  ids : ∀ id, (∃ r ∈ routers, r.id = id) ↔ ∃ x ∈ batches, ∃ copy ∈ x.2, copy.id = id
  /-- Of several copies the one counts that comes first: no earlier answer has one, and in its own
  answer no copy stands before it. -/
  first : ∀ r ∈ routers, ∃ earlier home batch later, batches = earlier ++ (home, batch) :: later ∧
    (∀ x ∈ earlier, ∀ copy ∈ x.2, copy.id ≠ r.id) ∧ batch.find? (·.id = r.id) = some r
  ordered : routers.Pairwise fun a b => firstPlace batches a.id < firstPlace batches b.id

theorem merged (batches : List (String × List Router)) :
    Merged batches (firstOfEachId (batches.flatMap Prod.snd)) where
  distinct := firstOfEachId_nodup
  ids id := by
    rw [exists_mem_firstOfEachId]
    simp only [List.mem_flatMap]
    constructor
    · rintro ⟨copy, ⟨x, answered, member⟩, same⟩
      exact ⟨x, answered, copy, member, same⟩
    · rintro ⟨x, answered, copy, member, same⟩
      exact ⟨copy, ⟨x, answered, member⟩, same⟩
  first r member := by
    rw [mem_firstOfEachId, List.find?_flatMap, List.findSome?_eq_some_iff] at member
    obtain ⟨earlier, ⟨home, batch⟩, later, split, found, missed⟩ := member
    refine ⟨earlier, home, batch, later, split, ?_, found⟩
    intro x before copy inside
    have absent := List.find?_eq_none.1 (missed x before) copy inside
    simpa using absent
  ordered := firstOfEachId_ordered

/-! ## Asking -/

/-- Descriptors of the active bindings of routers, each once, in the order of their bytes. -/
structure Homes (l : Ledger) (homes : List String) : Prop where
  ascending : homes.Pairwise fun a b => utf8Bytes a < utf8Bytes b
  bound : ∀ home, home ∈ homes ↔
    ∃ row ∈ l.rows, row.isActive = true ∧ row.resourceType = "router" ∧ row.descriptor = home

theorem homes_listByType (l : Ledger) : Homes l (l.listByType Resource.routerType) where
  ascending := Dict.keys_ascending _
  bound home := by
    simp only [Ledger.mem_listByType, Ledger.mem_actives, and_assoc]
    rfl

/-- What a backend is asked for a listing, and what it replies. -/
def asked (ctx : Context) (query : Listing.Query) (x : String × Except Failure (List Router)) :
    (e : Effect) × e.Outcome :=
  ⟨.backend x.1 (.list query) ctx, x.2⟩

/-- Backends are asked in turn until one fails; their answers are put together. -/
inductive Polled : List String → List (String × Except Failure (List Router)) →
    Except Failure (List Router) → Prop where
  | done : Polled [] [] (.ok [])
  | failed (home : String) (rest : List String) (failure : Failure) :
    Polled (home :: rest) [(home, .error failure)] (.error failure)
  | answered {rest : List String} {replies : List (String × Except Failure (List Router))}
    {ended : Except Failure (List Router)} (home : String) (batch : List Router)
    (others : Polled rest replies ended) :
    Polled (home :: rest) ((home, .ok batch) :: replies) (ended.map (batch ++ ·))

namespace Polled

variable {homes : List String} {replies : List (String × Except Failure (List Router))}
  {ended : Except Failure (List Router)}

theorem in_turn (h : Polled homes replies ended) : replies.map Prod.fst <+: homes := by
  induction h with
  | done => exact List.prefix_rfl
  | failed home rest failure => exact ⟨rest, rfl⟩
  | answered home batch _ ih => exact List.cons_prefix_cons.2 ⟨rfl, ih⟩

theorem eq_failure (h : Polled homes replies ended) {home : String} {failure : Failure}
    (failed : (home, .error failure) ∈ replies) : ended = .error failure := by
  induction h with
  | done => cases failed
  | failed _ _ other =>
      cases List.mem_singleton.1 failed
      rfl
  | answered _ batch _ ih =>
      rcases List.mem_cons.1 failed with never | later
      · cases never
      · rw [ih later]
        rfl

theorem eq_answers (h : Polled homes replies ended)
    (sound : ∀ x ∈ replies, ∃ batch, x.2 = .ok batch) :
    ∃ batches : List (String × List Router), replies = batches.map (fun x => (x.1, .ok x.2)) ∧
      batches.map Prod.fst = homes ∧ ended = .ok (batches.flatMap Prod.snd) := by
  induction h with
  | done => exact ⟨[], rfl, rfl, rfl⟩
  | failed home _ failure =>
      obtain ⟨_, never⟩ := sound (home, .error failure) List.mem_cons_self
      cases never
  | answered home batch _ ih =>
      obtain ⟨batches, rfl, rfl, rfl⟩ := ih fun x later => sound x (List.mem_cons_of_mem _ later)
      exact ⟨(home, batch) :: batches, rfl, rfl, rfl⟩

end Polled

variable {σ : Type} {world : World σ} {registry : Registry} {homes : List String} {home : String}

theorem gather_talks (world : World σ) (ctx : Context) (query : Listing.Query)
    (homes : List String) (s : σ) :
    ∃ replies ended t,
      (gather ctx query homes).Talks world s (replies.map (asked ctx query)) ended t ∧
        Polled homes replies ended := by
  induction homes generalizing s with
  | nil => exact ⟨[], _, s, .pure world [] s, .done⟩
  | cons home rest ih =>
      rcases replied : world (.backend home (.list query) ctx) s with ⟨failure | batch, t⟩
      · exact ⟨[(home, .error failure)], _, t, (Procedure.Talks.perform replied).bind_error,
          .failed home rest failure⟩
      · obtain ⟨replies, ended, u, others, polled⟩ := ih t
        refine ⟨(home, .ok batch) :: replies, _, u, ?_, .answered home batch polled⟩
        exact (Procedure.Talks.perform replied).bind (others.map _)

theorem mapM_get_unknown (missing : homes.find? (fun home => !registry.contains home) = some home) :
    homes.mapM registry.get = .error (.unknownDescriptor home) := by
  induction homes with
  | nil => cases missing
  | cons first rest ih =>
      rw [List.find?_cons] at missing
      cases known : registry.contains first with
      | true =>
          obtain ⟨name, found⟩ := Registry.get_of_contains known
          rw [known] at missing
          simp [List.mapM_cons, found, ih missing, bind, Except.bind]
      | false =>
          rw [known] at missing
          cases missing
          simp [List.mapM_cons, Registry.get_of_not_contains known, bind, Except.bind]

/-- How a listing fares with the backends it has to ask. -/
structure Gathered (registry : Registry) (homes : List String)
    (replies : List (String × Except Failure (List Router)))
    (ended : Except Failure (List Router)) : Prop where
  /-- Each backend is asked once, in the order of the descriptors. -/
  in_turn : replies.map Prod.fst <+: homes
  /-- A descriptor without a backend ends the listing before anybody is asked. -/
  unknown : ∀ home, homes.find? (fun home => !registry.contains home) = some home →
    replies = [] ∧ ended = .error (.error (.unknownDescriptor home))
  /-- One backend that fails is enough. -/
  failed : ∀ home failure, (home, .error failure) ∈ replies → ended = .error failure
  merged : (∀ home ∈ homes, registry.contains home = true) →
    (∀ x ∈ replies, ∃ batch, x.2 = .ok batch) →
    ∃ batches routers, replies = batches.map (fun x => (x.1, .ok x.2)) ∧
      batches.map Prod.fst = homes ∧ ended = .ok routers ∧ Merged batches routers

/-- The course of a listing: what is asked and answered, and how it ends. -/
inductive Course (l : Ledger) (registry : Registry) (ctx : Context) (query : Listing.Query) :
    Transcript → Except Failure (List Router) → Prop where
  | unread (failure : Failure) :
    Course l registry ctx query [⟨.store (.list "router"), .error failure⟩] (.error failure)
  | read {homes : List String} {replies : List (String × Except Failure (List Router))}
    {ended : Except Failure (List Router)} (bound : Homes l homes)
    (gathered : Gathered registry homes replies ended) :
    Course l registry ctx query
      (⟨.store (.list "router"), .ok homes⟩ :: replies.map (asked ctx query)) ended

theorem list_talks (registry : Registry) (ctx : Context) (query : Listing.Query) {s t : σ}
    (read : world (.store (.list Resource.routerType)) s = (.ok homes, t)) :
    ∃ replies ended u, (list registry ctx query).Talks world s
        (⟨.store (.list "router"), .ok homes⟩ :: replies.map (asked ctx query)) ended u ∧
      Gathered registry homes replies ended := by
  have known := Procedure.Talks.perform read
  cases missing : homes.find? (fun home => !registry.contains home) with
  | some home =>
      have looked := Procedure.Talks.ofExcept world t
        (congrArg (Except.mapError Failure.error) (mapM_get_unknown missing))
      refine ⟨[], _, t, known.bind looked.bind_error, List.nil_prefix, ?_, nofun, ?_⟩
      · intro other found
        rw [missing] at found
        cases found
        exact ⟨rfl, rfl⟩
      · intro all
        have unknown := List.find?_some missing
        simp [all home (List.mem_of_find?_eq_some missing)] at unknown
  | none =>
      have all : ∀ home ∈ homes, registry.contains home = true := by
        simpa using List.find?_eq_none.1 missing
      obtain ⟨names, found⟩ := mapM_get all
      have looked := Procedure.Talks.ofExcept world t
        (congrArg (Except.mapError Failure.error) found)
      obtain ⟨replies, ended, u, talks, polled⟩ := gather_talks world ctx query homes t
      refine ⟨replies, ended.map firstOfEachId, u, ?_, polled.in_turn, ?_, ?_, ?_⟩
      · exact known.bind (looked.bind (talks.map firstOfEachId))
      · intro home found
        rw [missing] at found
        cases found
      · intro home failure failed
        rw [polled.eq_failure failed]
        rfl
      · intro _ sound
        obtain ⟨batches, replied, homes, rfl⟩ := polled.eq_answers sound
        exact ⟨batches, _, replied, homes, rfl, Dispatch.merged batches⟩

/-- Whatever the backends do: if the store answers with what its ledger says, a listing asks the
backends of the bound routers in turn, and it ends with all they hold, every id once, or fails. -/
theorem list_gathers (world : World σ) (s : σ) (l : Ledger)
    (reads : ∀ homes, (world (.store (.list Resource.routerType)) s).1 = .ok homes →
      homes = l.listByType Resource.routerType)
    (registry : Registry) (ctx : Context) (query : Listing.Query) :
    Course l registry ctx query
      ((ExceptT.run (list registry ctx query)).transcript world s)
      ((ExceptT.run (list registry ctx query)).run world s).1 := by
  cases read : world (.store (.list Resource.routerType)) s with
  | mk reply t =>
      cases reply with
      | error failure =>
          have unread : (list registry ctx query).Talks world s
              [⟨.store (.list "router"), .error failure⟩] (.error failure) t :=
            (Procedure.Talks.perform read).bind_error
          rw [unread.log, unread.ends]
          exact .unread failure
      | ok homes =>
          obtain ⟨replies, ended, u, talks, gathered⟩ := list_talks registry ctx query read
          rw [talks.log, talks.ends]
          rw [read] at reads
          rw [reads homes rfl] at gathered ⊢
          exact .read (homes_listByType l) gathered

end Dispatch

namespace State

/-- If the store of a state answers, it answers with what its ledger says. -/
theorem performUnder_list (w : Schedule) (s : State) (type : String) (homes : List String)
    (read : (performUnder w (.store (.list type)) s).1 = .ok homes) :
    homes = s.store.ledger.listByType type := by
  have step := (show w.Within .any from fun _ _ _ _ => trivial).moves (.store (.list type)) s
  rw [read] at step
  rcases step.store with ⟨_, answer, _⟩ | ⟨_, _, never, _⟩
  · cases answer
    rfl
  · cases never

def holding (name : String) (routers : List Router) : Backend :=
  ⟨name, true, routers.map (⟨·, []⟩)⟩

/-- A binding of a router on a backend, as a row. -/
def bindingOn (descriptor : String) : Ledger.Row :=
  ⟨1, "", Resource.routerType, "", none, descriptor, default, none, none, 0⟩

/-- Two backends with one router each under the id that the other one uses too. -/
def copies : State :=
  .initial (.localPool twoResources)
    { Store.inMemory with ledger := ⟨["west", "east", "west"].map bindingOn⟩ }
    (.ofList [("east", holding "east" [⟨"r", some "first", ∅, ∅⟩]),
      ("west", holding "west" [⟨"r", some "second", ∅, ∅⟩, ⟨"q", none, ∅, ∅⟩])]) ⟨0⟩

theorem copies_merged :
    let d := ExceptT.run (Dispatch.list twoHomes default .all)
    let ended : Except Failure (List Router) :=
      .ok [⟨"r", some "first", ∅, ∅⟩, ⟨"q", none, ∅, ∅⟩]
    (d.run (performUnder .calm) copies).1 = ended ∧
      Dispatch.Course copies.store.ledger twoHomes default .all
        (d.transcript (performUnder .calm) copies) ended := by
  intro d ended
  have answers : (d.run (performUnder .calm) copies).1 = .ok (Dispatch.firstOfEachId
      (Listing.page .all [⟨"r", some "first", ∅, ∅⟩] ++
        (Listing.page .all [⟨"r", some "second", ∅, ∅⟩, ⟨"q", none, ∅, ∅⟩] ++ []))) := rfl
  rw [Listing.page_all, Listing.page_all] at answers
  have merged : (d.run (performUnder .calm) copies).1 = ended := by
    rw [answers]
    decide +kernel
  refine ⟨merged, ?_⟩
  have course := Dispatch.list_gathers (performUnder .calm) copies copies.store.ledger
    (performUnder_list .calm copies Resource.routerType) twoHomes default .all
  rwa [← merged]

end State
end Brokerage
