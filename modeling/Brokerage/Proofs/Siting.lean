import Brokerage.Proofs.Allocation
import Brokerage.Proofs.Ownership
import Brokerage.Proofs.Withdrawal

/-! # Where a new router is put

A router is created on the backend of the earliest free resource. The backend is told what was asked
for with the resource's metadata over it; the binding keeps the resource's metadata alone.
-/

namespace Brokerage

namespace World

/-- What comes of an effect on a part of the world: it has a result and the part is changed, or it
fails and the part stays as it is. -/
inductive Comes {α π : Type} (result : Except Error α) (changed before : π) :
    Except Failure α → π → Prop where
  | happened : Comes result changed before (result.mapError .error) changed
  | failed (failure : Failure) : Comes result changed before (.error failure) before

theorem Comes.refused {α π : Type} {a : α} {changed before after : π} {failure : Failure}
    (h : Comes (.ok a) changed before (.error failure) after) : after = before := by
  generalize same : Except.error failure = o at h
  cases h with
  | happened => cases same
  | failed => rfl

theorem Comes.done {α π : Type} {result : Except Error α} {changed before after : π} {a : α}
    (h : Comes result changed before (.ok a) after) : result = .ok a ∧ after = changed := by
  generalize same : Except.ok a = o at h
  cases h with
  | happened => exact ⟨mapError_eq_ok.1 same.symm, rfl⟩
  | failed failure => cases same

/-- A world with a policy that hands out resources and a table that bindings are recorded in. -/
structure Booked {σ β : Type} (world : World σ) (policy : σ → Policy) (bindings : σ → Ledger)
    (backend : String → σ → β) : Prop extends Parted world policy bindings backend where
  acquired : ∀ ctx type s, Comes ((policy s).acquire type).1 ((policy s).acquire type).2 (policy s)
    (world (.acquire ctx type) s).1 (policy (world (.acquire ctx type) s).2)
  released : ∀ ctx id s, Comes ((policy s).release id).1 ((policy s).release id).2 (policy s)
    (world (.release ctx id) s).1 (policy (world (.release ctx id) s).2)
  added : ∀ a s, ∃ now, Comes ((bindings s).add a now).1 ((bindings s).add a now).2 (bindings s)
    (world (.store (.add a)) s).1 (bindings (world (.store (.add a)) s).2)
  policy_apart : ∀ op s, policy (world (.store op) s).2 = policy s
  bindings_apart : ∀ e s, e.isPolicy = true → bindings (world e s).2 = bindings s

theorem Booked.table_kept {σ β α : Type} {world : World σ} {policy : σ → Policy}
    {bindings : σ → Ledger} {backend : String → σ → β} {p : Procedure α} {s t : σ}
    {log : Transcript} {ended : Except Failure α} (booked : world.Booked policy bindings backend)
    (h : p.Talks world s log ended t)
    (spares : ∀ x ∈ log, x.1.isQuiet = true ∨ x.1.isPolicy = true) : bindings t = bindings s := by
  apply h.part_kept
  intro x member s
  cases spares x member with
  | inl quiet => exact booked.bindings_kept x.1 s quiet
  | inr policy => exact booked.bindings_apart x.1 s policy

end World

namespace Policy

variable {p : Pool} {type : String} {r : Resource}

theorem acquire_found (found : p.entries.find? (Pool.isFree type) = some r) :
    (localPool p).acquire type = (.ok r.given, .localPool (p.mark r.id true)) := by
  simp only [acquire, Pool.acquire, found]
  rfl

theorem acquire_none (none : p.entries.find? (Pool.isFree type) = none) :
    (localPool p).acquire type = (.error (.noMoreResources type), .localPool p) := by
  simp only [acquire, Pool.acquire, none]

theorem release_known {id : String} (known : (p.find? id).isSome) :
    (localPool p).release id = (.ok (), .localPool (p.mark id false)) := by
  simp only [release, Pool.release, known, if_true]

end Policy

namespace Dispatch

open Resource (routerType)

variable {σ β : Type} {world : World σ} {policy : σ → Policy} {bindings : σ → Ledger}
  {backend : String → σ → β} {registry : Registry} {ctx : Context} {request : Router.Request}
  {s t u : σ} {log : Transcript} {router : Router} {p : Pool} {r : Resource}

/-- A creation that ends well has acquired a resource, called its backend, recorded a binding and
counted, and nothing else. -/
theorem create_inv (h : (create registry ctx request).Talks world s log (.ok router) t) :
    ∃ r b s₁ s₂ s₃, world (.acquire ctx routerType) s = (.ok r, s₁) ∧
      registry.contains r.descriptor = true ∧
      world (.backend r.descriptor (.create (onResource request r)) ctx) s₁ = (.ok router, s₂) ∧
      world (.store (.add (.ofResource router.id r))) s₂ = (.ok b, s₃) ∧
      world (.count (.allocation .success)) s₃ = (.ok (), t) ∧
      log = [⟨.acquire ctx routerType, .ok r⟩,
        ⟨.backend r.descriptor (.create (onResource request r)) ctx, .ok router⟩,
        ⟨.store (.add (.ofResource router.id r)), .ok b⟩,
        ⟨.count (.allocation .success), .ok ()⟩] := by
  obtain ⟨⟨made, b⟩, _, _, u, rfl, allocated, returned⟩ := h.bind_inv
  obtain ⟨rfl, same, rfl⟩ := returned.pure_inv
  cases same
  obtain ⟨r, _, _, _, rfl, acquire, onResource⟩ := allocated.bind_inv
  obtain ⟨rfl, acquired⟩ := acquire.onError_inv.perform_inv
  obtain ⟨⟨pending, value⟩, _, _, _, rfl, scope, recording⟩ := onResource.bind_inv
  obtain ⟨name, _, _, _, rfl, registered, creating⟩ := scope.onFailure_inv.bind_inv
  obtain ⟨known, rfl, rfl⟩ := registered.ofExcept_inv
  obtain ⟨made, _, _, _, rfl, call, naming⟩ := creating.bind_inv
  obtain ⟨rfl, called⟩ := call.perform_inv
  obtain ⟨rfl, same, rfl⟩ := naming.pure_inv
  cases same
  obtain ⟨recorded, _, _, s₃, rfl, add, counting⟩ := recording.bind_inv
  obtain ⟨rfl, added⟩ := add.onError_inv.perform_inv
  obtain ⟨_, _, _, _, rfl, count, ending⟩ := counting.bind_inv
  obtain ⟨rfl, counted⟩ := count.perform_inv
  obtain ⟨rfl, same, rfl⟩ := ending.pure_inv
  cases same
  have contained : registry.contains r.descriptor = true := by
    cases missing : registry.contains r.descriptor with
    | true => rfl
    | false => cases (Registry.get_of_not_contains missing).symm.trans known
  exact ⟨r, _, _, _, s₃, acquired, contained, called, added, counted, rfl⟩

/-- The earliest free resource for routers. -/
structure Earliest (p : Pool) (r : Resource) : Prop where
  type : r.type = "router"
  free : r.allocated = false
  split : ∃ before after, p.entries = before ++ r :: after ∧
    ∀ x ∈ before, x.type = "router" → x.allocated = true

theorem earliest_iff : p.entries.find? (Pool.isFree routerType) = some r ↔ Earliest p r := by
  have free {x : Resource} : Pool.isFree routerType x = true ↔
      x.allocated = false ∧ x.type = "router" := by
    rw [Pool.isFree, Bool.and_eq_true, Bool.not_eq_true', decide_eq_true_eq]
    rfl
  have given {x : Resource} : (!Pool.isFree routerType x) = true ↔
      (x.type = "router" → x.allocated = true) := by
    rw [Bool.not_eq_true', ← Bool.not_eq_true, free, not_and', Bool.not_eq_false]
  rw [List.find?_eq_some_iff_append, free]
  constructor
  · rintro ⟨⟨free, type⟩, before, after, split, earlier⟩
    exact ⟨type, free, before, after, split, fun x member => given.1 (earlier x member)⟩
  · rintro ⟨type, free, before, after, split, earlier⟩
    exact ⟨⟨free, type⟩, before, after, split, fun x member => given.2 (earlier x member)⟩

/-- A router is put on a resource, and a row binds it there. -/
structure Sited (policy : σ → Policy) (bindings : σ → Ledger) (registry : Registry) (ctx : Context)
    (request : Router.Request) (p : Pool) (log : Transcript) (router : Router) (s t : σ)
    (r : Resource) (row : Ledger.Row) : Prop where
  earliest : Earliest p r
  taken : policy t = .localPool (p.mark r.id true)
  registered : registry.contains r.descriptor = true
  /-- One backend is called, and where request and resource differ the resource has its way. -/
  called : ∃ sent, log.filter (·.1.isCall) = [⟨.backend r.descriptor (.create sent) ctx, .ok router⟩] ∧
    sent.name = request.name ∧ sent.attributes = request.attributes ∧
    ∀ key, sent.metadata.get? key = (r.metadata.get? key <|> request.metadata.get? key)
  /-- The router had no binding, and now has this one. -/
  new : (bindings s).active? router.id = none
  recorded : bindings t = (bindings s).append row
  active : (bindings t).active? router.id = some row
  binds : row.Binds router.id r
  /-- The binding is the resource's, as far as its metadata can be read again. -/
  read : ∃ b, row.toBinding = .ok b ∧ b.objectId = router.id ∧ b.isActive = true ∧
    b.placement.resourceType = r.type ∧ b.placement.resourceId = r.id ∧
    b.placement.descriptor = r.descriptor ∧
    Ledger.decodeMetadata (Ledger.encodeMetadata (some r.metadata)) = .ok b.placement.metadata ∧
    (Ledger.Plain (some r.metadata) → b.placement.metadata = some r.metadata)

/-- A row that records a router on a resource is read as the resource's binding. -/
theorem newRow_read {l : Ledger} {now : Timestamp} {id : String} {b : Binding}
    (read : (l.newRow (.ofResource id r) now).toBinding = .ok b) :
    b.objectId = id ∧ b.isActive = true ∧ b.placement.resourceType = r.type ∧
      b.placement.resourceId = r.id ∧ b.placement.descriptor = r.descriptor ∧
      Ledger.decodeMetadata (Ledger.encodeMetadata (some r.metadata)) = .ok b.placement.metadata ∧
      (Ledger.Plain (some r.metadata) → b.placement.metadata = some r.metadata) := by
  obtain ⟨metadata, decoded, ⟨⟩⟩ := bind_eq_ok.1 read
  exact ⟨rfl, rfl, rfl, rfl, rfl, decoded,
    fun plain => Except.ok.inj (decoded.symm.trans plain.decode_encode)⟩

/-- What a recorded creation made of the table. -/
theorem added_row {l l' : Ledger} {a : Assignment} {now : Timestamp} {b : Binding}
    (h : World.Comes (l.add a now).1 (l.add a now).2 l (.ok b) l') :
    l.active? a.objectId = none ∧ (l.newRow a now).toBinding = .ok b ∧
      l' = l.append (l.newRow a now) := by
  obtain ⟨read, recorded⟩ := h.done
  obtain ⟨-, refused⟩ | ⟨new, appended⟩ := l.add_cases a now
  · rw [refused] at read
    cases read
  · rw [appended] at read recorded
    exact ⟨new, read, recorded⟩

theorem acquired_earliest {policy' : Policy} {x : Resource}
    (h : World.Comes ((Policy.localPool p).acquire routerType).1
      ((Policy.localPool p).acquire routerType).2 (.localPool p) (.ok x) policy') :
    ∃ r, Earliest p r ∧ x = r.given ∧ policy' = .localPool (p.mark r.id true) := by
  obtain ⟨handed, left⟩ := h.done
  cases found : p.entries.find? (Pool.isFree routerType) with
  | none =>
      rw [Policy.acquire_none found] at handed
      cases handed
  | some r =>
      rw [Policy.acquire_found found] at handed left
      cases handed
      exact ⟨r, earliest_iff.1 found, rfl, left⟩

/-- A creation that ends well has put its router on the earliest free resource. -/
theorem create_sited (booked : world.Booked policy bindings backend)
    (pool : policy s = .localPool p) (h : (create registry ctx request).Talks world s log (.ok router) t) :
    ∃ r row, Sited policy bindings registry ctx request p log router s t r row := by
  obtain ⟨x, b, s₁, s₂, s₃, acquired, registered, called, added, counted, rfl⟩ := create_inv h
  have first := booked.acquired ctx routerType s
  have unbooked := booked.bindings_apart (.acquire ctx routerType) s rfl
  rw [acquired, pool] at first
  rw [acquired] at unbooked
  obtain ⟨r, earliest, rfl, taken⟩ := acquired_earliest first
  have second := booked.books_kept (.perform called) (by simp [Effect.isQuiet])
  obtain ⟨now, third⟩ := booked.added (.ofResource router.id r.given) s₂
  have unpooled := booked.policy_apart (.add (.ofResource router.id r.given)) s₂
  rw [added] at third unpooled
  obtain ⟨new, read, recorded⟩ := added_row third
  have last := booked.books_kept (.perform counted) (by simp [Effect.isQuiet])
  have kept : bindings s₂ = bindings s := second.2.trans unbooked
  rw [kept] at new read recorded
  let row := (bindings s).newRow (.ofResource router.id r) now
  have ended : bindings t = (bindings s).append row := last.2.trans recorded
  exact ⟨r, row, {
    earliest
    taken := last.1.trans (unpooled.trans (second.1.trans taken))
    registered
    called := ⟨_, rfl, rfl, rfl, fun key => Dict.get?_join⟩
    new
    recorded := ended
    active := ended ▸ Ledger.active?_append_new rfl new
    binds := Ledger.newRow_binds _ _ _ _
    read := ⟨b, read, newRow_read read⟩ }⟩

/-- Handing a resource back leaves the pool as it was before the resource was acquired. -/
theorem rollback_talks (booked : world.Booked policy bindings backend) (earliest : Earliest p r)
    (works : ∀ s, (world (.release ctx r.id) s).1 = ((policy s).release r.id).1.mapError .error)
    (taken : policy s = .localPool (p.mark r.id true)) :
    ∃ t, (Broker.rollback ctx r.id).Talks world s [⟨.count (.allocation .failure), .ok ()⟩,
        ⟨.count .rollback, .ok ()⟩, ⟨.release ctx r.id, .ok ()⟩] (.ok ()) t ∧
      policy t = .localPool p := by
  obtain ⟨s₁, failed⟩ := count_talks booked.counted (.allocation .failure) s
  obtain ⟨s₂, undone⟩ := count_talks booked.counted .rollback s₁
  have kept : policy s₂ = .localPool (p.mark r.id true) := by
    rw [(booked.books_kept undone (by simp [Effect.isQuiet])).1,
      (booked.books_kept failed (by simp [Effect.isQuiet])).1, taken]
  obtain ⟨member, free, -⟩ := Pool.find?_isFree (earliest_iff.2 earliest)
  have known : ((p.mark r.id true).find? r.id).isSome := by
    rw [Pool.find?_isSome]
    exact List.mem_map.2 ⟨_, Pool.mem_entries_mark.2 ⟨r, member, rfl⟩, Pool.markEntry_id ..⟩
  have freed := Policy.release_known known
  rw [Pool.mark_false_mark_true member free] at freed
  cases released : world (.release ctx r.id) s₂ with
  | mk o t =>
      have back := booked.released ctx r.id s₂
      have done := works s₂
      rw [released, kept, freed] at back done
      cases done
      have release : (Procedure.release ctx r.id).Talks world s₂ _ (.ok ()) t := .perform released
      exact ⟨t, failed.bind (undone.bind release.ignoreError_ok), back.done.2⟩

/-- Where acquiring failed, that it did is counted, and all is as before. -/
theorem create_refused (booked : world.Booked policy bindings backend) {failure : Failure}
    (pool : policy s = .localPool p) (earliest : Earliest p r)
    (refused : world (.acquire ctx routerType) s = (.error failure, u)) :
    ∃ log t, (create registry ctx request).Talks world s log (.error failure) t ∧
      World.Untouched policy bindings backend log s t := by
  have acquire : (Procedure.acquire ctx routerType).Talks world s _ (.error failure) u :=
    .perform refused
  have first := booked.acquired ctx routerType s
  rw [refused, pool, Policy.acquire_found (earliest_iff.2 earliest)] at first
  have same : policy u = policy s := first.refused.trans pool.symm
  cases failure with
  | error e =>
      obtain ⟨t, failed⟩ := count_talks booked.counted (.allocation .failure) u
      have whole : (create registry ctx request).Talks world s _ (.error (.error e)) t :=
        (acquire.onError_error failed).bind_error.bind_error
      refine ⟨_, t, whole, rfl, ?_, booked.table_kept whole ?_, fun d => booked.backend_kept whole ?_⟩
      · exact (booked.books_kept failed (by simp [Effect.isQuiet])).1.trans same
      · simp [Effect.isQuiet, Effect.isPolicy]
      · simp
  | panic message =>
      have whole : (create registry ctx request).Talks world s _ (.error (.panic message)) u :=
        acquire.onError_panic.bind_error.bind_error
      refine ⟨_, u, whole, rfl, same, booked.table_kept whole ?_, fun d => booked.backend_kept whole ?_⟩
      · simp [Effect.isPolicy]
      · simp

/-- Without a backend for the earliest free resource nothing is called, and all is as before. -/
theorem create_unregistered (booked : world.Booked policy bindings backend)
    (pool : policy s = .localPool p) (earliest : Earliest p r)
    (unknown : registry.contains r.descriptor = false)
    (works : ∀ s, (world (.release ctx r.id) s).1 = ((policy s).release r.id).1.mapError .error) :
    ∃ log failure t, (create registry ctx request).Talks world s log (.error failure) t ∧
      World.Untouched policy bindings backend log s t ∧
      (failure = .error (.unknownDescriptor r.descriptor) ∨
        (world (.acquire ctx routerType) s).1 = .error failure) := by
  cases acquired : world (.acquire ctx routerType) s with
  | mk o s₁ =>
      cases o with
      | error failure =>
          obtain ⟨log, t, whole, untouched⟩ := create_refused booked pool earliest acquired
          exact ⟨log, failure, t, whole, untouched, .inr rfl⟩
      | ok x =>
          have first := booked.acquired ctx routerType s
          rw [acquired, pool, Policy.acquire_found (earliest_iff.2 earliest)] at first
          obtain ⟨same, taken⟩ := first.done
          cases same
          have acquire : (Procedure.acquire ctx routerType).Talks world s _ (.ok r.given) s₁ :=
            .perform acquired
          have refused := unregistered_talks world unknown s₁
          obtain ⟨t, rollback, restored⟩ := rollback_talks booked earliest works taken
          have whole : (create registry ctx request).Talks world s _
              (.error (.error (.unknownDescriptor r.descriptor))) t :=
            (acquire.onError_ok.bind (refused.bind_error.onFailure_error rollback).bind_error).bind_error
          refine ⟨_, _, t, whole, ⟨rfl, restored.trans pool.symm, booked.table_kept whole ?_,
            fun d => booked.backend_kept whole ?_⟩, .inl rfl⟩
          · simp [Effect.isQuiet, Effect.isPolicy]
          · simp

/-- Whatever comes of a creation: if it ends well its router is on the earliest free resource, with a
new binding; if that resource has no backend, nothing is called and nothing is left behind. -/
theorem router_sited (booked : world.Booked policy bindings backend) (registry : Registry)
    (ctx : Context) (request : Router.Request) (pool : policy s = .localPool p) :
    ∃ log ended t, (create registry ctx request).Talks world s log ended t ∧
      (∀ router, ended = .ok router →
        ∃ r row, Sited policy bindings registry ctx request p log router s t r row) ∧
      ∀ r, Earliest p r → registry.contains r.descriptor = false →
        (∀ s, (world (.release ctx r.id) s).1 = ((policy s).release r.id).1.mapError .error) →
        World.Untouched policy bindings backend log s t ∧
          (ended = .error (.error (.unknownDescriptor r.descriptor)) ∨ ∃ failure,
            (world (.acquire ctx routerType) s).1 = .error failure ∧ ended = .error failure) := by
  obtain ⟨log, ended, t, talks⟩ := Procedure.Talks.run world (create registry ctx request) s
  refine ⟨log, ended, t, talks, ?_, ?_⟩
  · rintro router rfl
    exact create_sited booked pool talks
  · intro r earliest unknown works
    obtain ⟨_, failure, _, whole, untouched, cause⟩ :=
      create_unregistered booked pool earliest unknown works
    obtain ⟨rfl, rfl, rfl⟩ := talks.unique whole
    refine ⟨untouched, ?_⟩
    cases cause with
    | inl same => exact .inl (congrArg Except.error same)
    | inr refused => exact .inr ⟨failure, refused, rfl⟩

end Dispatch

namespace State

variable {hazard : Hazard} {s t : State} {ctx : Context}

theorem Step.acquire_comes {type : String} {o : Effect.Outcome (.acquire ctx type)}
    (step : Step hazard (.acquire ctx type) s o t) :
    World.Comes (s.policy.acquire type).1 (s.policy.acquire type).2 s.policy o t.policy := by
  cases step with
  | happened => exact .happened
  | struck _ _ failure => exact .failed failure

theorem Step.release_comes {id : String} {o : Effect.Outcome (.release ctx id)}
    (step : Step hazard (.release ctx id) s o t) :
    World.Comes (s.policy.release id).1 (s.policy.release id).2 s.policy o t.policy := by
  cases step with
  | happened => exact .happened
  | struck _ _ failure => exact .failed failure

theorem Step.add_comes {a : Assignment} {o : Effect.Outcome (.store (.add a))}
    (step : Step hazard (.store (.add a)) s o t) : World.Comes (s.store.ledger.add a s.now).1
      (s.store.ledger.add a s.now).2 s.store.ledger o t.store.ledger := by
  obtain ⟨faults, rfl, rfl⟩ | ⟨failure, faults, rfl, rfl, -⟩ := step.store
  · exact .happened
  · exact .failed failure

theorem Step.policy_eq {op : Store.Op} {o : Effect.Outcome (.store op)}
    (step : Step hazard (.store op) s o t) : t.policy = s.policy := by
  obtain ⟨faults, rfl, rfl⟩ | ⟨failure, faults, rfl, rfl, -⟩ := step.store <;> rfl

/-- Whatever faults wait, the pool and the table of a state are kept as a broker keeps them. -/
theorem performUnder_booked (w : Schedule) : World.Booked (performUnder w) (·.policy)
    (·.store.ledger) (fun descriptor s => s.backends.get? descriptor) := by
  have steps : w.Moves (Step .any) := Schedule.Within.moves fun _ _ _ _ => trivial
  refine { performUnder_parted w with
    acquired := fun ctx type s => (steps (.acquire ctx type) s).acquire_comes
    released := fun ctx id s => (steps (.release ctx id) s).release_comes
    added := fun a s => ⟨s.now, (steps (.store (.add a)) s).add_comes⟩
    policy_apart := fun op s => (steps (.store op) s).policy_eq
    bindings_apart := ?_ }
  intro e s policy
  have other : ∀ op, e ≠ .store op := by
    rintro op rfl
    cases policy
  exact congrArg Store.ledger ((steps e s).store_eq other)

/-! ## One resource -/

/-- A free resource with some metadata. -/
def onEast (metadata : Metadata) : Resource := ⟨"instance-1", "router", false, "east", metadata⟩

def beforeCreation (metadata : Metadata) : State :=
  .initial (.localPool (.single (onEast metadata))) .inMemory twoBackends ⟨0⟩

/-- A request with a key of its own and one that belongs to the resource. -/
def spoofed : Router.Request :=
  ⟨some "edge", .ofList [("tag", .string "x"), ("zone", .string "b")], ∅⟩

/-- The router has the resource's zone and the request's tag; its binding has the zone alone. -/
theorem spoofed_router_sited :
    let zone : Metadata := .ofList [("zone", .string "a")]
    let s := beforeCreation zone
    let router : Router :=
      ⟨IdSupply.name 0, some "edge", .ofList [("tag", .string "x"), ("zone", .string "a")], ∅⟩
    s.policy = .localPool (.single (onEast zone)) ∧ ∃ log t r row,
      (Dispatch.create twoHomes default spoofed).Talks (performUnder .calm) s log (.ok router) t ∧
      Dispatch.Sited (·.policy) (·.store.ledger) twoHomes default spoofed (.single (onEast zone)) log
        router s t r row ∧ row.metadata = some "\x7b\"zone\":\"a\"\x7d" := by
  intro zone s router
  have pool : s.policy = .localPool (.single (onEast zone)) := rfl
  obtain ⟨log, ended, t, talks, sited, -⟩ :=
    Dispatch.router_sited (performUnder_booked .calm) twoHomes default spoofed pool
  have ran : ((ExceptT.run (Dispatch.create twoHomes default spoofed)).run (performUnder .calm) s).1 =
      .ok router := by decide +kernel
  rw [talks.ends] at ran
  obtain ⟨r, row, sited⟩ := sited router ran
  obtain rfl : r = onEast zone := by
    obtain ⟨before, after, split, -⟩ := sited.earliest.split
    have member : r ∈ (Pool.single (onEast zone)).entries := by simp [split]
    exact List.mem_singleton.1 member
  refine ⟨pool, log, t, _, row, ran ▸ talks, sited, sited.binds.metadata.trans ?_⟩
  decide +kernel

/-- A binding may have other metadata than its resource: a double that is printed and read again need
not be the same. -/
theorem created_double_differs :
    let s := beforeCreation (reading drifting)
    let ended := s.runUnder .calm (Dispatch.create twoHomes default .empty)
    let router : Router := ⟨IdSupply.name 0, none, reading drifting, ∅⟩
    Dispatch.Earliest (.single (onEast (reading drifting))) (onEast (reading drifting)) ∧
      ended.1 = .ok router ∧ (ended.2.store.ledger.get router.id).map (·.placement.metadata) =
        .ok (some (reading drifted)) ∧
      reading drifting ≠ reading drifted := by
  intro s ended router
  refine ⟨⟨rfl, rfl, [], [], rfl, nofun⟩, ?_, ?_, ?_⟩
  · decide +kernel
  · decide +kernel
  · decide +kernel

end State
end Brokerage
