import Brokerage.Proofs.Directory

/-! # Bindings, resources and routers, one to one

After every operation the active bindings, the resources that are handed out and the routers that
the backends hold correspond to each other, whatever lookup went wrong.
-/

namespace Brokerage.State

/-- The ids of the routers on the backend of a descriptor. -/
def routerIds (s : State) (descriptor : String) : List String :=
  (s.routersAt descriptor).map (·.id)

/-- Active bindings, handed out resources and held routers correspond to each other. -/
structure Aligned (registry : Registry) (s : State) : Prop where
  /-- A binding is for a router, on a handed out resource with the binding's descriptor. -/
  onResource : ∀ row ∈ s.store.ledger.actives, row.resourceType = "router" ∧
    ∃ r ∈ s.pool.entries, r.id = row.resourceId ∧ r.allocated = true ∧
      r.descriptor = row.descriptor
  /-- The backend of its descriptor, and no other one, holds the router. -/
  onBackend : ∀ row ∈ s.store.ledger.actives, registry.contains row.descriptor = true ∧
    ∀ descriptor, row.objectId ∈ s.routerIds descriptor ↔ descriptor = row.descriptor
  /-- No two bindings share a resource. -/
  resources : (s.store.ledger.actives.map (·.resourceId)).Nodup
  /-- No two bindings share a router. -/
  objects : (s.store.ledger.actives.map (·.objectId)).Nodup
  /-- Nothing else is handed out. -/
  handedOut : ∀ r ∈ s.pool.entries, r.allocated = true →
    ∃ row ∈ s.store.ledger.actives, row.resourceId = r.id
  /-- Nothing else is held, and nothing twice. -/
  held : ∀ descriptor, (s.routerIds descriptor).Nodup ∧ ∀ id ∈ s.routerIds descriptor,
    ∃ row ∈ s.store.ledger.actives, row.descriptor = descriptor ∧ row.objectId = id

variable {registry : Registry} {seed : Pool} {base : IdSupply} {placed : List (String × Router)}
  {s : State}

theorem Housed.mem_routerIds (h : s.Housed registry base placed) {descriptor id : String} :
    id ∈ s.routerIds descriptor ↔ ∃ r, (descriptor, r) ∈ placed ∧ r.id = id := by
  simp only [routerIds, List.mem_map, h.mem_routersAt]

theorem Housed.home_unique (h : s.Housed registry base placed) {one other id : String}
    (here : id ∈ s.routerIds one) (there : id ∈ s.routerIds other) : one = other := by
  obtain ⟨r, hr, rfl⟩ := h.mem_routerIds.1 here
  obtain ⟨x, hx, same⟩ := h.mem_routerIds.1 there
  exact congrArg Prod.fst (h.eq_of_id hr hx same.symm)

theorem descriptor_eq {p : Pool} (blank : p.blank = seed.entries) {r entry : Resource}
    (hr : r ∈ p.entries) (member : entry ∈ seed.entries) (same : entry.id = r.id) :
    r.descriptor = entry.descriptor := by
  have seeded : ({ r with allocated := false } : Resource) ∈ seed.entries :=
    blank ▸ List.mem_map_of_mem hr
  have equal : ({ r with allocated := false } : Resource) = entry :=
    Pool.entry_unique seeded member same.symm
  rw [← equal]

theorem Mirrors.aligned (h : s.Mirrors registry seed base placed) : s.Aligned registry := by
  obtain ⟨l, ⟨booked, housed⟩, matched⟩ := h
  obtain ⟨p, pool, blank, coupling⟩ := booked.pool
  obtain rfl := booked.ledger
  have taken : p.taken.Perm s.store.ledger.bound := coupling.taken
  have entries : s.pool.entries = p.entries := by simp [State.pool, pool]
  constructor
  case onResource =>
    intro row member
    have proper := booked.proper row member
    obtain ⟨entry, seeded, same, descriptor⟩ := proper.placed
    have handed : row.resourceId ∈ p.taken := taken.mem_iff.2 (List.mem_map_of_mem member)
    obtain ⟨r, hr, given, id⟩ := Pool.mem_taken.1 handed
    have kept := descriptor_eq blank hr seeded (same.trans id.symm)
    exact ⟨proper.router, r, entries ▸ hr, id, given, kept.trans descriptor⟩
  case onBackend =>
    intro row member
    refine ⟨(booked.proper row member).registered, fun descriptor => ?_⟩
    obtain ⟨r, inside, object⟩ := matched.placed_of_row member
    rw [housed.mem_routerIds]
    constructor
    · rintro ⟨other, elsewhere, same⟩
      exact congrArg Prod.fst (housed.eq_of_id elsewhere inside (same.trans object.symm))
    · rintro rfl
      exact ⟨r, inside, object⟩
  case resources => exact taken.nodup_iff.1 p.taken_nodup
  case objects => exact coupling.sound.single
  case handedOut =>
    intro r hr given
    have handed : r.id ∈ p.taken := Pool.mem_taken.2 ⟨r, entries ▸ hr, given, rfl⟩
    exact List.mem_map.1 (taken.mem_iff.1 handed)
  case held =>
    refine fun descriptor => ⟨housed.ids_nodup descriptor, fun id member => ?_⟩
    obtain ⟨r, inside, rfl⟩ := housed.mem_routerIds.1 member
    exact matched.row_of_placed inside

/-- From a fresh start, whatever operations are run and whatever lookups go wrong, the active
bindings, the handed out resources and the held routers correspond to each other, as long as no id
is given out twice. -/
theorem stores_aligned {registry : Registry} {seed : Pool} {store : Store} {backends : Dict Backend}
    {w : Schedule} (fresh : Fresh registry seed store backends) (hw : w.Within .lookups)
    (ids : IdSupply) (ops : List (Context × Dispatch.Operation)) :
    let start := State.initial (.localPool seed) store backends ids
    ids.NoRepeat (start.operate w registry ops).ids →
      (start.operate w registry ops).Aligned registry := by
  intro start unique
  obtain ⟨_, held, _⟩ := (fresh.mirrors ids).operate hw fresh.readable ops unique
  exact held.aligned

/-- The western backend panics until something was rolled back. -/
def westPanics : Schedule := fun s =>
  if s.counters.rollbacks = 0 then
    .ofList [("backend.west.create_router", (.panic "down", 1))]
  else ∅

theorem westPanics_within : westPanics.Within .lookups := by
  refine Schedule.within_lookups fun s point waiting found => ?_
  unfold westPanics at found
  split at found
  · simp only [Dict.ofList, List.foldl, Dict.get?_insert, Dict.get?_empty] at found
    split at found
    · rename_i same
      rw [same]
      decide
    · cases found
  · cases found

/-- Two creations, the second of which panics, and a third one. -/
def threeCreations : List (Context × Dispatch.Operation) :=
  List.replicate 3 (default, .create .empty)

theorem stores_aligned_after_panic :
    let t := (State.initial (.localPool twoResources) .inMemory twoBackends ⟨0⟩).operate westPanics
      twoHomes threeCreations
    t.Aligned twoHomes ∧ t.pool.taken = ["r1", "r2"] := by
  refine ⟨stores_aligned twoHomes_fresh westPanics_within ⟨0⟩ threeCreations ?_, ?_⟩
  · exact IdSupply.noRepeat rfl (by decide +kernel)
  · decide +kernel

/-- A creation fails after its binding was recorded, if the binding cannot be read back: the resource
is given back although it is bound. -/
theorem deep_resource_unaligned :
    let t := (State.initial (.localPool deepResource) .inMemory twoBackends ⟨0⟩).operate .calm
      twoHomes [(default, .create .empty)]
    Start twoHomes deepResource .inMemory twoBackends ∧ IdSupply.NoRepeat ⟨0⟩ t.ids ∧
      t.pool.taken = [] ∧ t.store.ledger.bound = ["r1"] ∧ ¬t.Aligned twoHomes := by
  intro t
  obtain ⟨taken, bound, given⟩ : t.pool.taken = [] ∧ t.store.ledger.bound = ["r1"] ∧
      t.ids.next ≤ 16 ^ 32 := by decide +kernel
  refine ⟨twoHomes_start (by decide), IdSupply.noRepeat rfl given, taken, bound, ?_⟩
  intro aligned
  have named : "r1" ∈ t.store.ledger.bound := by
    rw [bound]
    exact List.mem_singleton_self _
  obtain ⟨row, member, _⟩ := List.mem_map.1 named
  obtain ⟨_, r, inside, _, given, _⟩ := aligned.onResource row member
  have handed : r.id ∈ t.pool.taken := Pool.mem_taken.2 ⟨r, inside, given, rfl⟩
  rw [taken] at handed
  cases handed

end Brokerage.State
