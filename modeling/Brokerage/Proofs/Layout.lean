import Brokerage.Proofs.Backend
import Brokerage.Proofs.Coupling
import Brokerage.Proofs.Identity

/-! # Routers, bindings and resources

The books are right when every active binding is proper: for a router, on a resource of the pool,
with the descriptor of that resource. The houses are right when the backends hold the routers that
were placed on them and no others. The pool and the bindings are booked, the backends housed, and
each effect touches one of the two.
-/

namespace Brokerage

/-- A binding for a router, on a resource of the pool, with the descriptor of that resource. -/
structure Ledger.Row.Proper (registry : Registry) (seed : Pool) (row : Ledger.Row) : Prop where
  router : row.resourceType = Resource.routerType
  registered : registry.contains row.descriptor = true
  placed : ∃ r ∈ seed.entries, r.id = row.resourceId ∧ r.descriptor = row.descriptor
  readable : ∃ b, row.toBinding = .ok b

def State.routersAt (s : State) (descriptor : String) : List Router :=
  ((s.backends.get? descriptor).map (·.routers)).getD []

def placedAt (placed : List (String × Router)) (descriptor : String) : List Router :=
  (placed.filter (·.1 = descriptor)).map (·.2)

theorem mem_placedAt {placed : List (String × Router)} {descriptor : String} {r : Router} :
    r ∈ placedAt placed descriptor ↔ (descriptor, r) ∈ placed := by
  simp only [placedAt, List.mem_map, List.mem_filter, decide_eq_true_eq]
  constructor
  · rintro ⟨⟨_, _⟩, ⟨member, rfl⟩, rfl⟩
    exact member
  · exact fun member => ⟨_, ⟨member, rfl⟩, rfl⟩

/-- The pool and the bindings agree, but for resources that are handed out and not bound. -/
structure State.Booked (registry : Registry) (seed : Pool) (l : Ledger) (unbound : List String)
    (s : State) : Prop where
  pool : ∃ p, s.policy = .localPool p ∧ p.blank = seed.entries ∧ Coupling p l unbound
  ledger : s.store.ledger = l
  usable : s.store.Usable
  proper : ∀ row ∈ l.actives, row.Proper registry seed

/-- The backends hold what was placed on them, under ids that were generated for it. -/
structure State.Housed (registry : Registry) (base : IdSupply) (placed : List (String × Router))
    (s : State) : Prop where
  homes : ∀ descriptor, registry.contains descriptor = true → (s.backends.get? descriptor).isSome
  hosted : ∀ descriptor, (s.routersAt descriptor).Perm (placedAt placed descriptor)
  distinct : (placed.map (·.2.id)).Nodup
  started : base ≤ s.ids
  generated : ∀ x ∈ placed, base.Issued s.ids x.2.id

/-- Looking for a resource, for a binding or on a backend goes wrong, nothing else does. -/
def Effect.isLookup : Effect → Bool
  | .acquire .. | .store (.get _) | .store (.list _) | .backend .. => true
  | _ => false

namespace Hazard

/-- Lookups go wrong, in whatever way. -/
def lookups : Hazard := fun e fault => e.isLookup = true ∨ fault.failure? = Option.none

theorem lookups_spare {e : Effect} {failure : Failure} (other : e.isLookup = false) :
    ¬lookups.Hits e failure := by
  rintro ⟨fault, looked | passed, ends⟩
  · rw [other] at looked
    cases looked
  · rw [passed] at ends
    cases ends

end Hazard

/-- Faults that wait elsewhere hit lookups alone. -/
theorem Schedule.within_lookups {w : Schedule}
    (h : ∀ s point waiting, (w s).get? point = some waiting →
      point ∉ ["policy.release", "store.add", "store.update", "store.delete", "store.health"]) :
    w.Within .lookups := by
  refine Schedule.within_points fun s e point fault times passed waiting => .inl ?_
  have spared := h s point _ waiting
  cases e with
  | acquire | backend => rfl
  | release =>
      cases passed
      simp at spared
  | store op => cases op <;> first | rfl | (cases passed; simp at spared)
  | count | readCounters => cases passed

namespace State

variable {registry : Registry} {seed : Pool} {l : Ledger} {unbound : List String} {s t : State}
  {ctx : Context} {id objectId : String} {hazard : Hazard} {faults : Faults} {row : Ledger.Row}

namespace Booked

theorem congr (h : s.Booked registry seed l unbound) (policy : t.policy = s.policy)
    (store : t.store = s.store) : t.Booked registry seed l unbound where
  pool := policy ▸ h.pool
  ledger := store ▸ h.ledger
  usable := store ▸ h.usable
  proper := h.proper

theorem acquire {o : Effect.Outcome (.acquire ctx Resource.routerType)}
    (h : s.Booked registry seed l unbound)
    (step : Step hazard (.acquire ctx Resource.routerType) s o t) :
    (∃ r ∈ seed.entries, r.type = Resource.routerType ∧ o = .ok r.given ∧
      t.Booked registry seed l (r.id :: unbound)) ∨
      ∃ failure, o = .error failure ∧ t.Booked registry seed l unbound := by
  obtain ⟨p, pool, blank, coupling⟩ := h.pool
  rcases step.acquire pool with ⟨r, faults, found, rfl, rfl⟩ | ⟨failure, faults, rfl, rfl⟩
  · obtain ⟨member, unused, type⟩ := Pool.find?_isFree found
    have seeded : r ∈ seed.entries := by
      rw [← blank]
      exact List.mem_map.2 ⟨r, member, by rw [← unused]⟩
    exact .inl ⟨r, seeded, type, rfl,
      ⟨_, rfl, Pool.blank_mark.trans blank, coupling.acquire found⟩, h.ledger, h.usable, h.proper⟩
  · exact .inr ⟨failure, rfl, h.congr rfl rfl⟩

theorem release {o : Effect.Outcome (.release ctx id)}
    (h : s.Booked registry seed l (id :: unbound))
    (step : Step .lookups (.release ctx id) s o t) :
    o = .ok () ∧ t.Booked registry seed l unbound := by
  obtain ⟨p, pool, blank, coupling⟩ := h.pool
  rcases step.release pool with ⟨faults, rfl, rfl⟩ | ⟨failure, faults, rfl, rfl, unknown | hits⟩
  · exact ⟨rfl, ⟨_, rfl, Pool.blank_mark.trans blank, coupling.release⟩, h.ledger, h.usable, h.proper⟩
  · have taken : id ∈ p.taken := coupling.taken.mem_iff.2 List.mem_cons_self
    obtain ⟨r, member, _, same⟩ := Pool.mem_taken.1 taken
    have known := Pool.find?_isSome.2 (List.mem_map.2 ⟨r, member, same⟩)
    rw [unknown] at known
    cases known
  · exact absurd hits (Hazard.lookups_spare rfl)

theorem add {a : Assignment} {o : Effect.Outcome (.store (.add a))}
    (h : s.Booked registry seed l (a.placement.resourceId :: unbound))
    (new : l.active? a.objectId = none) (proper : ∀ now, (l.newRow a now).Proper registry seed)
    (step : Step .lookups (.store (.add a)) s o t) :
    (∃ b, o = .ok b) ∧ t.Booked registry seed (l.append (l.newRow a s.now)) unbound := by
  obtain ⟨p, pool, blank, coupling⟩ := h.pool
  have add := step.add
  rw [h.ledger] at add
  rcases add with ⟨faults, _, rfl, rfl⟩ | ⟨failure, faults, rfl, rfl, known | broken | hits⟩
  · obtain ⟨b, readable⟩ := (proper s.now).readable
    refine ⟨⟨b, by rw [readable]; rfl⟩, ⟨p, pool, blank, ?_⟩, rfl, h.usable.withLedger, ?_⟩
    · exact coupling.append rfl (Ledger.newRow_numbered a) new
    · intro row member
      rw [Ledger.actives_append rfl] at member
      rcases List.mem_append.1 member with member | member
      · exact h.proper row member
      · rw [List.mem_singleton.1 member]
        exact proper s.now
  · rw [new] at known
    cases known
  · exact absurd h.usable broken
  · exact absurd hits (Hazard.lookups_spare rfl)

theorem get {o : Effect.Outcome (.store (.get objectId))} (h : s.Booked registry seed l unbound)
    (step : Step hazard (.store (.get objectId)) s o t) : t.Booked registry seed l unbound ∧
      (o = (l.get objectId).mapError .error ∨
        ∃ failure, o = .error failure ∧ hazard.Hits (.store (.get objectId)) failure) := by
  obtain ⟨⟨faults, rfl⟩, answered⟩ := step.get
  refine ⟨h.congr rfl rfl, ?_⟩
  rcases answered with answered | ⟨failure, failed, broken | hits⟩
  · exact .inl (h.ledger ▸ answered)
  · exact absurd h.usable broken
  · exact .inr ⟨failure, failed, hits⟩

theorem delete {o : Effect.Outcome (.store (.delete objectId))}
    (h : s.Booked registry seed l unbound) (found : l.active? objectId = some row)
    (step : Step .lookups (.store (.delete objectId)) s o t) :
    o = .ok () ∧ t.Booked registry seed (l.modifyActive objectId (·.retire s.now))
      (row.resourceId :: unbound) := by
  obtain ⟨p, pool, blank, coupling⟩ := h.pool
  have delete := step.delete
  rw [h.ledger] at delete
  rcases delete with ⟨_, faults, _, rfl, rfl⟩ | ⟨failure, faults, rfl, rfl, missing | broken | hits⟩
  · refine ⟨rfl, ⟨p, pool, blank, coupling.retire found⟩, rfl, h.usable.withLedger,
      fun other member => ?_⟩
    rw [Ledger.actives_retire coupling.sound.numbered] at member
    exact h.proper other (List.mem_of_mem_filter member)
  · rw [found] at missing
    cases missing
  · exact absurd h.usable broken
  · exact absurd hits (Hazard.lookups_spare rfl)

end Booked
namespace Housed

variable {base bound : IdSupply} {placed : List (String × Router)} {descriptor : String}
  {r : Router} {request : Router.Request}

theorem congr (h : s.Housed registry base placed) (backends : t.backends = s.backends)
    (ids : t.ids = s.ids) : t.Housed registry base placed where
  homes := backends ▸ h.homes
  hosted := fun descriptor => by
    simpa only [routersAt, backends] using h.hosted descriptor
  distinct := h.distinct
  started := ids ▸ h.started
  generated := ids ▸ h.generated

theorem mem_routersAt (h : s.Housed registry base placed) :
    r ∈ s.routersAt descriptor ↔ (descriptor, r) ∈ placed :=
  (h.hosted descriptor).mem_iff.trans mem_placedAt

theorem ids_nodup (h : s.Housed registry base placed) (descriptor : String) :
    ((s.routersAt descriptor).map (·.id)).Nodup := by
  refine ((h.hosted descriptor).map (·.id)).nodup_iff.2 ?_
  simp only [placedAt, List.map_map]
  exact h.distinct.sublist (List.filter_sublist.map _)

theorem eq_of_id (h : s.Housed registry base placed) {x y : String × Router} (hx : x ∈ placed)
    (hy : y ∈ placed) (same : x.2.id = y.2.id) : x = y :=
  List.inj_on_of_nodup_map h.distinct hx hy same

theorem routersAt_eq {b : Backend} (known : s.backends.get? descriptor = some b) :
    s.routersAt descriptor = b.routers := by
  simp [routersAt, known]

theorem routersAt_withBackend {b : Backend} {ids : IdSupply} (other : String) :
    (s.withBackend descriptor b ids).routersAt other =
      if other = descriptor then b.routers else s.routersAt other := by
  simp only [routersAt, withBackend, Dict.get?_insert]
  split <;> rfl

/-- Another backend at a place, with routers that fit, on ids that only moved on. -/
theorem withBackend {b : Backend} {ids : IdSupply} {placed' : List (String × Router)}
    (h : s.Housed registry base placed) (later : s.ids ≤ ids)
    (here : b.routers.Perm (placedAt placed' descriptor))
    (there : ∀ other, other ≠ descriptor →
      (placedAt placed other).Perm (placedAt placed' other))
    (distinct : (placed'.map (·.2.id)).Nodup)
    (generated : ∀ x ∈ placed', base.Issued ids x.2.id) :
    (s.withBackend descriptor b ids).Housed registry base placed' where
  homes := fun other registered => by
    simp only [State.withBackend, Dict.get?_insert]
    split
    · rfl
    · exact h.homes other registered
  hosted := fun other => by
    rw [routersAt_withBackend]
    split
    · rename_i same
      exact same ▸ here
    · rename_i elsewhere
      exact (h.hosted other).trans (there other elsewhere)
  distinct := distinct
  started := h.started.trans later
  generated := generated

theorem gentle {call : Backend.Call} {o : Effect.Outcome (.backend descriptor call ctx)}
    (h : s.Housed registry base placed) (isGentle : call.isGentle = true)
    (step : Step hazard (.backend descriptor call ctx) s o t) :
    t.Housed registry base placed := by
  rcases step.backend with ⟨b, faults, known, _, rfl⟩ | ⟨_, faults, _, rfl, _⟩
  · have same : (b.answer s.ids call).2.1.routers = _ := Backend.answer_gentle isGentle
    have later : s.ids ≤ _ := b.answer_ids_le call
    refine .congr (h.withBackend later ?_ (fun _ _ => .refl _) h.distinct ?_) rfl rfl
    · rw [same, ← routersAt_eq known]
      exact h.hosted descriptor
    · exact fun x member => (h.generated x member).until later
  · exact h.congr rfl rfl

theorem fresh (h : s.Housed registry base placed)
    (unique : base.NoRepeat bound) (room : s.ids.take.2 ≤ bound) :
    ∀ x ∈ placed, x.2.id ≠ s.ids.take.1 := by
  intro x member same
  exact unique.not_issued h.started (same ▸ h.generated x member) (s.ids.issued_take.until room)

theorem create {o : Effect.Outcome (.backend descriptor (.create request) ctx)}
    (h : s.Housed registry base placed) (unique : base.NoRepeat bound)
    (step : Step hazard (.backend descriptor (.create request) ctx) s o t)
    (room : t.ids ≤ bound) :
    (∃ r, o = .ok r ∧ (∀ x ∈ placed, x.2.id ≠ r.id) ∧
      t.Housed registry base ((descriptor, r) :: placed)) ∨
      ∃ failure, o = .error failure ∧ t.Housed registry base placed := by
  rcases step.backend with ⟨b, faults, known, rfl, rfl⟩ | ⟨failure, faults, rfl, rfl, _⟩
  · have new := h.fresh unique room
    let r := Router.ofRequest s.ids.take.1 request
    have absent : ∀ other ∈ b.routers, other.id ≠ r.id := fun other member =>
      new (descriptor, other) (h.mem_routersAt.1 (routersAt_eq known ▸ member))
    have inserted : (b.insert r).routers = b.routers ++ [r] := Backend.insert_routers absent
    refine .inl ⟨r, rfl, new, .congr (h.withBackend s.ids.le_take ?_ ?_ ?_ ?_) rfl rfl⟩
    · have here := (h.hosted descriptor).cons r
      rw [routersAt_eq known] at here
      have there : placedAt ((descriptor, r) :: placed) descriptor =
          r :: placedAt placed descriptor := by simp [placedAt]
      rw [there]
      exact inserted ▸ (List.perm_append_singleton r b.routers).trans here
    · intro other elsewhere
      simp [placedAt, elsewhere.symm]
    · exact List.nodup_cons.2 ⟨fun member => by
        obtain ⟨x, hx, same⟩ := List.mem_map.1 member
        exact new x hx same, h.distinct⟩
    · intro x member
      rcases List.mem_cons.1 member with rfl | member
      · exact s.ids.issued_take.since h.started
      · exact (h.generated x member).until s.ids.le_take
  · exact .inr ⟨failure, rfl, h.congr rfl rfl⟩

/-- A router after a change to the one of an id. -/
def revise (id : String) (request : Router.Request) (r : Router) : Router :=
  if r.id = id then r.update request else r

theorem revise_id (id : String) (request : Router.Request) (r : Router) :
    (revise id request r).id = r.id := by
  unfold revise
  split <;> rfl

/-- The placed routers after a change to the one of an id. -/
def revised (id : String) (request : Router.Request) (placed : List (String × Router)) :
    List (String × Router) :=
  placed.map fun x => (x.1, revise id request x.2)

def without (id : String) (placed : List (String × Router)) : List (String × Router) :=
  placed.filter (·.2.id != id)

theorem placedAt_revised : placedAt (revised id request placed) descriptor =
    (placedAt placed descriptor).map (revise id request) := by
  simp [placedAt, revised, List.filter_map, Function.comp_def]

theorem placedAt_without : placedAt (without id placed) descriptor =
    (placedAt placed descriptor).filter (·.id != id) := by
  simp only [placedAt, without, List.filter_filter, List.filter_map, Function.comp_def]
  congr 1
  apply List.filter_congr
  intro x _
  exact Bool.and_comm _ _

theorem elsewhere (h : s.Housed registry base placed) (here : (descriptor, r) ∈ placed)
    {other : String} (apart : other ≠ descriptor) :
    ∀ x ∈ placedAt placed other, x.id ≠ r.id := by
  intro x member same
  have equal := h.eq_of_id (mem_placedAt.1 member) here same
  exact apart (congrArg Prod.fst equal)

theorem update {o : Effect.Outcome (.backend descriptor (.update id request) ctx)}
    (h : s.Housed registry base placed)
    (step : Step hazard (.backend descriptor (.update id request) ctx) s o t) :
    (∃ r, (descriptor, r) ∈ placed ∧ r.id = id ∧ o = .ok (r.update request) ∧
      t.Housed registry base (revised id request placed)) ∨
      ∃ failure, o = .error failure ∧ t.Housed registry base placed := by
  rcases step.backend with ⟨b, faults, known, ho, rfl⟩ | ⟨failure, faults, rfl, rfl, _⟩
  · rcases b.answer_update s.ids id request with ⟨r, member, rfl, b', answer, routers⟩ | ⟨_, answer⟩
    · rw [answer] at ho ⊢
      have here : (descriptor, r) ∈ placed := h.mem_routersAt.1 (routersAt_eq known ▸ member)
      refine .inl ⟨r, here, rfl, ho, .congr (h.withBackend (le_refl _) ?_ ?_ ?_ ?_) rfl rfl⟩
      · have same : b'.routers = b.routers.map (revise r.id request) := by
          rw [routers]
          apply List.map_congr_left
          intro x inside
          unfold revise
          split
          · rename_i hit
            have equal := h.eq_of_id (h.mem_routersAt.1 (routersAt_eq known ▸ inside)) here hit
            cases equal
            rfl
          · rfl
        rw [same, placedAt_revised, ← routersAt_eq known]
        exact (h.hosted descriptor).map _
      · intro other apart
        rw [placedAt_revised]
        conv_lhs => rw [← List.map_id (placedAt placed other)]
        refine .of_eq (List.map_congr_left fun x member => ?_)
        simp [revise, h.elsewhere here apart x member]
      · simpa [revised, Function.comp_def, revise_id] using h.distinct
      · intro x member
        obtain ⟨y, hy, rfl⟩ := List.mem_map.1 member
        simpa [revise_id] using h.generated y hy
    · rw [answer] at ho ⊢
      exact .inr ⟨_, ho, .congr (h.withBackend (le_refl _) (routersAt_eq known ▸ h.hosted _)
        (fun _ _ => .refl _) h.distinct h.generated) rfl rfl⟩
  · exact .inr ⟨failure, rfl, h.congr rfl rfl⟩

theorem delete {o : Effect.Outcome (.backend descriptor (.delete id) ctx)}
    (h : s.Housed registry base placed)
    (step : Step hazard (.backend descriptor (.delete id) ctx) s o t) :
    ((∃ r, (descriptor, r) ∈ placed ∧ r.id = id) ∧ o = .ok () ∧
      t.Housed registry base (without id placed)) ∨
      ∃ failure, o = .error failure ∧ t.Housed registry base placed := by
  rcases step.backend with ⟨b, faults, known, ho, rfl⟩ | ⟨failure, faults, rfl, rfl, _⟩
  · rcases b.answer_delete s.ids id with ⟨r, member, rfl, b', answer, _, routers⟩ | ⟨_, answer⟩
    · rw [answer] at ho ⊢
      have here : (descriptor, r) ∈ placed := h.mem_routersAt.1 (routersAt_eq known ▸ member)
      refine .inl ⟨⟨r, here, rfl⟩, ho, .congr (h.withBackend (le_refl _) ?_ ?_ ?_ ?_) rfl rfl⟩
      · rw [routers, placedAt_without, ← routersAt_eq known]
        exact (h.hosted descriptor).filter _
      · intro other apart
        rw [placedAt_without]
        refine .of_eq (List.filter_eq_self.2 fun x member => ?_).symm
        simpa using h.elsewhere here apart x member
      · exact h.distinct.sublist (List.filter_sublist.map _)
      · exact fun x member => h.generated x (List.mem_of_mem_filter member)
    · rw [answer] at ho ⊢
      exact .inr ⟨_, ho, .congr (h.withBackend (le_refl _) (routersAt_eq known ▸ h.hosted _)
        (fun _ _ => .refl _) h.distinct h.generated) rfl rfl⟩
  · exact .inr ⟨failure, rfl, h.congr rfl rfl⟩

end Housed
end State
end Brokerage
