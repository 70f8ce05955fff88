import Brokerage.Proofs.Layout
import Brokerage.Proofs.Operations

/-! # The router interface keeps its three stores aligned

As long as nothing but lookups goes wrong, every operation leaves each active binding with one
handed out resource and one router on the backend of the resource's descriptor, and nothing else
handed out or held.
-/

namespace Brokerage

open Procedure (Ends)

theorem Registry.get_ok {registry : Registry} {descriptor name : String}
    (h : registry.get descriptor = .ok name) : registry.contains descriptor = true := by
  unfold Registry.get at h
  unfold Registry.contains Dict.contains
  cases found : registry.names.get? descriptor with
  | some _ => rfl
  | none => simp [found] at h

theorem Registry.get_of_contains {registry : Registry} {descriptor : String}
    (h : registry.contains descriptor = true) : ∃ name, registry.get descriptor = .ok name := by
  obtain ⟨name, found⟩ := Option.isSome_iff_exists.1 h
  exact ⟨name, by simp [Registry.get, found]⟩

namespace State

/-- Lookups go wrong, and ids are generated up to a point of the supply. -/
def Lookups (bound : IdSupply) : Moves := Moves.into (Step .lookups) (·.ids ≤ bound)

/-- The pool, the bindings and the backends as they are between two operations, and on the way. -/
structure Layout (registry : Registry) (seed : Pool) (base : IdSupply) (l : Ledger)
    (unbound : List String) (placed : List (String × Router)) (s : State) : Prop where
  booked : s.Booked registry seed l unbound
  housed : s.Housed registry base placed

variable {registry : Registry} {seed : Pool} {base bound : IdSupply} {l : Ledger}
  {unbound : List String} {placed : List (String × Router)} {s t : State} {ctx : Context}
  {id objectId descriptor : String} {row : Ledger.Row} {α : Type}

/-- Nothing is asked of the states on the way. -/
abbrev anyhow : State → Prop := fun _ => True

namespace Layout

theorem numbered (h : s.Layout registry seed base l unbound placed) :
    ∀ row ∈ l.rows, row.id ≠ 0 :=
  let ⟨_, _, _, coupling⟩ := h.booked.pool
  coupling.sound.numbered

theorem keeps_count {event : Counters.Event}
    (h : s.Layout registry seed base l unbound placed) :
    (Procedure.count event).Keeps (Lookups bound) anyhow s <| Ends
      (fun _ t => t.Layout registry seed base l unbound placed) fun _ => False := by
  refine .perform trivial fun o t step => ⟨trivial, ?_⟩
  obtain ⟨faults, rfl, rfl⟩ := step.1.count
  exact ⟨h.booked.congr rfl rfl, h.housed.congr rfl rfl⟩

theorem keeps_acquire (h : s.Layout registry seed base l unbound placed) :
    (Procedure.acquire ctx Resource.routerType).Keeps (Lookups bound) anyhow s <| Ends
      (fun r t => (∃ entry ∈ seed.entries, entry.type = Resource.routerType ∧
        r = entry.given) ∧
        t.Layout registry seed base l (r.id :: unbound) placed)
      (·.Layout registry seed base l unbound placed) := by
  refine .perform trivial fun o t step => ⟨trivial, ?_⟩
  have frame := step.1.backends_eq nofun
  have housed := h.housed.congr frame.1 frame.2
  rcases h.booked.acquire step.1 with ⟨entry, member, type, rfl, booked⟩ | ⟨_, rfl, booked⟩
  · exact ⟨⟨entry, member, type, rfl⟩, booked, housed⟩
  · exact ⟨booked, housed⟩

theorem keeps_release (h : s.Layout registry seed base l (id :: unbound) placed) :
    (Procedure.release ctx id).Keeps (Lookups bound) anyhow s <| Ends
      (fun _ t => t.Layout registry seed base l unbound placed) fun _ => False := by
  refine .perform trivial fun o t step => ⟨trivial, ?_⟩
  have frame := step.1.backends_eq nofun
  obtain ⟨rfl, booked⟩ := h.booked.release step.1
  exact ⟨booked, h.housed.congr frame.1 frame.2⟩

theorem keeps_rollback (h : s.Layout registry seed base l (id :: unbound) placed) :
    (Broker.rollback ctx id).Keeps (Lookups bound) anyhow s fun _ t =>
      t.Layout registry seed base l unbound placed := by
  refine .bind_sure h.keeps_count fun _ t held => .bind_sure held.keeps_count fun _ t held => ?_
  exact .ignoreError held.keeps_release (fun _ _ held => held) (fun _ _ never => never.elim)
    fun _ _ never => never.elim

theorem keeps_add {a : Assignment}
    (h : s.Layout registry seed base l (a.placement.resourceId :: unbound) placed)
    (new : l.active? a.objectId = none) (proper : ∀ now, (l.newRow a now).Proper registry seed) :
    (Procedure.addBinding a).Keeps (Lookups bound) anyhow s <| Ends
      (fun _ t => t.Layout registry seed base (l.append (l.newRow a s.now)) unbound placed)
      fun _ => False := by
  refine .perform trivial fun o t step => ⟨trivial, ?_⟩
  have frame := step.1.backends_eq nofun
  obtain ⟨⟨b, rfl⟩, booked⟩ := h.booked.add new proper step.1
  exact ⟨booked, h.housed.congr frame.1 frame.2⟩

theorem keeps_get (h : s.Layout registry seed base l unbound placed) :
    (Procedure.getBinding objectId).Keeps (Lookups bound) anyhow s <| Ends
      (fun b t => (∃ row, l.active? objectId = some row ∧
        b.placement.resourceId = row.resourceId ∧ b.placement.descriptor = row.descriptor) ∧
        t.Layout registry seed base l unbound placed)
      (·.Layout registry seed base l unbound placed) := by
  refine .perform trivial fun o t step => ⟨trivial, ?_⟩
  have frame := step.1.backends_eq nofun
  have housed := h.housed.congr frame.1 frame.2
  obtain ⟨booked, rfl | ⟨_, rfl, _⟩⟩ := h.booked.get step.1
  · cases read : l.get objectId with
    | error e => exact ⟨booked, housed⟩
    | ok b =>
        obtain ⟨row, found, readable⟩ := Ledger.get_ok read
        obtain ⟨_, _, resource, descriptor⟩ := Ledger.toBinding_ok readable
        exact ⟨⟨row, found, resource, descriptor⟩, booked, housed⟩
  · exact ⟨booked, housed⟩

theorem keeps_delete (h : s.Layout registry seed base l unbound placed)
    (found : l.active? objectId = some row) :
    (Procedure.deleteBinding objectId).Keeps (Lookups bound) anyhow s <| Ends
      (fun _ t => t.Layout registry seed base (l.modifyActive objectId (·.retire s.now))
        (row.resourceId :: unbound) placed)
      fun _ => False := by
  refine .perform trivial fun o t step => ⟨trivial, ?_⟩
  have frame := step.1.backends_eq nofun
  obtain ⟨rfl, booked⟩ := h.booked.delete found step.1
  exact ⟨booked, h.housed.congr frame.1 frame.2⟩

theorem gentle {e : Effect} {o : e.Outcome} {hazard : Hazard}
    (h : s.Layout registry seed base l unbound placed) (isGentle : e.isGentle = true)
    (step : Step hazard e s o t) : t.Layout registry seed base l unbound placed := by
  cases e with
  | acquire | release => cases isGentle
  | backend descriptor call ctx =>
      have frame := step.books_eq
      exact ⟨h.booked.congr frame.1 frame.2, h.housed.gentle isGentle step⟩
  | count event =>
      obtain ⟨faults, _, rfl⟩ := step.count
      exact ⟨h.booked.congr rfl rfl, h.housed.congr rfl rfl⟩
  | readCounters =>
      cases step <;> exact ⟨h.booked.congr rfl rfl, h.housed.congr rfl rfl⟩
  | store op =>
      have kept := Effect.ledger_of_isQuiet isGentle s.now s.store.ledger
      rcases step.store with ⟨faults, _, rfl⟩ | ⟨_, faults, _, rfl, _⟩
      · rw [kept]
        exact ⟨h.booked.congr rfl rfl, h.housed.congr rfl rfl⟩
      · exact ⟨h.booked.congr rfl rfl, h.housed.congr rfl rfl⟩

theorem keeps_gentle {p : Procedure α} (h : s.Layout registry seed base l unbound placed)
    (gentle : p.Asks Effect.isGentle) : p.Keeps (Lookups bound)
      (·.Layout registry seed base l unbound placed) s fun _ _ => True :=
  .of_within gentle h fun _ _ _ _ asks held step => held.gentle asks step.1

theorem keeps_create_call {request : Router.Request} (unique : base.NoRepeat bound)
    (h : s.Layout registry seed base l unbound placed) :
    (Procedure.callBackend descriptor (.create request) ctx).Keeps (Lookups bound) anyhow s <| Ends
      (fun r t => (∀ x ∈ placed, x.2.id ≠ r.id) ∧
        t.Layout registry seed base l unbound ((descriptor, r) :: placed))
      (·.Layout registry seed base l unbound placed) := by
  refine .perform trivial fun o t step => ⟨trivial, ?_⟩
  have frame := step.1.books_eq
  have booked := h.booked.congr frame.1 frame.2
  rcases h.housed.create unique step.1 step.2 with ⟨r, rfl, new, housed⟩ | ⟨_, rfl, housed⟩
  · exact ⟨new, booked, housed⟩
  · exact ⟨booked, housed⟩

theorem keeps_update_call {request : Router.Request}
    (h : s.Layout registry seed base l unbound placed) :
    (Procedure.callBackend descriptor (.update id request) ctx).Keeps (Lookups bound) anyhow s <|
      Ends (fun _ t => t.Layout registry seed base l unbound (Housed.revised id request placed))
        (·.Layout registry seed base l unbound placed) := by
  refine .perform trivial fun o t step => ⟨trivial, ?_⟩
  have frame := step.1.books_eq
  have booked := h.booked.congr frame.1 frame.2
  rcases h.housed.update step.1 with ⟨r, _, _, rfl, housed⟩ | ⟨_, rfl, housed⟩
  · exact ⟨booked, housed⟩
  · exact ⟨booked, housed⟩

theorem keeps_delete_call (h : s.Layout registry seed base l unbound placed) :
    (Procedure.callBackend descriptor (.delete id) ctx).Keeps (Lookups bound) anyhow s <| Ends
      (fun _ t => t.Layout registry seed base l unbound (Housed.without id placed))
      (·.Layout registry seed base l unbound placed) := by
  refine .perform trivial fun o t step => ⟨trivial, ?_⟩
  have frame := step.1.books_eq
  have booked := h.booked.congr frame.1 frame.2
  rcases h.housed.delete step.1 with ⟨_, rfl, housed⟩ | ⟨_, rfl, housed⟩
  · exact ⟨booked, housed⟩
  · exact ⟨booked, housed⟩

end Layout
/-- Placed routers and active bindings are each other's, one to one. -/
def Matched (placed : List (String × Router)) (l : Ledger) : Prop :=
  (placed.map fun x => (x.1, x.2.id)).Perm (l.actives.map fun row => (row.descriptor, row.objectId))

namespace Matched

theorem row_of_placed (h : Matched placed l) {x : String × Router} (member : x ∈ placed) :
    ∃ row ∈ l.actives, row.descriptor = x.1 ∧ row.objectId = x.2.id := by
  obtain ⟨row, inside, same⟩ := List.mem_map.1 (h.mem_iff.1 (List.mem_map_of_mem member))
  exact ⟨row, inside, congrArg Prod.fst same, congrArg Prod.snd same⟩

theorem placed_of_row (h : Matched placed l) (member : row ∈ l.actives) :
    ∃ r, (row.descriptor, r) ∈ placed ∧ r.id = row.objectId := by
  obtain ⟨⟨descriptor, r⟩, inside, same⟩ := List.mem_map.1 (h.mem_iff.2 (List.mem_map_of_mem member))
  obtain ⟨rfl, object⟩ := Prod.mk.inj same
  exact ⟨r, inside, object⟩

theorem inactive (h : Matched placed l) (new : ∀ x ∈ placed, x.2.id ≠ objectId) :
    l.active? objectId = none := by
  refine Ledger.active?_none.2 fun row member same => ?_
  obtain ⟨r, inside, object⟩ := h.placed_of_row member
  exact new _ inside (object.trans same)

theorem append {r : Router} (h : Matched placed l) (row : Ledger.Row)
    (counts : row.isActive = true) (same : row.objectId = r.id) :
    Matched ((row.descriptor, r) :: placed) (l.append row) := by
  unfold Matched
  rw [Ledger.actives_append counts, List.map_append, List.map_cons, ← same]
  exact (h.cons _).trans (List.perm_append_singleton _ _).symm

theorem retire (h : Matched placed l) (numbered : ∀ row ∈ l.rows, row.id ≠ 0) {now : Timestamp} :
    Matched (Housed.without id placed) (l.modifyActive id (·.retire now)) := by
  have filtered := List.Perm.filter (fun seat : String × String => seat.2 != id) h
  simp only [List.filter_map] at filtered
  unfold Matched
  rw [Ledger.actives_retire numbered]
  exact filtered

theorem revise {request : Router.Request} (h : Matched placed l) :
    Matched (Housed.revised id request placed) l := by
  unfold Matched at h ⊢
  simpa [Housed.revised, Function.comp_def, Housed.revise_id] using h

end Matched

/-- The pool, the bindings and the backends are aligned: these routers are placed. -/
def Mirrors (registry : Registry) (seed : Pool) (base : IdSupply) (placed : List (String × Router))
    (s : State) : Prop :=
  ∃ l, s.Layout registry seed base l [] placed ∧ Matched placed l

theorem Mirrors.keeps_count {event : Counters.Event} (h : s.Mirrors registry seed base placed) :
    (Procedure.count event).Keeps (Lookups bound) anyhow s <| Ends
      (fun _ t => t.Mirrors registry seed base placed) fun _ => False :=
  let ⟨l, layout, matched⟩ := h
  .sure layout.keeps_count fun _ _ layout => ⟨l, layout, matched⟩

end State

namespace Dispatch

open State

variable {registry : Registry} {seed : Pool} {base bound : IdSupply} {placed : List (String × Router)}
  {s : State} {ctx : Context} {id : String} {request : Router.Request}

theorem proper_newRow {l : Ledger} {entry : Resource} {now : Timestamp} (readable : seed.Readable)
    (member : entry ∈ seed.entries) (type : entry.type = Resource.routerType)
    (registered : registry.contains entry.descriptor = true) :
    (l.newRow (.ofResource id entry.given) now).Proper registry seed where
  router := type
  registered := registered
  placed := ⟨entry, member, rfl, rfl⟩
  readable := Ledger.newRow_legible (readable entry member)

/-- A creation places a router on the backend of its resource, or changes nothing. -/
theorem keeps_creation {l : Ledger} {r : Resource} (unique : base.NoRepeat bound)
    (h : s.Layout registry seed base l [r.id] placed) :
    (creation registry ctx request (.ofResource r)).Keeps (Lookups bound) anyhow s <| Ends
      (fun result t => result.1 = ⟨r, some result.2.id⟩ ∧
        registry.contains r.descriptor = true ∧ (∀ x ∈ placed, x.2.id ≠ result.2.id) ∧
        t.Layout registry seed base l [r.id] ((r.descriptor, result.2) :: placed))
      (·.Layout registry seed base l [r.id] placed) := by
  have known : (Procedure.ofExcept (registry.get r.descriptor)).Keeps (Lookups bound) anyhow s <|
      Ends (fun _ t => registry.contains r.descriptor = true ∧
          t.Layout registry seed base l [r.id] placed)
        (·.Layout registry seed base l [r.id] placed) :=
    .ofExcept trivial (fun _ got => ⟨Registry.get_ok got, h⟩) fun _ _ => h
  refine .bind known ?_ fun _ _ _ held => held
  rintro _ t ⟨registered, layout⟩
  refine .bind (layout.keeps_create_call unique) ?_ fun _ _ _ held => held
  rintro router u ⟨new, layout⟩
  exact .pure trivial ⟨rfl, registered, new, layout⟩

theorem keeps_binding {l : Ledger} {entry : Resource} {router : Router} (readable : seed.Readable)
    (member : entry ∈ seed.entries) (type : entry.type = Resource.routerType)
    (registered : registry.contains entry.descriptor = true)
    (new : ∀ x ∈ placed, x.2.id ≠ router.id) (matched : Matched placed l)
    (h : s.Layout registry seed base l [entry.id] ((entry.descriptor, router) :: placed)) :
    ((Procedure.addBinding (.ofResource router.id entry.given)).onError
      (Broker.rollback ctx entry.id)).Keeps (Lookups bound) anyhow s <| Ends
        (fun _ t => t.Mirrors registry seed base ((entry.descriptor, router) :: placed))
        fun _ => False := by
  have proper (now : Timestamp) :
      (l.newRow (.ofResource router.id entry.given) now).Proper registry seed :=
    proper_newRow readable member type registered
  have held : s.Layout registry seed base l
    [(Assignment.ofResource router.id entry.given).placement.resourceId] _ := h
  refine .onError (held.keeps_add (matched.inactive new) proper) (fun b t layout => ?_)
    (fun _ _ never => never.elim) fun _ _ never => never.elim
  exact ⟨_, layout, matched.append (l.newRow (.ofResource router.id entry.given) s.now) rfl rfl⟩

/-- A new router is allocated with a binding of its own, or nothing is. -/
theorem keeps_allocation (unique : base.NoRepeat bound) (readable : seed.Readable)
    (h : s.Mirrors registry seed base placed) :
    (Broker.allocate ctx Resource.routerType (creation registry ctx request)).Keeps (Lookups bound)
      anyhow s <| Ends
        (fun result t => ∃ descriptor, (∀ x ∈ placed, x.2.id ≠ result.1.id) ∧
          t.Mirrors registry seed base ((descriptor, result.1) :: placed))
        (·.Mirrors registry seed base placed) := by
  obtain ⟨l, layout, matched⟩ := h
  have kept : ∀ t : State, t.Layout registry seed base l [] placed →
      t.Mirrors registry seed base placed := fun t layout => ⟨l, layout, matched⟩
  refine .bind_ends (.onError_ends layout.keeps_acquire kept fun t layout =>
    .sure layout.keeps_count fun _ u layout => kept u layout) ?_
  rintro _ t ⟨⟨entry, member, type, rfl⟩, layout⟩
  refine .bind_ends (.onFailure_ends (keeps_creation unique layout) fun t layout =>
    .mono layout.keeps_rollback fun _ u _ layout => kept u layout) ?_
  rintro ⟨pending, router⟩ t ⟨same, registered, new, layout⟩
  dsimp only at same
  subst same
  refine .bind_sure (keeps_binding readable member type registered new matched layout) ?_
  rintro b t ⟨l', layout, matched⟩
  exact .bind_sure layout.keeps_count fun _ _ layout =>
    .pure trivial ⟨entry.descriptor, new, l', layout, matched⟩

theorem keeps_create (unique : base.NoRepeat bound) (readable : seed.Readable)
    (h : s.Mirrors registry seed base placed) :
    (create registry ctx request).Keeps (Lookups bound) anyhow s <| Ends
      (fun r t => ∃ descriptor, (∀ x ∈ placed, x.2.id ≠ r.id) ∧
        t.Mirrors registry seed base ((descriptor, r) :: placed))
      (·.Mirrors registry seed base placed) :=
  .bind_ends (keeps_allocation unique readable h) fun _ _ held => .pure trivial held

theorem keeps_ownerOf (h : s.Mirrors registry seed base placed) :
    (ownerOf registry id).Keeps (Lookups bound) anyhow s <| Ends
      (fun _ t => t.Mirrors registry seed base placed) (·.Mirrors registry seed base placed) := by
  obtain ⟨l, layout, matched⟩ := h
  have kept : ∀ t : State, t.Layout registry seed base l [] placed →
      t.Mirrors registry seed base placed := fun t layout => ⟨l, layout, matched⟩
  refine .bind layout.keeps_get ?_ fun _ t _ layout => kept t layout
  rintro b t ⟨-, layout⟩
  have known : (Procedure.ofExcept (registry.get b.placement.descriptor)).Keeps (Lookups bound)
      anyhow t <| Ends (fun _ u => u.Mirrors registry seed base placed)
        (·.Mirrors registry seed base placed) :=
    .ofExcept trivial (fun _ _ => kept t layout) fun _ _ => kept t layout
  exact .bind_ends known fun _ _ held => .pure trivial held

theorem keeps_update (h : s.Mirrors registry seed base placed) :
    (update registry ctx id request).Keeps (Lookups bound) anyhow s <| Ends
      (fun _ t => t.Mirrors registry seed base (Housed.revised id request placed))
      (·.Mirrors registry seed base placed) := by
  refine .bind_ends (keeps_ownerOf h) ?_
  rintro descriptor t ⟨l, layout, matched⟩
  refine .mono layout.keeps_update_call fun r t _ ended => ?_
  cases r with
  | ok _ => exact ⟨l, ended, matched.revise⟩
  | error _ => exact ⟨l, ended, matched⟩

/-- A deletion takes the router off its backend, or changes nothing. -/
theorem keeps_deletion {l : Ledger} {b : Binding} (h : s.Layout registry seed base l [] placed) :
    (deletion registry ctx id b).Keeps (Lookups bound) anyhow s <| Ends
      (fun _ t => t.Layout registry seed base l [] (Housed.without id placed))
      (·.Layout registry seed base l [] placed) := by
  have known : (Procedure.ofExcept (registry.get b.placement.descriptor)).Keeps (Lookups bound)
      anyhow s <| Ends (fun _ t => t.Layout registry seed base l [] placed)
        (·.Layout registry seed base l [] placed) :=
    .ofExcept trivial (fun _ _ => h) fun _ _ => h
  exact .bind_ends known fun _ _ layout => layout.keeps_delete_call

theorem keeps_withdraw (h : s.Mirrors registry seed base placed) :
    (Broker.withdraw ctx id (deletion registry ctx id)).Keeps (Lookups bound) anyhow s <| Ends
      (fun _ t => t.Mirrors registry seed base (Housed.without id placed))
      (·.Mirrors registry seed base placed) := by
  obtain ⟨l, layout, matched⟩ := h
  have kept : ∀ t : State, t.Layout registry seed base l [] placed →
      t.Mirrors registry seed base placed := fun t layout => ⟨l, layout, matched⟩
  refine .bind layout.keeps_get ?_ fun _ t _ layout => kept t layout
  rintro b t ⟨⟨row, found, resource, -⟩, layout⟩
  refine .bind (keeps_deletion layout) ?_ fun _ t _ layout => kept t layout
  intro _ t layout
  have numbered := layout.numbered
  refine .bind_sure (layout.keeps_delete found) fun _ u layout => ?_
  rw [← resource] at layout
  refine .bind_sure (.onError layout.keeps_release (fun _ _ layout => layout)
    (fun _ _ never => never.elim) fun _ _ never => never.elim) fun _ v layout => ?_
  exact .pure trivial ⟨_, layout, matched.retire numbered⟩

theorem keeps_delete (h : s.Mirrors registry seed base placed) :
    (delete registry ctx id).Keeps (Lookups bound) anyhow s <| Ends
      (fun _ t => t.Mirrors registry seed base (Housed.without id placed))
      (·.Mirrors registry seed base placed) := by
  refine .bind_ends (.onError_ends (keeps_withdraw h) (fun _ held => held) fun t held =>
    .sure held.keeps_count fun _ _ held => held) fun _ t held => ?_
  exact .bind_sure held.keeps_count fun _ _ held => .pure trivial held

theorem keeps_gentle {op : Operation} (gentle : op.isGentle = true)
    (h : s.Mirrors registry seed base placed) :
    (op.procedure registry ctx).Keeps (Lookups bound) anyhow s fun _ t =>
      t.Mirrors registry seed base placed := by
  obtain ⟨l, layout, matched⟩ := h
  have held : (op.procedure registry ctx).Keeps (Lookups bound) _ s _ :=
    layout.keeps_gentle (Operation.procedure_gentle gentle)
  exact .mono (.widen held fun _ _ => trivial) fun _ _ _ ended => ⟨l, ended.1, matched⟩

end Dispatch
end Brokerage
