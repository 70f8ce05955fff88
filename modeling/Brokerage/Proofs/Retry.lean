import Brokerage.Proofs.Directory
import Brokerage.Proofs.Sessions

/-! # A deletion that cannot be tried again

Deleting a router removes it from its backend before the binding is removed and the resource is
freed. If one of the two later steps fails, the binding is still there, or there again, but its
router is not: every further deletion is refused by the backend, so nothing ever frees the
resource.
-/

namespace Brokerage

open Procedure (Ends)

/-- Effects that leave the binding of an object as it is. -/
def Effect.spares (objectId : String) : Effect → Bool
  | store (.delete other) => other ≠ objectId
  | store (.update ..) => false
  | _ => true

/-- Removing a binding or freeing a resource. -/
def Effect.isRemoval : Effect → Bool
  | .release .. | .store (.delete _) => true
  | _ => false

/-- Bindings are not removed or resources not freed, without a panic. -/
def Hazard.removals : Hazard := fun e fault =>
  e.isRemoval = true ∧ ∀ message, fault ≠ .panic message

theorem Hazard.removals_spare {e : Effect} {failure : Failure} (other : e.isRemoval = false) :
    ¬removals.Hits e failure := by
  rintro ⟨fault, ⟨removal, _⟩, _⟩
  rw [other] at removal
  cases removal

theorem State.Step.mono {hazard wider : Hazard} {e : Effect} {s t : State} {o : e.Outcome}
    (step : Step hazard e s o t) (wide : ∀ fault, hazard e fault → wider e fault) :
    Step wider e s o t := by
  cases step with
  | happened faults => exact .happened faults
  | struck faults fault failure point hits ends =>
      exact .struck faults fault failure point (wide fault hits) ends

namespace State

/-- A router of an id is bound to a resource, and its backend holds it. -/
structure Live (registry : Registry) (id resource : String) (s : State) : Prop where
  bound : ∃ b, s.store.ledger.get id = .ok b ∧ b.placement.resourceId = resource ∧
    Ledger.Legible b.placement.metadata ∧ registry.contains b.placement.descriptor = true ∧
    ∃ r ∈ s.routersAt b.placement.descriptor, r.id = id

instance (registry : Registry) (id resource : String) (s : State) :
    Decidable (s.Live registry id resource) :=
  match h : s.store.ledger.get id with
  | .ok b =>
    decidable_of_iff (b.placement.resourceId = resource ∧ Ledger.Legible b.placement.metadata ∧
        registry.contains b.placement.descriptor = true ∧
        ∃ r ∈ s.routersAt b.placement.descriptor, r.id = id)
      ⟨fun held => ⟨⟨b, h, held⟩⟩, fun ⟨_, same, held⟩ => by
        cases h.symm.trans same
        exact held⟩
  | .error _ => isFalse fun ⟨_, same, _⟩ => by cases h.symm.trans same

/-- The backend of a descriptor is there and holds no router of an id. -/
structure Lacks (descriptor id : String) (s : State) : Prop where
  usable : s.store.Usable
  home : (s.backends.get? descriptor).isSome
  gone : ∀ r ∈ s.routersAt descriptor, r.id ≠ id

/-- A binding is active, but the router that it is for is gone. -/
structure Stuck (registry : Registry) (row : Ledger.Row) (s : State) : Prop extends
    s.Lacks row.descriptor row.objectId where
  bound : s.store.ledger.active? row.objectId = some row
  readable : ∃ b, row.toBinding = .ok b
  registered : registry.contains row.descriptor = true

variable {hazard : Hazard} {registry : Registry} {row : Ledger.Row} {s t : State} {e : Effect}
  {o : e.Outcome} {ctx : Context} {id descriptor resource : String} {bound : IdSupply}

theorem Lacks.congr (h : s.Lacks descriptor id) (usable : t.store.Usable)
    (backends : t.backends = s.backends) : t.Lacks descriptor id where
  usable := usable
  home := backends ▸ h.home
  gone := by
    simp only [routersAt, backends]
    exact h.gone

/-- After an effect a backend holds what it held, possibly changed, or what has just got its id. -/
theorem Step.mem_routersAt (step : Step hazard e s o t) {r : Router}
    (member : r ∈ t.routersAt descriptor) : (∃ x ∈ s.routersAt descriptor, x.id = r.id) ∨
      s.ids.Issued t.ids r.id := by
  rcases step.backends_cases with frame | ⟨place, call, caller, rfl⟩
  · simp only [routersAt, frame] at member
    exact .inl ⟨r, member, rfl⟩
  · rcases step.backend with ⟨b, _, known, _, rfl⟩ | ⟨_, _, _, rfl, _⟩
    · have moved : r ∈ (s.withBackend place (b.answer s.ids call).2.1
        (b.answer s.ids call).2.2).routersAt descriptor := member
      rw [Housed.routersAt_withBackend] at moved
      split at moved
      · rename_i here
        rw [here, Housed.routersAt_eq known]
        exact b.answer_ids call r moved
      · exact .inl ⟨r, moved, rfl⟩
    · exact .inl ⟨r, member, rfl⟩

theorem Lacks.step (h : s.Lacks descriptor id)
    (new : ¬s.ids.Issued t.ids id)
    (step : Step hazard e s o t) : t.Lacks descriptor id := by
  refine ⟨step.usable h.usable, step.home h.home, fun r member same => ?_⟩
  rcases step.mem_routersAt member with ⟨x, inside, old⟩ | issued
  · exact h.gone x inside (old.trans same)
  · exact new (same ▸ issued)

/-- Effects that spare the binding leave it without its router. -/
theorem Stuck.step (h : s.Stuck registry row) (spares : e.spares row.objectId = true)
    (new : ¬s.ids.Issued t.ids row.objectId)
    (step : Step hazard e s o t) : t.Stuck registry row := by
  refine ⟨h.toLacks.step new step, ?_, h.readable, h.registered⟩
  cases e with
  | acquire | release | backend | count | readCounters =>
      rw [step.store_eq nofun]
      exact h.bound
  | store op =>
      cases op with
      | add a =>
          rcases step.add with ⟨_, _, _, rfl⟩ | ⟨_, _, _, rfl, _⟩
          · exact Ledger.active?_append_of_some h.bound
          · exact h.bound
      | delete other =>
          rcases step.delete with ⟨_, _, _, _, rfl⟩ | ⟨_, _, _, rfl, _⟩
          · have apart : other ≠ row.objectId := by simpa [Effect.spares] using spares
            have kept : (s.store.ledger.modifyActive other (·.retire s.now)).active?
                row.objectId = s.store.ledger.active? row.objectId :=
              Ledger.active?_modifyActive apart fun _ => rfl
            exact kept.trans h.bound
          · exact h.bound
      | update => cases spares
      | get | list | health =>
          rcases step.store with ⟨_, _, rfl⟩ | ⟨_, _, _, rfl, _⟩ <;> exact h.bound

/-- Without a binding that is removed or updated, nothing but new ids matters. -/
theorem Stuck.keeps_asks {α : Type} {p : Procedure α} {hazard : Hazard}
    (new : ¬s.ids.Issued bound row.objectId)
    (h : s.Stuck registry row) (asks : p.Asks (Effect.spares row.objectId)) :
    p.Keeps (Moves.into (Step hazard) (·.ids ≤ bound)) anyhow s fun _ t =>
      t.Stuck registry row := by
  have held : p.Keeps (Moves.into (Step hazard) (·.ids ≤ bound))
      (fun t => t.Stuck registry row ∧ s.ids ≤ t.ids) s fun _ _ => True := by
    refine .of_within asks ⟨h, le_refl _⟩ ?_
    rintro e t o u spares ⟨stuck, started⟩ ⟨step, room⟩
    have unissued : ¬t.ids.Issued u.ids row.objectId := fun issued =>
      new ((issued.since started).until room)
    exact ⟨stuck.step spares unissued step, started.trans step.ids_le⟩
  exact .mono (held.widen fun _ _ => trivial) fun _ _ _ kept => kept.1.1

end State

namespace Dispatch

variable {registry : Registry} {ctx : Context} {id : String} {asks : Effect → Bool}

theorem create_asks {request : Router.Request} {other : String} :
    (create registry ctx request).Asks (Effect.spares other) := by
  have undo (resourceId : String) : (Broker.rollback ctx resourceId).Asks (Effect.spares other) :=
    .bind (.perform rfl) fun _ => .bind (.perform rfl) fun _ => .ignoreError (.perform rfl)
  refine .bind (.bind (.onError (.perform rfl) (.perform rfl)) fun r => ?_) fun _ => .pure
  refine .bind (.onFailure ?_ (undo r.id)) fun (pending, router) => ?_
  · exact .bind .ofExcept fun _ => .bind (.perform rfl) fun _ => .pure
  · cases named : pending.objectId with
    | none =>
        simp only [named]
        exact .bind (undo r.id) fun _ => .throw
    | some objectId =>
        simp only [named]
        exact .bind (.onError (.perform rfl) (undo r.id)) fun _ => .bind (.perform rfl) fun _ => .pure

theorem delete_asks {other : String} (apart : id ≠ other) :
    (delete registry ctx id).Asks (Effect.spares other) := by
  have withdrawn : (Broker.withdraw ctx id (deletion registry ctx id)).Asks (Effect.spares other) := by
    refine .bind (.perform rfl) fun b => .bind ?_ fun _ => .bind ?_ fun _ => .bind ?_ fun _ => .pure
    · exact .bind .ofExcept fun _ => .perform rfl
    · exact .perform (by simpa [Effect.spares] using apart)
    · exact .onError (.perform rfl) (.ignoreError (.perform rfl))
  exact .bind (.onError withdrawn (.perform rfl)) fun _ => .bind (.perform rfl) fun _ => .pure

/-- Only the deletion of its router removes a binding. -/
theorem Operation.procedure_spares {op : Operation} {other : String} (apart : op ≠ .delete other) :
    (op.procedure registry ctx).Asks (Effect.spares other) := by
  cases op with
  | create request => exact create_asks
  | delete id => exact delete_asks fun same => apart (congrArg _ same)
  | get | update | addInterface | removeInterface => exact callOwner_asks rfl fun _ => rfl
  | list query => exact list_asks rfl fun _ => rfl
  | count filters => exact .bind (list_asks rfl fun _ => rfl) fun _ => .pure
  | passthrough operation args => exact .perform rfl

end Dispatch

namespace State

variable {hazard : Hazard} {registry : Registry} {row : Ledger.Row} {s t : State} {ctx : Context}
  {id resource : String} {n : Nat}

theorem Stuck.still {e : Effect} {o : e.Outcome} (h : s.Stuck registry row)
    (spares : e.spares row.objectId = true) (ids : t.ids = s.ids) (step : Step hazard e s o t) :
    t.Stuck registry row :=
  h.step spares (ids ▸ s.ids.not_issued_self) step

/-- The backend refused an id, or a fault hit. -/
def Refused (hazard : Hazard) (id : String) (failure : Failure) : Prop :=
  (∃ name, failure = .error (.routerNotFound name id)) ∨ ∃ e, hazard.Hits e failure

/-- A stuck binding stays, and whoever wants to remove it is refused. -/
def Refuses (hazard : Hazard) (registry : Registry) (row : Ledger.Row) {α : Type} :
    Except Failure α → State → Prop
  | .ok _, _ => False
  | .error failure, t => t.Stuck registry row ∧ Refused hazard row.objectId failure

theorem Stuck.keeps_get (h : s.Stuck registry row) :
    (Procedure.getBinding row.objectId).Keeps (Step hazard) anyhow s fun r t =>
      t.Stuck registry row ∧ ((∃ b, r = .ok b ∧ b.placement.descriptor = row.descriptor) ∨
        ∃ failure, r = .error failure ∧ Refused hazard row.objectId failure) := by
  refine .perform trivial fun o t step => ⟨trivial, h.still rfl (step.backends_eq nofun).2 step, ?_⟩
  obtain ⟨b, readable⟩ := h.readable
  obtain ⟨_, rfl | ⟨failure, rfl, unusable | hits⟩⟩ := step.get
  · rw [Ledger.get_eq, h.bound]
    simp only [readable]
    exact .inl ⟨b, rfl, (Ledger.toBinding_ok readable).2.2.2⟩
  · exact absurd h.usable unusable
  · exact .inr ⟨failure, rfl, .inr ⟨_, hits⟩⟩

theorem Stuck.keeps_deletion {b : Binding} (h : s.Stuck registry row)
    (descriptor : b.placement.descriptor = row.descriptor) :
    (Dispatch.deletion registry ctx row.objectId b).Keeps (Step hazard) anyhow s
      (Refuses hazard registry row) := by
  obtain ⟨name, registered⟩ := Registry.get_of_contains h.registered
  rw [← descriptor] at registered
  have known : (Procedure.ofExcept (registry.get b.placement.descriptor)).Keeps (Step hazard) anyhow
      s <| Ends (fun _ t => t.Stuck registry row) fun _ => False :=
    .ofExcept_ok registered trivial h
  refine .bind_sure known fun _ t held => ?_
  rw [descriptor]
  refine .perform trivial fun o u step => ⟨trivial, ?_⟩
  obtain ⟨home, known⟩ := Option.isSome_iff_exists.1 held.home
  have absent : ∀ r ∈ home.routers, r.id ≠ row.objectId := by
    rw [← Housed.routersAt_eq known]
    exact held.gone
  rcases step.backend with ⟨b, _, found, ho, ht⟩ | ⟨failure, _, rfl, rfl, missing | hits⟩
  · cases known.symm.trans found
    rcases home.answer_delete t.ids row.objectId with ⟨r, member, same, _⟩ | ⟨_, answer⟩
    · exact absurd same (absent r member)
    · rw [answer] at ho ht
      have stuck := held.still rfl (by rw [ht]; rfl) step
      rw [ho]
      exact ⟨stuck, .inl ⟨home.name, rfl⟩⟩
  · rw [known] at missing
    cases missing
  · exact ⟨held.still rfl rfl step, .inr ⟨_, hits⟩⟩

/-- Deleting the router of a stuck binding is refused. -/
theorem Stuck.keeps_delete (h : s.Stuck registry row) :
    (Dispatch.delete registry ctx row.objectId).Keeps (Step hazard) anyhow s
      (Refuses hazard registry row) := by
  have withdrawn : (Broker.withdraw ctx row.objectId
      (Dispatch.deletion registry ctx row.objectId)).Keeps (Step hazard) anyhow s
        (Refuses hazard registry row) := by
    refine .bind h.keeps_get ?_ ?_
    · rintro b t ⟨held, ⟨_, same, descriptor⟩ | ⟨_, same, _⟩⟩
      · cases same
        exact .bind (held.keeps_deletion descriptor) (fun _ _ never => never.elim)
          fun _ _ _ refused => refused
      · cases same
    · rintro failure t - ⟨held, ⟨_, same, _⟩ | ⟨_, same, refused⟩⟩
      · cases same
      · cases same
        exact ⟨held, refused⟩
  have counted : ((Broker.withdraw ctx row.objectId
      (Dispatch.deletion registry ctx row.objectId)).onError
        (.count (.deallocation .failure))).Keeps (Step hazard) anyhow s
          (Refuses hazard registry row) := by
    refine .onError withdrawn (fun _ _ never => never) (fun _ _ refused => refused) ?_
    rintro e t ⟨held, refused⟩
    refine .perform trivial fun o u step => ⟨trivial, ?_⟩
    have kept := held.still rfl (step.backends_eq nofun).2 step
    obtain ⟨_, rfl, _⟩ := step.count
    exact ⟨kept, refused⟩
  exact .bind counted (fun _ _ never => never.elim) fun _ _ _ refused => refused

/-- The binding of an object on a resource is active, but its router is gone. -/
def Left (registry : Registry) (id resource : String) (s : State) : Prop :=
  ∃ row : Ledger.Row, row.objectId = id ∧ row.resourceId = resource ∧ s.Stuck registry row

/-- A binding that is put back is active again without its router. -/
theorem Lacks.keeps_add {b : Binding} (h : s.Lacks b.placement.descriptor b.objectId)
    (absent : s.store.ledger.active? b.objectId = none)
    (registered : registry.contains b.placement.descriptor = true)
    (legible : Ledger.Legible b.placement.metadata) :
    (Procedure.addBinding (.ofBinding b)).Keeps (Step .removals) anyhow s fun _ t =>
      t.Left registry b.objectId b.placement.resourceId := by
  refine .perform trivial fun o t step => ⟨trivial, ?_⟩
  rcases step.add with ⟨faults, _, _, rfl⟩ | ⟨_, _, _, _, known | unusable | hits⟩
  · have lacks : (recorded (s.withLedger (s.store.ledger.append
        (s.store.ledger.newRow (.ofBinding b) s.now))) faults _ o).Lacks
          b.placement.descriptor b.objectId := h.congr h.usable.withLedger rfl
    refine ⟨s.store.ledger.newRow (.ofBinding b) s.now, rfl, rfl, lacks, ?_, ?_, registered⟩
    · exact Ledger.active?_append_new rfl absent
    · exact Ledger.newRow_legible legible
  · simp [Assignment.ofBinding, absent] at known
  · exact absurd h.usable unusable
  · exact absurd hits (Hazard.removals_spare rfl)

/-- Once the router is gone, a resource that cannot be freed gets its binding back. -/
theorem Lacks.keeps_restoring {b : Binding} (h : s.Lacks b.placement.descriptor b.objectId)
    (absent : s.store.ledger.active? b.objectId = none)
    (registered : registry.contains b.placement.descriptor = true)
    (legible : Ledger.Legible b.placement.metadata) :
    ((Procedure.release ctx b.placement.resourceId).onError
      (Procedure.addBinding (.ofBinding b)).ignoreError).Keeps (Step .removals) anyhow s <| Ends
        (fun _ _ => True) (·.Left registry b.objectId b.placement.resourceId) := by
  have released : (Procedure.release ctx b.placement.resourceId).Keeps (Step .removals) anyhow s
      fun r t => (∀ message, r ≠ .error (.panic message)) ∧
        t.Lacks b.placement.descriptor b.objectId ∧
        t.store.ledger.active? b.objectId = none := by
    refine .perform trivial fun o t step => ⟨trivial, ?_⟩
    have store := step.store_eq nofun
    have lacks := h.congr (store ▸ h.usable) (step.backends_eq nofun).1
    refine ⟨fun message => ?_, lacks, store ▸ absent⟩
    exact (step.mono fun _ allowed => allowed.2).no_panic
  refine .onError released (fun _ _ _ => trivial) ?_ ?_
  · exact fun message t held => absurd rfl (held.1 message)
  · rintro e t ⟨_, lacks, absent⟩
    have forgotten : (Procedure.addBinding (.ofBinding b)).ignoreError.Keeps (Step .removals) anyhow
        t fun _ u => u.Left registry b.objectId b.placement.resourceId :=
      .ignoreError (lacks.keeps_add absent registered legible) (fun _ _ left => left)
        (fun _ _ left => left) fun _ _ left => left
    exact .mono forgotten fun r u _ left => .of_failed left

theorem keeps_deletion {b : Binding} {r : Router} (usable : s.store.Usable)
    (bound : s.store.ledger.active? row.objectId = some row) (readable : row.toBinding = .ok b)
    (registered : registry.contains row.descriptor = true)
    (held : r ∈ s.routersAt row.descriptor) (same : r.id = row.objectId) :
    (Dispatch.deletion registry ctx row.objectId b).Keeps (Step .removals) anyhow s <| Ends
      (fun _ t => t.Stuck registry row ∧ t.store = s.store) fun _ => False := by
  have descriptor := (Ledger.toBinding_ok readable).2.2.2
  obtain ⟨name, found⟩ := Registry.get_of_contains registered
  rw [← descriptor] at found
  have known : (Procedure.ofExcept (registry.get b.placement.descriptor)).Keeps (Step .removals)
      anyhow s <| Ends (fun _ t => t = s) fun _ => False := .ofExcept_ok found trivial rfl
  refine .bind_sure known ?_
  rintro _ t rfl
  rw [descriptor]
  refine .perform trivial fun o u step => ⟨trivial, ?_⟩
  rcases step.backend with ⟨home, _, there, ho, ht⟩ | ⟨_, _, _, _, missing | hits⟩
  · rw [Housed.routersAt_eq there] at held
    rcases home.answer_delete t.ids row.objectId with ⟨_, _, _, home', answer, _, routers⟩ | ⟨absent, _⟩
    · rw [answer] at ho ht
      have store : u.store = t.store := step.store_eq nofun
      have moved : u.routersAt = (t.withBackend row.descriptor home' t.ids).routersAt := by
        rw [ht]
        rfl
      have gone : ∀ x ∈ u.routersAt row.descriptor, x.id ≠ row.objectId := by
        intro x member
        rw [moved, Housed.routersAt_withBackend, if_pos rfl, routers] at member
        simpa using (List.mem_filter.1 member).2
      have home : (u.backends.get? row.descriptor).isSome := by
        rw [ht]
        simp [recorded, withBackend, Dict.get?_insert]
      rw [ho]
      exact ⟨⟨⟨store ▸ usable, home, gone⟩, store ▸ bound, ⟨b, readable⟩, registered⟩, store⟩
    · exact absurd same (absent r held)
  · simp [routersAt, missing] at held
  · exact absurd hits (Hazard.removals_spare rfl)

/-- The binding is removed, or it is stuck. -/
theorem Stuck.keeps_removal (h : s.Stuck registry row) (sound : s.store.ledger.Sound) :
    (Procedure.deleteBinding row.objectId).Keeps (Step .removals) anyhow s <| Ends
      (fun _ t => t.Lacks row.descriptor row.objectId ∧
        t.store.ledger.active? row.objectId = none)
      (·.Stuck registry row) := by
  refine .perform trivial fun o t step => ⟨trivial, ?_⟩
  have frame := step.backends_eq nofun
  have lacks := h.toLacks.congr (step.usable h.usable) frame.1
  rcases step.delete with ⟨_, _, _, rfl, rfl⟩ | ⟨_, _, rfl, rfl, _⟩
  · exact ⟨lacks, Ledger.active?_retire sound.numbered⟩
  · exact ⟨lacks, h.bound, h.readable, h.registered⟩

/-- A deletion that fails where its binding is removed or its resource is freed leaves the binding
without its router. -/
theorem Live.keeps_withdraw (h : s.Live registry id resource) (usable : s.store.Usable)
    (sound : s.store.ledger.Sound) :
    (Broker.withdraw ctx id (Dispatch.deletion registry ctx id)).Keeps (Step .removals) anyhow s <|
      Ends (fun _ _ => True) (·.Left registry id resource) := by
  obtain ⟨b, got, rfl, legible, registered, r, held, same⟩ := h.bound
  obtain ⟨row, found, readable⟩ := Ledger.get_ok got
  obtain ⟨_, rfl⟩ := Ledger.active?_some found
  obtain ⟨object, _, onto, descriptor⟩ := Ledger.toBinding_ok readable
  rw [descriptor] at held registered
  have read : (Procedure.getBinding row.objectId).Keeps (Step .removals) anyhow s <| Ends
      (fun a t => a = b ∧ t.store = s.store ∧ t.backends = s.backends) fun _ => False := by
    refine .perform trivial fun o t step => ⟨trivial, ?_⟩
    have frame := step.backends_eq nofun
    obtain ⟨⟨_, rfl⟩, rfl | ⟨_, _, unusable | hits⟩⟩ := step.get
    · rw [got]
      exact ⟨rfl, rfl, frame.1⟩
    · exact absurd usable unusable
    · exact absurd hits (Hazard.removals_spare rfl)
  refine .bind_sure read ?_
  rintro _ t ⟨rfl, store, backends⟩
  rw [← store] at usable sound found
  have there : r ∈ t.routersAt row.descriptor := by simpa [routersAt, backends] using held
  refine .bind_sure (keeps_deletion usable found readable registered there same) ?_
  rintro _ u ⟨stuck, store⟩
  rw [← store] at sound
  refine .bind (stuck.keeps_removal sound) ?_ fun _ _ _ stuck => ⟨row, rfl, onto.symm, stuck⟩
  rintro _ v ⟨lacks, absent⟩
  rw [← object] at lacks absent ⊢
  rw [← descriptor] at lacks registered
  exact .bind_ends (lacks.keeps_restoring absent registered legible) fun _ _ _ =>
    .pure trivial trivial

theorem Live.keeps_delete (h : s.Live registry id resource) (usable : s.store.Usable)
    (sound : s.store.ledger.Sound) :
    (Dispatch.delete registry ctx id).Keeps (Step .removals) anyhow s <| Ends
      (fun _ _ => True) (·.Left registry id resource) := by
  have counted : ((Broker.withdraw ctx id (Dispatch.deletion registry ctx id)).onError
      (.count (.deallocation .failure))).Keeps (Step .removals) anyhow s <| Ends
        (fun _ _ => True) (·.Left registry id resource) := by
    refine .onError_ends (h.keeps_withdraw usable sound) (fun _ left => left) ?_
    rintro t ⟨row, object, onto, stuck⟩
    refine .perform trivial fun o u step => ⟨trivial, row, object, onto, ?_⟩
    exact stuck.still rfl (step.backends_eq nofun).2 step
  refine .bind_ends counted fun _ t _ => ?_
  have success : (Procedure.count (.deallocation .success)).Keeps (Step .removals) anyhow t <| Ends
      (fun _ _ => True) fun _ => False := by
    refine .perform trivial fun o u step => ⟨trivial, ?_⟩
    obtain ⟨_, rfl, _⟩ := step.count
    trivial
  exact .bind_sure success fun _ _ _ => .pure trivial trivial

variable {w : Schedule}

/-- A stuck binding outlasts all operations. -/
theorem Stuck.operate (hw : w.Within hazard) (ops : List (Context × Dispatch.Operation))
    (h : s.Stuck registry row) (new : ¬s.ids.Issued (s.operate w registry ops).ids row.objectId) :
    (s.operate w registry ops).Stuck registry row := by
  induction ops generalizing s with
  | nil => exact h
  | cons call rest ih =>
      obtain ⟨ctx, op⟩ := call
      let t := (s.runUnder w (op.procedure registry ctx)).2
      have later : s.ids ≤ t.ids := runUnder_ids_le w _ s
      have room : t.ids ≤ (t.operate w registry rest).ids := operate_ids_le w registry rest t
      have stuck : t.Stuck registry row := by
        by_cases deletes : op = .delete row.objectId
        · subst deletes
          let run := s.runUnder w (Dispatch.delete registry ctx row.objectId)
          have refuses : Refuses hazard registry row run.1 run.2 := h.keeps_delete.end_of_run hw.moves
          cases outcome : run.1 with
          | ok _ =>
              rw [outcome] at refuses
              exact refuses.elim
          | error _ =>
              rw [outcome] at refuses
              exact refuses.1
        · have asks : (op.procedure registry ctx).Asks (Effect.spares row.objectId) :=
            Dispatch.Operation.procedure_spares deletes
          exact (h.keeps_asks new asks).end_of_run_into hw.moves
            (fun e u last => (performUnder_ids_le w e u).trans last) room
      exact ih stuck fun issued => new (issued.since later)

theorem Owes.run_operation (hw : w.Within .errors) (h : s.Owes n) (op : Dispatch.Operation) :
    ∃ m, (s.runUnder w (op.procedure registry ctx)).2.Owes m := by
  have called := (h.keeps_call (.dispatch registry ctx op)).end_of_run hw.moves
  rw [show (s.runUnder w (Call.dispatch registry ctx op).procedure).2 = _ from
    congrArg Prod.snd (runUnder_forget w _ s)] at called
  exact ⟨_, called⟩

theorem Owes.operate (hw : w.Within .errors) (ops : List (Context × Dispatch.Operation))
    (h : s.Owes n) : ∃ m, (s.operate w registry ops).Owes m := by
  induction ops generalizing s n with
  | nil => exact ⟨n, h⟩
  | cons call rest ih =>
      obtain ⟨m, called⟩ := h.run_operation hw call.2
      exact ih called

theorem Owes.sound (h : s.Owes n) : s.store.ledger.Sound := by
  obtain ⟨l, unbound, ⟨⟨p, _, coupling⟩, rfl, _⟩, _⟩ := h
  exact coupling.sound

theorem Owes.taken (h : s.Owes n) (found : s.store.ledger.active? id = some row) :
    row.resourceId ∈ s.pool.taken := by
  obtain ⟨r, member, same, given⟩ := h.accounted.coupled.handedOut row (Ledger.active?_some found).1
  exact Pool.mem_taken.2 ⟨r, member, given, same⟩

theorem operate_usable (w : Schedule) (registry : Registry)
    (ops : List (Context × Dispatch.Operation)) (h : s.store.Usable) :
    (s.operate w registry ops).store.Usable :=
  operate_keeps (fun e t usable => (performUnder_step w e t).usable usable) registry ops h

/-- The routers of all backends have ids that were generated for them. -/
structure Generated (base : IdSupply) (s : State) : Prop where
  started : base ≤ s.ids
  named : ∀ descriptor, ∀ r ∈ s.routersAt descriptor, base.Issued s.ids r.id

variable {base : IdSupply} {registry : Registry}

theorem Generated.step {e : Effect} {o : e.Outcome} (h : s.Generated base)
    (step : Step hazard e s o t) : t.Generated base := by
  refine ⟨h.started.trans step.ids_le, fun descriptor r member => ?_⟩
  rcases step.mem_routersAt member with ⟨x, inside, same⟩ | issued
  · exact same ▸ (h.named descriptor x inside).until step.ids_le
  · exact issued.since h.started

/-- The id of a router that was there is not generated again. -/
theorem Generated.new {bound : IdSupply} {descriptor : String} {r : Router} (h : s.Generated base)
    (unique : base.NoRepeat bound) (held : r ∈ s.routersAt descriptor) :
    ¬s.ids.Issued bound r.id :=
  unique.not_issued h.started (h.named descriptor r held)

variable {seed : Pool} {store : Store} {backends : Dict Backend}

theorem Fresh.generated (h : Fresh registry seed store backends) (ids : IdSupply) (w : Schedule)
    (ops : List (Context × Dispatch.Operation)) :
    ((State.initial (.localPool seed) store backends ids).operate w registry ops).Generated
      ids := by
  refine operate_keeps (fun e t held => held.step (performUnder_step w e t)) registry ops ?_
  refine ⟨le_refl _, fun descriptor r member => ?_⟩
  rw [h.routersAt_eq_nil ids descriptor] at member
  cases member

/-- Once the deletion of a router failed where its binding is removed or its resource is freed, no
later deletion succeeds, whatever is done in between: the backend does not know the router any more,
and the resource stays handed out. -/
theorem deletion_not_retriable (fresh : Fresh registry seed store backends) (ids : IdSupply)
    {w failing : Schedule} (hw : w.Within .errors) (hf : failing.Within .removals)
    (before after : List (Context × Dispatch.Operation)) (ctx again : Context)
    (id resource : String) :
    let s := (State.initial (.localPool seed) store backends ids).operate w registry before
    let first := s.runUnder failing (Dispatch.delete registry ctx id)
    let t := first.2.operate w registry after
    let second := t.runUnder .calm (Dispatch.delete registry again id)
    ids.NoRepeat t.ids → s.Live registry id resource → first.1 ≠ .ok () →
      (∃ name, second.1 = .error (.error (.routerNotFound name id))) ∧
        (second.2.store.ledger.active? id).map (·.resourceId) = some resource ∧
        resource ∈ second.2.pool.taken := by
  intro s first t second unique live failed
  have usable : s.store.Usable := operate_usable w registry before fresh.usable
  have new : ¬s.ids.Issued t.ids id := by
    obtain ⟨_, _, _, _, _, r, held, rfl⟩ := live.bound
    exact (fresh.generated ids w before).new unique held
  obtain ⟨_, owes⟩ : ∃ n, s.Owes n :=
    (Owes.initial fresh.free fresh.readable fresh.blank backends ids).operate hw before
  have ended : Ends (fun _ _ => True) (·.Left registry id resource) first.1 first.2 :=
    (live.keeps_delete usable owes.sound).end_of_run hf.moves
  have left : first.2.Left registry id resource := by
    cases outcome : first.1 with
    | ok _ => exact absurd outcome failed
    | error _ => rwa [outcome] at ended
  obtain ⟨row, rfl, rfl, stuck⟩ := left
  have later : s.ids ≤ first.2.ids := runUnder_ids_le failing _ s
  have outlasting : t.Stuck registry row :=
    stuck.operate hw after fun issued => new (issued.since later)
  have calm : Schedule.calm.Within .none := Schedule.calm_within .none
  have refuses : Refuses .none registry row second.1 second.2 :=
    outlasting.keeps_delete.end_of_run calm.moves
  obtain ⟨_, owes⟩ : ∃ n, first.2.Owes n :=
    owes.run_operation (hf.mono fun _ _ allowed => allowed.2) (.delete row.objectId)
  obtain ⟨_, owes⟩ : ∃ n, t.Owes n := owes.operate hw after
  obtain ⟨_, owes⟩ : ∃ n, second.2.Owes n :=
    owes.run_operation (Schedule.calm_within .errors) (.delete row.objectId)
  cases outcome : second.1 with
  | ok _ =>
      rw [outcome] at refuses
      exact refuses.elim
  | error failure =>
      rw [outcome] at refuses
      obtain ⟨still, ⟨name, rfl⟩ | ⟨_, _, never, _⟩⟩ := refuses
      · exact ⟨⟨name, rfl⟩, by rw [still.bound]; rfl, owes.taken still.bound⟩
      · exact never.elim

/-- Something is always broken at a point. -/
def brokenAt (point : String) : Schedule := fun _ => .ofList [(point, (.fail default, 1))]

theorem brokenAt_removals {point : String} (removal : point = "store.delete" ∨ point = "policy.release") :
    (brokenAt point).Within .removals := by
  refine Schedule.within_points fun s e place fault times passed waiting => ?_
  simp only [brokenAt, Dict.ofList, List.foldl, Dict.get?_insert, Dict.get?_empty] at waiting
  split at waiting
  · rename_i here
    subst here
    cases waiting
    refine ⟨?_, fun message same => by cases same⟩
    cases e with
    | release => rfl
    | backend descriptor call ctx =>
        have front := congrArg (Option.map fun text : String => text.toList.head?) passed
        rcases removal with rfl | rfl <;> simp [Effect.point?] at front
    | acquire => rcases removal with rfl | rfl <;> simp [Effect.point?] at passed
    | store op => cases op <;> rcases removal with rfl | rfl <;> simp_all [Effect.point?, Effect.isRemoval]
    | count | readCounters => cases passed
  · cases waiting

/-- One router on the first of two resources. -/
def oneRouter : State :=
  (State.initial (.localPool twoResources) .inMemory twoBackends ⟨0⟩).operate .calm twoHomes
    [(default, .create .empty)]

theorem deletion_not_retriable_after_creation :
    let first := oneRouter.runUnder (brokenAt "store.delete")
      (Dispatch.delete twoHomes default (IdSupply.name 0))
    let t := first.2.operate .calm twoHomes [(default, .create .empty)]
    let second := t.runUnder .calm (Dispatch.delete twoHomes default (IdSupply.name 0))
    (∃ name, second.1 = .error (.error (.routerNotFound name (IdSupply.name 0)))) ∧
      (second.2.store.ledger.active? (IdSupply.name 0)).map (·.resourceId) = some "r1" ∧
      "r1" ∈ second.2.pool.taken := by
  refine deletion_not_retriable twoHomes_fresh ⟨0⟩ (Schedule.calm_within .errors)
    (brokenAt_removals (.inl rfl)) [(default, .create .empty)] [(default, .create .empty)] default
    default (IdSupply.name 0) "r1" ?_ ?_ ?_
  · exact IdSupply.noRepeat rfl (by decide +kernel)
  · decide +kernel
  · decide +kernel

/-- What the second deletion of a router comes to when something was broken for the first one. -/
def deletedAgain (point : String) : Except Failure Unit × State :=
  (oneRouter.runUnder (brokenAt point) (Dispatch.delete twoHomes default (IdSupply.name 0))).2.runUnder
    .calm (Dispatch.delete twoHomes default (IdSupply.name 0))

/-- A deletion that could not remove the binding cannot be tried again, nor one that could not free
the resource and put the binding back: the router is live before, and its resource stays handed out. -/
theorem retry_refused :
    oneRouter.Live twoHomes (IdSupply.name 0) "r1" ∧
      (deletedAgain "store.delete").1 = .error (.error (.routerNotFound "east" (IdSupply.name 0))) ∧
      (deletedAgain "store.delete").2.pool.taken = ["r1"] ∧
      (deletedAgain "policy.release").1 = .error (.error (.routerNotFound "east" (IdSupply.name 0))) ∧
      (deletedAgain "policy.release").2.pool.taken = ["r1"] := by
  decide +kernel

end State
end Brokerage
