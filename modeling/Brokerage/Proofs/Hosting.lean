import Brokerage.Proofs.Directory

/-! # Bindings lead to backends

Listings rely on less than the books: every binding leads to a backend that is there, and backends
hold their routers under ids of their own. Operations keep to that whatever goes wrong and whatever
the pool holds, since a binding is recorded only when its backend was looked up.
-/

namespace Brokerage

/-- Bindings are recorded for registered descriptors alone, and never moved. -/
def Effect.isRegistered (registry : Registry) : Effect → Bool
  | store (.add a) => registry.contains a.placement.descriptor
  | store (.update ..) => false
  | _ => true

namespace Procedure

variable {α β : Type} {asks : Effect → Bool} {good : α → Prop}

/-- A result, if there is one, has a property. -/
def Gives (good : α → Prop) : Except Failure α → Prop
  | .ok a => good a
  | .error _ => True

theorem Asks.gives {p : Procedure α} (h : p.Asks asks) (all : ∀ a, good a) :
    p.Within (asks · = true) (Gives good) := by
  refine Dialogue.Within.mono h fun r _ => ?_
  cases r with
  | ok a => exact all a
  | error _ => trivial

theorem Asks.bind_gives {p : Procedure α} {f : α → Procedure β}
    (h : p.Within (asks · = true) (Gives good)) (next : ∀ a, good a → (f a).Asks asks) :
    (p >>= f).Asks asks :=
  Within.bind h next fun _ _ => trivial

theorem Within.onFailure {p : Procedure α} {cleanUp : Procedure Unit}
    (h : p.Within (asks · = true) (Gives good)) (cleaned : cleanUp.Asks asks) :
    (p.onFailure cleanUp).Within (asks · = true) (Gives good) := by
  have ended : p.outcome.Within (asks · = true) (Gives (Gives good)) :=
    Dialogue.Within.bind (Dialogue.Within.mono h fun _ given => given)
  refine .bind ended (fun r given => ?_) fun _ _ => trivial
  cases r with
  | ok a => exact .pure given
  | error failure => exact .bind cleaned (fun _ _ => trivial) fun _ _ => trivial

end Procedure

namespace Dispatch

open Procedure (Gives)

variable {registry : Registry} {ctx : Context} {id : String} {request : Router.Request}

theorem lookUp_gives {descriptor : String} :
    (Procedure.ofExcept (registry.get descriptor)).Within (Effect.isRegistered registry · = true)
      (Gives fun _ => registry.contains descriptor = true) :=
  .ofExcept (fun _ got => Registry.get_ok got) fun _ => trivial

theorem creation_registered {r : Resource} :
    (creation registry ctx request (.ofResource r)).Within (Effect.isRegistered registry · = true)
      (Gives fun result => registry.contains result.1.resource.descriptor = true) := by
  refine .bind lookUp_gives (fun _ known => ?_) fun _ _ => trivial
  have called : (Procedure.callBackend r.descriptor (.create (onResource request r)) ctx).Asks
      (Effect.isRegistered registry) := .perform rfl
  exact .bind called (fun _ _ => .pure known) fun _ _ => trivial

theorem deletion_registered {b : Binding} :
    (deletion registry ctx id b).Within (Effect.isRegistered registry · = true)
      (Gives fun _ => registry.contains b.placement.descriptor = true) := by
  refine .bind lookUp_gives (fun _ known => ?_) fun _ _ => trivial
  exact Procedure.Asks.gives (.perform rfl) fun _ => known

theorem create_registered : (create registry ctx request).Asks (Effect.isRegistered registry) := by
  have undo (resourceId : String) :
      (Broker.rollback ctx resourceId).Asks (Effect.isRegistered registry) :=
    .bind (.perform rfl) fun _ => .bind (.perform rfl) fun _ => .ignoreError (.perform rfl)
  refine .bind (.bind (.onError (.perform rfl) (.perform rfl)) fun r => ?_) fun _ => .pure
  refine .bind_gives (creation_registered.onFailure (undo r.id)) ?_
  rintro ⟨pending, router⟩ known
  cases named : pending.objectId with
  | none =>
      simp only [named]
      exact .bind (undo r.id) fun _ => .throw
  | some objectId =>
      simp only [named]
      refine .bind (.onError (.perform known) (undo r.id)) fun _ => ?_
      exact .bind (.perform rfl) fun _ => .pure

theorem delete_registered : (delete registry ctx id).Asks (Effect.isRegistered registry) := by
  have withdrawn : (Broker.withdraw ctx id (deletion registry ctx id)).Asks
      (Effect.isRegistered registry) := by
    refine .bind (.perform rfl) fun b => ?_
    refine .bind_gives deletion_registered fun _ known => ?_
    refine .bind (.perform rfl) fun _ => .bind (.onError (.perform rfl) ?_) fun _ => .pure
    exact .ignoreError (.perform known)
  exact .bind (.onError withdrawn (.perform rfl)) fun _ => .bind (.perform rfl) fun _ => .pure

theorem Operation.procedure_registered (op : Operation) :
    (op.procedure registry ctx).Asks (Effect.isRegistered registry) := by
  cases op with
  | create request => exact create_registered
  | delete id => exact delete_registered
  | _ => exact procedure_asks rfl (fun _ => rfl) (fun _ => rfl) fun _ _ => rfl

end Dispatch

namespace State

/-- Backends hold routers under ids of their own, and there is one for every binding. -/
structure Served (registry : Registry) (base : IdSupply) (s : State) : Prop where
  housed : ∃ placed, s.Housed registry base placed
  usable : s.store.Usable
  registered : ∀ row ∈ s.store.ledger.actives, registry.contains row.descriptor = true

variable {registry : Registry} {seed : Pool} {base bound : IdSupply} {s t : State} {hazard : Hazard}
  {placed : List (String × Router)}

theorem Layout.served {l : Ledger} {unbound : List String}
    (h : s.Layout registry seed base l unbound placed) : s.Served registry base where
  housed := ⟨placed, h.housed⟩
  usable := h.booked.usable
  registered := by
    rw [h.booked.ledger]
    exact fun row member => (h.booked.proper row member).registered

theorem Housed.step {e : Effect} {o : e.Outcome} (unique : base.NoRepeat bound)
    (h : s.Housed registry base placed) (step : Step hazard e s o t) (room : t.ids ≤ bound) :
    ∃ placed, t.Housed registry base placed := by
  cases e with
  | backend descriptor call ctx =>
      cases call with
      | create request =>
          rcases h.create unique step room with ⟨_, _, _, held⟩ | ⟨_, _, held⟩ <;> exact ⟨_, held⟩
      | update id request =>
          rcases h.update step with ⟨_, _, _, _, held⟩ | ⟨_, _, held⟩ <;> exact ⟨_, held⟩
      | delete id =>
          rcases h.delete step with ⟨_, _, held⟩ | ⟨_, _, held⟩ <;> exact ⟨_, held⟩
      | get | list | addInterface | removeInterface | invoke => exact ⟨placed, h.gentle rfl step⟩
  | acquire | release | store | count | readCounters =>
      have frame := step.backends_eq nofun
      exact ⟨placed, h.congr frame.1 frame.2⟩

namespace Served

theorem step {e : Effect} {o : e.Outcome} (unique : base.NoRepeat bound)
    (h : s.Served registry base) (fits : e.isRegistered registry = true)
    (step : Step hazard e s o t) (room : t.ids ≤ bound) : t.Served registry base := by
  obtain ⟨placed, housed⟩ := h.housed
  refine ⟨housed.step unique step room, step.usable h.usable, ?_⟩
  cases e with
  | acquire | release | backend | count | readCounters =>
      rw [step.store_eq nofun]
      exact h.registered
  | store op =>
      cases op with
      | add a =>
          rcases step.add with ⟨_, _, _, rfl⟩ | ⟨_, _, _, rfl, _⟩
          · intro row member
            have added : (s.store.ledger.newRow a s.now).isActive = true := rfl
            have rows : row ∈ s.store.ledger.actives ++ [s.store.ledger.newRow a s.now] :=
              Ledger.actives_append added ▸ member
            rcases List.mem_append.1 rows with old | new
            · exact h.registered row old
            · exact List.mem_singleton.1 new ▸ fits
          · exact h.registered
      | delete id =>
          rcases step.delete with ⟨_, _, _, _, rfl⟩ | ⟨_, _, _, rfl, _⟩
          · intro row member
            obtain ⟨inside, active⟩ := Ledger.mem_actives.1 member
            obtain ⟨old, known, rfl⟩ := Ledger.mem_modifyActive.1 inside
            split at active
            · rename_i hit
              have counts : old.isActive = true := (Bool.and_eq_true _ _ ▸ hit).2
              simpa [hit, Ledger.Row.retire] using
                h.registered old (Ledger.mem_actives.2 ⟨known, counts⟩)
            · rename_i miss
              simpa [miss] using h.registered old (Ledger.mem_actives.2 ⟨known, active⟩)
          · exact h.registered
      | update => cases fits
      | get | list | health =>
          rcases step.store with ⟨_, _, rfl⟩ | ⟨_, _, _, rfl, _⟩ <;> exact h.registered

theorem keeps_asks {α : Type} {p : Procedure α} (unique : base.NoRepeat bound)
    (h : s.Served registry base) (asks : p.Asks (Effect.isRegistered registry)) :
    p.Keeps (Moves.into (Step hazard) (·.ids ≤ bound)) anyhow s fun _ t =>
      t.Served registry base := by
  have held : p.Keeps (Moves.into (Step hazard) (·.ids ≤ bound)) (·.Served registry base) s
      fun _ _ => True :=
    .of_within asks h fun _ _ _ _ fits held step => held.step unique fits step.1 step.2
  exact .mono (held.widen fun _ _ => trivial) fun _ _ _ kept => kept.1

/-- Whatever goes wrong, operations keep to it, as long as no id is given out twice. -/
theorem operate (w : Schedule) (ops : List (Context × Dispatch.Operation))
    (h : s.Served registry base) (unique : base.NoRepeat (s.operate w registry ops).ids) :
    (s.operate w registry ops).Served registry base := by
  have moves : w.Moves (Step .any) := performUnder_step w
  induction ops generalizing s with
  | nil => exact h
  | cons call rest ih =>
      obtain ⟨ctx, op⟩ := call
      have room := operate_ids_le w registry rest (s.runUnder w (op.procedure registry ctx)).2
      refine ih ?_ unique
      exact (h.keeps_asks unique op.procedure_registered).end_of_run_into moves
        (fun e t later => (performUnder_ids_le w e t).trans later) room

end Served

theorem Start.served {store : Store} {backends : Dict Backend}
    (start : Start registry seed store backends) (ids : IdSupply) :
    (State.initial (.localPool seed) store backends ids).Served registry ids where
  housed := ⟨[], start.housed ids⟩
  usable := start.usable
  registered := by
    intro row member
    rw [show (State.initial (.localPool seed) store backends ids).store.ledger = ∅ from
      start.blank] at member
    cases member

end State
end Brokerage
