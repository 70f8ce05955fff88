import Brokerage.Proofs.Coupling

/-! # The broker's account of the pool

Whatever goes wrong, the broker gives back what it acquired or leaves it bound; only a resource
whose release fails is lost, and it is lost once.
-/

namespace Brokerage

theorem State.Step.no_panic {e : Effect} {s t : State} {o : e.Outcome} {message : String}
    (step : State.Step .errors e s o t) : o ≠ .error (.panic message) :=
  step.sober fun _ hits => hits

open Procedure (Ends)

namespace State

variable {hazard : Hazard} {l : Ledger} {unbound : List String} {failed : Nat} {s : State}
  {ctx : Context} {id objectId type : String} {α : Type}

namespace Balanced

theorem keeps_quiet {p : Procedure α} {ends : Except Failure α → Prop}
    (h : s.Balanced l unbound failed) (quiet : p.Within (·.isQuiet) ends) :
    p.Keeps (Step hazard) Accounted s fun r t => t.Balanced l unbound failed ∧ ends r :=
  .widen (.of_within quiet h fun _ _ _ _ asks held step => held.quiet asks step)
    fun _ held => held.accounted

theorem keeps_count {event : Counters.Event} (h : s.Balanced l unbound failed) :
    (Procedure.count event).Keeps (Step hazard) Accounted s <| Ends
      (fun _ t => t.Balanced l unbound failed) fun _ => False := by
  refine .perform h.accounted fun o t step => ?_
  have held := h.quiet rfl step
  obtain ⟨faults, rfl, _⟩ := step.count
  exact ⟨held.accounted, held⟩

theorem keeps_acquire (h : s.Balanced l unbound failed) :
    (Procedure.acquire ctx type).Keeps (Step hazard) Accounted s <| Ends
      (fun r t => Ledger.Legible (some r.metadata) ∧ t.Balanced l (r.id :: unbound) failed)
      (·.Balanced l unbound failed) := by
  refine .perform h.accounted fun o t step => ?_
  rcases h.acquire step with ⟨r, rfl, legible, held⟩ | ⟨failure, rfl, held⟩
  · exact ⟨held.accounted, legible, held⟩
  · exact ⟨held.accounted, held⟩

theorem keeps_release (h : s.Balanced l (id :: unbound) failed) :
    (Procedure.release ctx id).Keeps (Step hazard) Accounted s <| Ends
      (fun _ t => t.Balanced l unbound failed) (·.Balanced l (id :: unbound) (failed + 1)) := by
  refine .perform h.accounted fun o t step => ?_
  rcases h.release step with ⟨rfl, held⟩ | ⟨failure, rfl, held⟩
  · exact ⟨held.accounted, held⟩
  · exact ⟨held.accounted, held⟩

theorem keeps_add {a : Assignment}
    (h : s.Balanced l (a.placement.resourceId :: unbound) failed) :
    (Procedure.addBinding a).Keeps (Step .errors) Accounted s fun r t =>
      (t.Balanced (l.append (l.newRow a s.now)) unbound failed ∧
        (Ledger.Legible a.placement.metadata → ∃ b, r = .ok b)) ∨
      ∃ cause, r = .error (.error cause) ∧
        t.Balanced l (a.placement.resourceId :: unbound) failed := by
  refine .perform h.accounted fun o t step => ?_
  rcases h.add step with ⟨held, readable⟩ | ⟨failure, rfl, held⟩
  · exact ⟨held.accounted, .inl ⟨held, readable⟩⟩
  · cases failure with
    | error cause => exact ⟨held.accounted, .inr ⟨cause, rfl, held⟩⟩
    | panic message => exact absurd rfl step.no_panic

theorem keeps_get (h : s.Balanced l unbound failed) :
    (Procedure.getBinding objectId).Keeps (Step hazard) Accounted s fun r t =>
      t.Balanced l unbound failed ∧ ∀ b, r = .ok b → b.objectId = objectId ∧
        ∃ row, l.active? objectId = some row ∧ b.placement.resourceId = row.resourceId := by
  refine .perform h.accounted fun o t step => ?_
  have held := h.get step
  exact ⟨held.1.accounted, held⟩

theorem keeps_delete {row : Ledger.Row} (h : s.Balanced l unbound failed)
    (found : l.active? objectId = some row) :
    (Procedure.deleteBinding objectId).Keeps (Step hazard) Accounted s <| Ends
      (fun _ t => ∃ l', l'.active? objectId = none ∧
        t.Balanced l' (row.resourceId :: unbound) failed)
      (·.Balanced l unbound failed) := by
  refine .perform h.accounted fun o t step => ?_
  obtain ⟨p, pool, coupling⟩ := h.coupled
  rcases h.delete found step with ⟨rfl, held⟩ | ⟨failure, rfl, held⟩
  · exact ⟨held.accounted, _, Ledger.active?_retire coupling.sound.numbered, held⟩
  · exact ⟨held.accounted, held⟩

end Balanced

/-- Every resource that is unbound now and was not before was lost to a failed release. -/
def Settled (unbound : List String) (failed : Nat) (s : State) : Prop :=
  ∃ l lost, s.Balanced l (lost ++ unbound) (failed + lost.length)

theorem Balanced.settled (h : s.Balanced l unbound failed) : s.Settled unbound failed :=
  ⟨l, [], h⟩

theorem Settled.accounted (h : s.Settled unbound failed) : s.Accounted :=
  let ⟨_, _, held⟩ := h
  held.accounted

theorem Balanced.keeps_rollback (h : s.Balanced l (id :: unbound) failed) :
    (Broker.rollback ctx id).Keeps (Step .errors) Accounted s fun _ t => t.Settled unbound failed := by
  refine .bind_sure h.keeps_count fun _ t held => .bind_sure held.keeps_count fun _ t held => ?_
  exact .ignoreError held.keeps_release (fun _ t held => held.settled)
    (fun _ t held => ⟨l, [id], held⟩) fun _ t held => ⟨l, [id], held⟩

/-- The scope of an allocation gives the resource back that it was run on. -/
def KeepsResource (r : Resource) : Except Failure (Pending × α) → Prop
  | .ok (pending, _) => pending.resource = r
  | .error _ => True

/-- Acquiring hands out a resource, or the failure is counted. -/
theorem Balanced.keeps_acquiring (h : s.Balanced l unbound failed) :
    ((Procedure.acquire ctx type).onError (.count (.allocation .failure))).Keeps (Step .errors)
      Accounted s <| Ends
        (fun r t => Ledger.Legible (some r.metadata) ∧ t.Balanced l (r.id :: unbound) failed)
        (·.Settled unbound failed) := by
  exact .onError_ends h.keeps_acquire (fun _ held => held.settled) fun t held =>
    .sure held.keeps_count fun _ _ held => held.settled

/-- The scope ends with the resource that it was run on, or that one is given back. -/
theorem Balanced.keeps_scope {r : Resource} {body : Procedure (Pending × α)}
    (quiet : body.Within (·.isQuiet) (KeepsResource r))
    (h : s.Balanced l (r.id :: unbound) failed) :
    (body.onFailure (Broker.rollback ctx r.id)).Keeps (Step .errors) Accounted s <| Ends
      (fun result t => result.1.resource = r ∧ t.Balanced l (r.id :: unbound) failed)
      (·.Settled unbound failed) := by
  refine .onFailure (h.keeps_quiet quiet) (fun result t held => ⟨held.2, held.1⟩) ?_
  exact fun failure t held => .mono held.1.keeps_rollback fun r t _ settled => .of_failed settled

/-- The binding is recorded, or the resource is given back. -/
theorem Balanced.keeps_recording {r : Resource} (legible : Ledger.Legible (some r.metadata))
    (h : s.Balanced l (r.id :: unbound) failed) :
    ((Procedure.addBinding (.ofResource objectId r)).onError (Broker.rollback ctx r.id)).Keeps
      (Step .errors) Accounted s <| Ends (fun _ t => ∃ l', t.Balanced l' unbound failed)
        (·.Settled unbound failed) := by
  have bound : s.Balanced l ((Assignment.ofResource objectId r).placement.resourceId :: unbound)
    failed := h
  refine .onError bound.keeps_add ?_ ?_ ?_
  · rintro b t (⟨held, _⟩ | ⟨_, same, _⟩)
    · exact ⟨_, held⟩
    · cases same
  · rintro message t (⟨_, readable⟩ | ⟨_, same, _⟩)
    · obtain ⟨_, same⟩ := readable legible
      cases same
    · cases same
  · rintro e t (⟨_, readable⟩ | ⟨_, _, held⟩)
    · obtain ⟨_, same⟩ := readable legible
      cases same
    · exact .mono (Balanced.keeps_rollback held) fun r t _ settled => .of_failed settled

theorem Balanced.keeps_allocate {scope : Pending → Procedure (Pending × α)}
    (quiet : ∀ r, (scope (.ofResource r)).Within (·.isQuiet) (KeepsResource r))
    (h : s.Balanced l unbound failed) :
    (Broker.allocate ctx type scope).Keeps (Step .errors) Accounted s fun _ t =>
      t.Settled unbound failed := by
  refine .bind h.keeps_acquiring ?_ fun _ _ _ settled => settled
  rintro r t ⟨legible, held⟩
  refine .bind (held.keeps_scope (quiet r)) ?_ fun _ _ _ settled => settled
  rintro ⟨pending, value⟩ t ⟨rfl, held⟩
  cases named : pending.objectId with
  | none =>
      simp only [named]
      exact .bind held.keeps_rollback (fun _ t settled => .fail settled.accounted settled)
        fun _ _ _ settled => settled
  | some objectId =>
      simp only [named]
      refine .bind (held.keeps_recording legible) ?_ fun _ _ _ settled => settled
      rintro b t ⟨l', held⟩
      exact .bind_sure held.keeps_count fun _ t held => .pure held.accounted held.settled

/-- A failed release lost its resource, unless the object is bound again. -/
def Withdrawn (objectId : String) (unbound : List String) (failed : Nat) (s : State) : Prop :=
  ∃ l lost now, s.Balanced l (lost ++ unbound) now ∧
    lost.length = if (l.active? objectId).isSome then 0 else now - failed

theorem Balanced.withdrawn (h : s.Balanced l unbound failed) :
    s.Withdrawn objectId unbound failed :=
  ⟨l, [], failed, h, by simp⟩

theorem Withdrawn.keeps_count {event : Counters.Event} (h : s.Withdrawn objectId unbound failed) :
    (Procedure.count event).Keeps (Step hazard) Accounted s <| Ends
      (fun _ t => t.Withdrawn objectId unbound failed) fun _ => False := by
  obtain ⟨l, lost, now, held, length⟩ := h
  exact .sure held.keeps_count fun _ _ held => ⟨l, lost, now, held, length⟩

theorem Withdrawn.accounted (h : s.Withdrawn objectId unbound failed) : s.Accounted :=
  let ⟨_, _, _, held, _⟩ := h
  held.accounted

/-- The resource of a removed binding is given back, or the binding is recorded anew. -/
theorem Balanced.keeps_restoring {b : Binding}
    (h : s.Balanced l (b.placement.resourceId :: unbound) failed)
    (removed : l.active? b.objectId = none) :
    ((Procedure.release ctx b.placement.resourceId).onError
      (Procedure.addBinding (.ofBinding b)).ignoreError).Keeps (Step .errors) Accounted s fun _ t =>
        t.Withdrawn b.objectId unbound failed := by
  have lost : ∀ t : State, t.Balanced l (b.placement.resourceId :: unbound) (failed + 1) →
      t.Withdrawn b.objectId unbound failed :=
    fun t held => ⟨l, [b.placement.resourceId], _, held, by simp [removed]⟩
  refine .onError h.keeps_release (fun _ t held => held.withdrawn) (fun _ t held => lost t held) ?_
  intro e t held
  have added : (Procedure.addBinding (.ofBinding b)).Keeps (Step .errors) Accounted t fun _ t =>
      t.Withdrawn b.objectId unbound failed := by
    have unbound : t.Balanced l ((Assignment.ofBinding b).placement.resourceId :: unbound)
      (failed + 1) := held
    refine .mono unbound.keeps_add ?_
    rintro _ u - (⟨held, _⟩ | ⟨_, _, held⟩)
    · have bound : ((l.append (l.newRow (.ofBinding b) t.now)).active? b.objectId).isSome :=
        Ledger.active?_append rfl
      exact ⟨_, [], _, held, by simp [bound]⟩
    · exact lost u held
  have forgotten : (Procedure.addBinding (.ofBinding b)).ignoreError.Keeps (Step .errors) Accounted t
      fun _ t => t.Withdrawn b.objectId unbound failed :=
    .ignoreError added (fun _ t done => done) (fun _ t done => done) fun _ t done => done
  refine .mono forgotten fun r u _ done => ?_
  cases r <;> exact done

theorem Balanced.keeps_withdraw {scope : Binding → Procedure α}
    (quiet : ∀ b, (scope b).Within (·.isQuiet) fun _ => True) (h : s.Balanced l unbound failed) :
    (Broker.withdraw ctx objectId scope).Keeps (Step .errors) Accounted s fun _ t =>
      t.Withdrawn objectId unbound failed := by
  refine .bind h.keeps_get ?_ fun _ _ _ held => held.1.withdrawn
  rintro b t ⟨held, read⟩
  obtain ⟨rfl, row, found, same⟩ := read b rfl
  refine .bind (held.keeps_quiet (quiet b)) ?_ fun _ _ _ held => held.1.withdrawn
  rintro value t ⟨held, -⟩
  refine .bind (held.keeps_delete found) ?_ fun _ _ _ held => held.withdrawn
  rintro _ t ⟨l', removed, held⟩
  rw [← same] at held
  refine .bind (held.keeps_restoring removed) ?_ fun _ _ _ done => done
  exact fun _ t done => .pure done.accounted done

theorem Balanced.keeps_deallocate {scope : Binding → Procedure α}
    (quiet : ∀ b, (scope b).Within (·.isQuiet) fun _ => True) (h : s.Balanced l unbound failed) :
    (Broker.deallocate ctx objectId scope).Keeps (Step .errors) Accounted s fun _ t =>
      t.Withdrawn objectId unbound failed := by
  have withdrawn : ((Broker.withdraw ctx objectId scope).onError
      (.count (.deallocation .failure))).Keeps (Step .errors) Accounted s fun _ t =>
        t.Withdrawn objectId unbound failed := by
    refine .onError (h.keeps_withdraw quiet) (fun _ t done => done) (fun _ t done => done) ?_
    exact fun e t done => .sure done.keeps_count fun _ _ done => done
  refine .bind withdrawn ?_ fun _ _ _ done => done
  intro value t done
  exact .bind_sure done.keeps_count fun _ t done => .pure done.accounted done

end State
end Brokerage
