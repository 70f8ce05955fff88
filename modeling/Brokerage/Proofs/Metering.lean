import Brokerage.Proofs.Allocation
import Brokerage.Proofs.Legibility
import Brokerage.Proofs.Sessions

/-! # What the counters tell

Calls of a broker are counted in four places, and every one is counted once, however it ends. So the
counters tell how many calls ended well and how many failed, and what allocations are ahead of
deallocations are the bindings that count, but for those that a deallocation could not record anew
(`State.counters_account`).
-/

namespace Brokerage

namespace Counters

variable {c : Counters} {event other : Event} {events : List Event}

/-- How often an event was counted. -/
def seen (c : Counters) : Event → Nat
  | .allocation outcome => c.allocations.count outcome
  | .deallocation outcome => c.deallocations.count outcome
  | .rollback => c.rollbacks

theorem seen_record :
    (c.record event).seen other = c.seen other + if event = other then 1 else 0 := by
  cases event <;> cases other <;> simp [seen, record, eq_comm]

def recordAll (c : Counters) (events : List Event) : Counters := events.foldl record c

theorem seen_recordAll : (c.recordAll events).seen other = c.seen other + events.count other := by
  induction events generalizing c with
  | nil => rfl
  | cons event rest ih =>
      rw [recordAll, List.foldl_cons, ← recordAll, ih, seen_record, List.count_cons]
      simp only [beq_iff_eq]
      omega

end Counters

/-- Effects that neither count nor record nor remove a binding. -/
def Effect.isUncounted : Effect → Bool
  | count _ | store (.add _) | store (.delete _) => false
  | _ => true

/-- A binding that was not recorded. -/
def Event.isFailedAdd : Event → Bool
  | .answered (.store (.add _)) (.error _) => true
  | _ => false

namespace State

/-- How many bindings could not be recorded so far. -/
def failedAdds (s : State) : Nat := s.journal.countP (·.isFailedAdd)

theorem failedAdds_recorded {s : State} {faults : Faults} {e : Effect} {o : e.Outcome} :
    (s.recorded faults e o).failedAdds =
      s.failedAdds + if (Event.answered e o).isFailedAdd then 1 else 0 := by
  have asked : (Event.asked e).isFailedAdd = false := rfl
  simp [failedAdds, recorded, List.countP_append, List.countP_cons, asked]

/-- An object has one row that counts, and what is handed out can be recorded. -/
structure Orderly (s : State) : Prop where
  sound : s.store.ledger.Sound
  readable : s.policy.Readable

/-- What was counted so far, how many bindings count, and how many could not be recorded. -/
structure Shows (counters : Counters) (active failed : Nat) (s : State) : Prop extends
    Orderly s where
  counters : s.counters = counters
  active : s.store.ledger.actives.length = active
  failed : s.failedAdds = failed

variable {hazard : Hazard} {s t : State} {c : Counters} {n k : Nat} {faults : Faults}
  {ctx : Context} {id objectId type : String}

namespace Shows

theorem recorded {e : Effect} {o : e.Outcome} (h : s.Shows c n k)
    (kept : (Event.answered e o).isFailedAdd = false) : (s.recorded faults e o).Shows c n k where
  sound := h.sound
  readable := h.readable
  counters := h.counters
  active := h.active
  failed := by simp [failedAdds_recorded, kept, h.failed]

theorem withLedger {ledger : Ledger} {m : Nat} (h : s.Shows c n k) (sound : ledger.Sound)
    (active : ledger.actives.length = m) : (s.withLedger ledger).Shows c m k where
  sound := sound
  readable := h.readable
  counters := h.counters
  active := active
  failed := h.failed

theorem withPolicy {policy : Policy} (h : s.Shows c n k) (readable : policy.Readable) :
    ({ s with policy } : State).Shows c n k where
  sound := h.sound
  readable := readable
  counters := h.counters
  active := h.active
  failed := h.failed

theorem withBackend {descriptor : String} {b : Backend} {ids : IdSupply} (h : s.Shows c n k) :
    (s.withBackend descriptor b ids).Shows c n k where
  sound := h.sound
  readable := h.readable
  counters := h.counters
  active := h.active
  failed := h.failed

theorem uncounted_store {op : Store.Op} {o : Effect.Outcome (.store op)} (h : s.Shows c n k)
    (asks : (Effect.store op).isUncounted = true) (step : Step hazard (.store op) s o t) :
    t.Shows c n k := by
  cases op with
  | add | delete => cases asks
  | get | list | health =>
      rcases step.store with ⟨_, _, rfl⟩ | ⟨_, _, _, rfl, _⟩
      · exact (h.withLedger h.sound h.active).recorded rfl
      · exact h.recorded rfl
  | update objectId change =>
      rcases step.update with ⟨row, b, _, _, _, rfl⟩ | ⟨_, rfl⟩
      · apply Shows.recorded (h.withLedger (h.sound.move _) ?_) rfl
        rw [Ledger.actives_move, List.length_map, h.active]
      · exact h.recorded rfl

theorem uncounted {e : Effect} {o : e.Outcome} (h : s.Shows c n k) (asks : e.isUncounted = true)
    (step : Step hazard e s o t) : t.Shows c n k := by
  cases e with
  | count => cases asks
  | store op => exact h.uncounted_store asks step
  | readCounters => cases step <;> exact h.recorded rfl
  | acquire ctx type =>
      cases step with
      | happened => exact (h.withPolicy (h.readable.acquire type)).recorded rfl
      | struck => exact h.recorded rfl
  | release ctx id =>
      cases step with
      | happened => exact (h.withPolicy (h.readable.release id)).recorded rfl
      | struck => exact h.recorded rfl
  | backend descriptor call ctx =>
      rcases step.backend with ⟨b, _, _, _, rfl⟩ | ⟨_, _, _, rfl, _⟩
      · exact h.withBackend.recorded rfl
      · exact h.recorded rfl

/-- What is handed out can be recorded. -/
theorem acquired {r : Resource} (h : s.Shows c n k)
    (step : Step hazard (.acquire ctx type) s (.ok r) t) : Ledger.Legible (some r.metadata) := by
  generalize answered : (Except.ok r : Effect.Outcome (.acquire ctx type)) = o at step
  cases step with
  | happened => exact h.readable.legible (mapError_eq_ok.1 answered.symm)
  | struck => cases answered

theorem count {event : Counters.Event} {o : Effect.Outcome (.count event)} (h : s.Shows c n k)
    (step : Step hazard (.count event) s o t) : o = .ok () ∧ t.Shows (c.record event) n k := by
  obtain ⟨faults, rfl, rfl⟩ := step.count
  refine ⟨rfl, ⟨h.sound, h.readable⟩, ?_, h.active, ?_⟩
  · rw [← h.counters]
    rfl
  · rw [failedAdds_recorded, ← h.failed]
    rfl

theorem add {a : Assignment} {o : Effect.Outcome (.store (.add a))} (h : s.Shows c n k)
    (legible : Ledger.Legible a.placement.metadata) (step : Step hazard (.store (.add a)) s o t) :
    (∃ b, o = .ok b) ∧ t.Shows c (n + 1) k ∨
      (∃ failure, o = .error failure) ∧ t.Shows c n (k + 1) := by
  rcases step.add with ⟨faults, new, rfl, rfl⟩ | ⟨failure, faults, rfl, rfl, _⟩
  · left
    obtain ⟨b, read⟩ : ∃ b, (s.store.ledger.newRow a s.now).toBinding = .ok b :=
      Ledger.newRow_legible legible
    rw [read]
    refine ⟨⟨b, rfl⟩, Shows.recorded (h.withLedger ?_ ?_) rfl⟩
    · exact h.sound.append rfl (Ledger.newRow_numbered a) new
    · rw [Ledger.actives_append rfl, List.length_append, h.active]
      rfl
  · right
    refine ⟨⟨failure, rfl⟩, ⟨h.sound, h.readable⟩, h.counters, h.active, ?_⟩
    rw [failedAdds_recorded, h.failed]
    rfl

theorem delete {o : Effect.Outcome (.store (.delete objectId))} (h : s.Shows c n k)
    (step : Step hazard (.store (.delete objectId)) s o t) :
    o = .ok () ∧ (∃ m, n = m + 1 ∧ t.Shows c m k) ∨
      (∃ failure, o = .error failure) ∧ t.Shows c n k := by
  rcases step.delete with ⟨row, faults, found, rfl, rfl⟩ | ⟨failure, faults, rfl, rfl, _⟩
  · left
    have length := (h.sound.actives_perm found).length_eq
    rw [h.active, List.length_cons] at length
    refine ⟨rfl, _, length, Shows.recorded (h.withLedger h.sound.retire ?_) rfl⟩
    rw [Ledger.actives_retire h.sound.numbered]
  · exact .inr ⟨⟨failure, rfl⟩, h.recorded rfl⟩

end Shows

open Procedure (Ends)

namespace Shows

variable {α : Type}

theorem keeps_uncounted {p : Procedure α} {ends : Except Failure α → Prop} (h : s.Shows c n k)
    (asks : p.Within (·.isUncounted) ends) :
    p.Keeps (Step hazard) Orderly s fun r t => t.Shows c n k ∧ ends r :=
  .widen (.of_within asks h fun _ _ _ _ asks held step => held.uncounted asks step)
    fun _ held => held.toOrderly

theorem keeps_count {event : Counters.Event} (h : s.Shows c n k) :
    (Procedure.count event).Keeps (Step hazard) Orderly s <| Ends
      (fun _ t => t.Shows (c.record event) n k) fun _ => False := by
  refine .perform h.toOrderly fun o t step => ?_
  obtain ⟨rfl, held⟩ := h.count step
  exact ⟨held.toOrderly, held⟩

theorem keeps_release (h : s.Shows c n k) :
    (Procedure.release ctx id).Keeps (Step .steady) Orderly s fun r t =>
      (∀ message, r ≠ .error (.panic message)) ∧ t.Shows c n k := by
  refine .perform h.toOrderly fun o t step => ?_
  have held := h.uncounted rfl step
  exact ⟨held.toOrderly, step.steady nofun, held⟩

theorem keeps_add {a : Assignment} (h : s.Shows c n k)
    (legible : Ledger.Legible a.placement.metadata) :
    (Procedure.addBinding a).Keeps (Step .steady) Orderly s fun r t =>
      (∀ message, r ≠ .error (.panic message)) ∧
        Ends (fun _ t => t.Shows c (n + 1) k) (fun t => t.Shows c n (k + 1)) r t := by
  refine .perform h.toOrderly fun o t step => ?_
  have sober := step.steady nofun
  rcases h.add legible step with ⟨⟨b, rfl⟩, held⟩ | ⟨⟨failure, rfl⟩, held⟩
  · exact ⟨held.toOrderly, sober, held⟩
  · exact ⟨held.toOrderly, sober, held⟩

theorem keeps_rollback (h : s.Shows c n k) :
    (Broker.rollback ctx id).Keeps (Step .steady) Orderly s <| Ends
      (fun _ t => t.Shows (c.recordAll [.allocation .failure, .rollback]) n k) fun _ => False := by
  apply Procedure.Keeps.bind_sure h.keeps_count
  intro _ t held
  apply Procedure.Keeps.bind_sure held.keeps_count
  intro _ t held
  refine .ignoreError held.keeps_release (fun _ _ held => held.2) (fun _ _ held => held.2) ?_
  intro message _ held
  exact absurd rfl (held.1 message)

end Shows

/-! ## Allocations -/

/-- If a scope ends well, the resource that it gives back can be recorded. -/
def EndsLegible {α : Type} : Except Failure (Pending × α) → Prop
  | .ok (pending, _) => Ledger.Legible (some pending.resource.metadata)
  | .error _ => True

/-- An allocation that fails is counted as a failure and as a rollback. -/
def RefusedOn (c : Counters) (n : Nat) (s : State) : Prop :=
  ∃ k, s.Shows (c.recordAll [.allocation .failure, .rollback]) n k

section

variable {α : Type} {scope : Pending → Procedure (Pending × α)} {w : Schedule} {r : Resource}

theorem RefusedOn.orderly (h : s.RefusedOn c n) : s.Orderly :=
  let ⟨_, held⟩ := h
  held.toOrderly

theorem Shows.keeps_refusal (h : s.Shows c n k) :
    (Broker.rollback ctx id).Keeps (Step .steady) Orderly s fun _ t => t.RefusedOn c n :=
  .sure h.keeps_rollback fun _ _ held => ⟨k, held⟩

theorem Shows.keeps_recording (h : s.Shows c n k) (legible : Ledger.Legible (some r.metadata))
    (value : α) :
    Procedure.Keeps (Step .steady) Orderly (do
      let binding ← (Procedure.addBinding (.ofResource objectId r)).onError (Broker.rollback ctx id)
      .count (.allocation .success)
      return (value, binding)) s <| Ends
        (fun _ t => t.Shows (c.record (.allocation .success)) (n + 1) k) (·.RefusedOn c n) := by
  have recording : ((Procedure.addBinding (.ofResource objectId r)).onError
      (Broker.rollback ctx id)).Keeps (Step .steady) Orderly s <| Ends
        (fun _ t => t.Shows c (n + 1) k) (·.RefusedOn c n) := by
    refine .onError (h.keeps_add legible) (fun _ _ held => held.2) ?_ ?_
    · intro message t held
      exact absurd rfl (held.1 message)
    · intro e t held
      exact .mono (Shows.keeps_refusal held.2) fun _ _ _ refused => .of_failed refused
  apply recording.bind_ends
  intro binding t held
  apply Procedure.Keeps.bind_sure held.keeps_count
  exact fun _ t held => .pure held.toOrderly held

/-- With a resource at hand an allocation binds an object to it, or gives it back. -/
theorem Shows.keeps_placing (h : s.Shows c n k)
    (asks : (scope (.ofResource r)).Within (·.isUncounted) EndsLegible) :
    (Broker.place ctx r scope).Keeps (Step .steady) Orderly s <| Ends
      (fun _ t => t.Shows (c.record (.allocation .success)) (n + 1) k) (·.RefusedOn c n) := by
  have body : ((scope (.ofResource r)).onFailure (Broker.rollback ctx r.id)).Keeps (Step .steady)
      Orderly s <| Ends (fun result t => t.Shows c n k ∧
        Ledger.Legible (some result.1.resource.metadata)) (·.RefusedOn c n) := by
    refine .onFailure (h.keeps_uncounted asks) (fun _ _ held => held) ?_
    intro failure t held
    exact .mono held.1.keeps_refusal fun _ _ _ refused => .of_failed refused
  apply body.bind_ends
  intro (pending, value) t ⟨held, legible⟩
  cases named : pending.objectId with
  | none =>
      simp only [named]
      refine .bind held.keeps_refusal ?_ fun _ _ _ refused => refused
      exact fun _ t refused => .fail refused.orderly refused
  | some objectId =>
      simp only [named]
      exact held.keeps_recording legible value

theorem Shows.allocate (ctx : Context) (type : String) (h : s.Shows c n k) (hw : w.Within .steady)
    (asks : ∀ r, Ledger.Legible (some r.metadata) →
      (scope (.ofResource r)).Within (·.isUncounted) EndsLegible) :
    ((s.runUnder w (.acquire ctx type)).1.isOk = true ∧
      Ends (fun _ t => t.Shows (c.record (.allocation .success)) (n + 1) k) (·.RefusedOn c n)
        (s.runUnder w (Broker.allocate ctx type scope)).1
        (s.runUnder w (Broker.allocate ctx type scope)).2) ∨
    ((s.runUnder w (.acquire ctx type)).1.isOk = false ∧
      ∃ failure, (s.runUnder w (Broker.allocate ctx type scope)).1 = .error failure ∧
        (s.runUnder w (Broker.allocate ctx type scope)).2.Shows
          (c.record (.allocation .failure)) n k) := by
  cases acquired : s.runUnder w (.acquire ctx type) with
  | mk o t =>
      have step := runUnder_step hw acquired
      have held := h.uncounted rfl step
      cases o with
      | ok r =>
          left
          rw [allocate_run acquired]
          exact ⟨rfl, (held.keeps_placing (asks r (h.acquired step))).end_of_run hw.moves⟩
      | error failure =>
          right
          obtain ⟨u, counted, _⟩ := count_run hw (.allocation .failure) t
          cases failure with
          | panic message => exact absurd rfl (step.steady nofun message)
          | error e =>
              have ended : s.runUnder w (Broker.allocate ctx type scope) = (.error (.error e), u) :=
                runUnder_bind_error (runUnder_onError_error acquired counted)
              rw [ended]
              exact ⟨rfl, _, rfl, (held.count (runUnder_step hw counted)).2⟩

end

/-! ## Deallocations -/

/-- A binding was removed. -/
def Removed (c : Counters) (n k : Nat) (s : State) : Prop := ∃ m, n = m + 1 ∧ s.Shows c m k

/-- Every binding is still there, but for one that could not be recorded anew. -/
def Retained (c : Counters) (n k : Nat) (s : State) : Prop :=
  s.Shows c n k ∨ s.Removed c n (k + 1)

section

variable {α : Type} {scope : Binding → Procedure α} {b : Binding}

theorem Removed.orderly (h : s.Removed c n k) : s.Orderly :=
  let ⟨_, _, held⟩ := h
  held.toOrderly

theorem Retained.orderly (h : s.Retained c n k) : s.Orderly := by
  rcases h with held | removed
  · exact held.toOrderly
  · exact removed.orderly

theorem Removed.keeps_count {event : Counters.Event} (h : s.Removed c n k) :
    (Procedure.count event).Keeps (Step hazard) Orderly s <| Ends
      (fun _ t => t.Removed (c.record event) n k) fun _ => False := by
  obtain ⟨m, rfl, held⟩ := h
  exact .sure held.keeps_count fun _ _ held => ⟨m, rfl, held⟩

theorem Retained.keeps_count {event : Counters.Event} (h : s.Retained c n k) :
    (Procedure.count event).Keeps (Step hazard) Orderly s <| Ends
      (fun _ t => t.Retained (c.record event) n k) fun _ => False := by
  rcases h with held | removed
  · exact .sure held.keeps_count fun _ _ held => .inl held
  · exact .sure removed.keeps_count fun _ _ held => .inr held

theorem Shows.keeps_get (h : s.Shows c n k) :
    (Procedure.getBinding objectId).Keeps (Step hazard) Orderly s <| Ends
      (fun b t => Ledger.Legible b.placement.metadata ∧ t.Shows c n k) (·.Retained c n k) := by
  refine .perform h.toOrderly fun o t step => ?_
  have held := h.uncounted rfl step
  refine ⟨held.toOrderly, ?_⟩
  cases o with
  | error failure => exact .inl held
  | ok b =>
      refine ⟨?_, held⟩
      rcases step.get.2 with answered | ⟨_, failed, _⟩
      · obtain ⟨row, _, read⟩ := Ledger.get_ok (mapError_eq_ok.1 answered.symm)
        exact Ledger.toBinding_legible read
      · cases failed

theorem Shows.keeps_delete (h : s.Shows c n k) :
    (Procedure.deleteBinding objectId).Keeps (Step hazard) Orderly s <| Ends
      (fun _ t => t.Removed c n k) (·.Retained c n k) := by
  refine .perform h.toOrderly fun o t step => ?_
  rcases h.delete step with ⟨rfl, removed⟩ | ⟨⟨failure, rfl⟩, held⟩
  · exact ⟨Removed.orderly removed, removed⟩
  · exact ⟨held.toOrderly, .inl held⟩

/-- The resource of a removed binding is freed, or the binding is recorded anew, or that fails. -/
theorem Removed.keeps_freeing (h : s.Removed c n k)
    (legible : Ledger.Legible b.placement.metadata) :
    ((Procedure.release ctx id).onError (Procedure.addBinding (.ofBinding b)).ignoreError).Keeps
      (Step .steady) Orderly s <| Ends (fun _ t => t.Removed c n k) (·.Retained c n k) := by
  obtain ⟨m, rfl, held⟩ := h
  refine .onError held.keeps_release (fun _ t held => ⟨m, rfl, held.2⟩) ?_ ?_
  · intro message t held
    exact absurd rfl (held.1 message)
  · -- What was read from the table can be read from it again, so adding fails before it adds a row.
    intro e t held
    have renewed : (Procedure.addBinding (.ofBinding b)).ignoreError.Keeps (Step .steady) Orderly t
        fun _ u => u.Retained c (m + 1) k := by
      refine .ignoreError (held.2.keeps_add legible) ?_ ?_ ?_
      · exact fun _ u added => .inl added.2
      · exact fun _ u added => .inr ⟨m, rfl, added.2⟩
      · exact fun message _ added => absurd rfl (added.1 message)
    exact renewed.mono fun _ _ _ retained => .of_failed retained

theorem Shows.keeps_withdraw (h : s.Shows c n k) (asks : ∀ b, (scope b).Asks Effect.isUncounted) :
    (Broker.withdraw ctx objectId scope).Keeps (Step .steady) Orderly s <| Ends
      (fun _ t => t.Removed c n k) (·.Retained c n k) := by
  apply h.keeps_get.bind_ends
  intro b t ⟨legible, held⟩
  refine .bind (held.keeps_uncounted (asks b)) ?_ fun _ _ _ held => .inl held.1
  intro value t ⟨held, _⟩
  apply held.keeps_delete.bind_ends
  intro _ t removed
  apply (removed.keeps_freeing legible).bind_ends
  exact fun _ t removed => .pure removed.orderly removed

/-- A deallocation that fails is counted, unless it is its scope that panics. -/
def Failed (c : Counters) (n k : Nat) : Failure → State → Prop
  | .error _, s => s.Retained (c.record (.deallocation .failure)) n k
  | .panic _, s => s.Retained c n k

theorem Failed.orderly {failure : Failure} (h : s.Failed c n k failure) : s.Orderly := by
  cases failure with
  | error e | panic message => exact Retained.orderly h

theorem Shows.keeps_deallocate (ctx : Context) (objectId : String) (h : s.Shows c n k)
    (asks : ∀ b, (scope b).Asks Effect.isUncounted) :
    (Broker.deallocate ctx objectId scope).Keeps (Step .steady) Orderly s fun r t =>
      match r with
      | .ok _ => t.Removed (c.record (.deallocation .success)) n k
      | .error failure => t.Failed c n k failure := by
  have attempt : ((Broker.withdraw ctx objectId scope).onError
      (.count (.deallocation .failure))).Keeps (Step .steady) Orderly s fun r t =>
        match r with
        | .ok _ => t.Removed c n k
        | .error failure => t.Failed c n k failure := by
    refine .onError (h.keeps_withdraw asks) (fun _ _ ended => ended) (fun _ _ ended => ended) ?_
    exact fun e t retained => .sure (Retained.keeps_count retained) fun _ _ counted => counted
  refine .bind attempt ?_ fun _ _ _ ended => ended
  intro value t removed
  apply Procedure.Keeps.bind_sure (Removed.keeps_count removed)
  exact fun _ t removed => .pure removed.orderly removed

end
end State

/-! ## Calls and what there is to tell of them -/

namespace Broker

/-- One call of a broker or of the router interface over it. A scope does not call the broker, so it
neither counts nor records nor removes bindings, and it cannot make up the resource that it gives
back. -/
inductive Call : Type 1 where
  | allocate {α : Type} (ctx : Context) (type : String) (scope : Pending → Procedure (Pending × α))
    (asks : ∀ r, Ledger.Legible (some r.metadata) →
      (scope (.ofResource r)).Within (·.isUncounted) State.EndsLegible)
  | deallocate {α : Type} (ctx : Context) (objectId : String) (scope : Binding → Procedure α)
    (asks : ∀ b, (scope b).Asks Effect.isUncounted)
  | getResource (objectId : String)
  | getDescriptors (type : String)
  | updateResource (objectId : String) (change : Placement.Change)
  | dispatch (registry : Registry) (ctx : Context) (op : Dispatch.Operation)

/-- What a call is to be counted as. -/
inductive Kind where
  /-- An allocation. The first thing it does is to acquire a resource, which succeeds or not. -/
  | allocation (acquired : Bool)
  | deallocation
  | other
  deriving DecidableEq

namespace Call

def procedure : Call → Procedure Unit
  | allocate ctx type scope _ => (Broker.allocate ctx type scope).forget
  | deallocate ctx objectId scope _ => (Broker.deallocate ctx objectId scope).forget
  | getResource objectId => (Procedure.getBinding objectId).forget
  | getDescriptors type => (Procedure.listDescriptors type).forget
  | updateResource objectId change => (Procedure.updateBinding objectId change).forget
  | dispatch registry ctx op => (op.procedure registry ctx).forget

/-- What a call that begins in a state is to be counted as. -/
def kind (w : Schedule) (s : State) : Call → Kind
  | allocate ctx type _ _ => .allocation (s.runUnder w (.acquire ctx type)).1.isOk
  | dispatch _ ctx (.create _) =>
    .allocation (s.runUnder w (.acquire ctx Resource.routerType)).1.isOk
  | deallocate .. | dispatch _ _ (.delete _) => .deallocation
  | _ => .other

end Call

/-- A call that was made, with how it ended and the states around it. -/
structure Report where
  kind : Kind
  result : Except Failure Unit
  before : State
  after : State

namespace Report

@[simp]
def isAllocation (r : Report) : Bool :=
  match r.kind with
  | .allocation _ => true
  | _ => false

@[simp]
def isDeallocation (r : Report) : Bool := r.kind = .deallocation

@[simp]
def succeeded (r : Report) : Bool :=
  match r.result with
  | .ok _ => true
  | .error _ => false

@[simp]
def panicked (r : Report) : Bool :=
  match r.result with
  | .error (.panic _) => true
  | _ => false

/-- A binding could not be recorded. -/
@[simp]
def unrecorded (r : Report) : Bool := r.before.failedAdds < r.after.failedAdds

/-- The report of a call that begins in a state. -/
def of (w : Schedule) (s : State) (call : Call) : Report where
  kind := call.kind w s
  result := (s.runUnder w call.procedure).1
  before := s
  after := (s.runUnder w call.procedure).2

end Report
end Broker

open Broker (Report)

namespace State

/-- The reports of some calls, and the state after them. -/
def attend (w : Schedule) (s : State) : List Broker.Call → List Report × State
  | [] => ([], s)
  | call :: rest =>
    let report := Report.of w s call
    let (reports, t) := report.after.attend w rest
    (report :: reports, t)

/-- What was counted between two states is what the calls between them are to be counted as, and the
bindings that count are as many more as allocations did well and deallocations did not take away. -/
structure Accounts (reports : List Report) (s t : State) : Prop where
  allocated : t.counters.seen (.allocation .success) = s.counters.seen (.allocation .success) +
    reports.countP fun r => r.isAllocation && r.succeeded
  refused : t.counters.seen (.allocation .failure) = s.counters.seen (.allocation .failure) +
    reports.countP fun r => r.isAllocation && !r.succeeded
  undone : t.counters.seen .rollback = s.counters.seen .rollback +
    reports.countP fun r => r.kind = .allocation true && !r.succeeded
  served : reports.countP (fun r => r.isAllocation && !r.succeeded) =
    reports.countP (fun r => r.kind = .allocation true && !r.succeeded) +
      reports.countP fun r => r.kind = .allocation false
  freed : t.counters.seen (.deallocation .success) = s.counters.seen (.deallocation .success) +
    reports.countP fun r => r.isDeallocation && r.succeeded
  kept : t.counters.seen (.deallocation .failure) = s.counters.seen (.deallocation .failure) +
    reports.countP fun r => r.isDeallocation && !r.succeeded && !r.panicked
  balance : t.store.ledger.actives.length +
    reports.countP (fun r => r.isDeallocation && r.succeeded) +
    reports.countP (fun r => r.isDeallocation && r.unrecorded) =
      s.store.ledger.actives.length + reports.countP fun r => r.isAllocation && r.succeeded

namespace Accounts

variable {s t u : State} {k : Nat} {reports more : List Report} {failure : Failure}

theorem nil : Accounts [] s s := ⟨rfl, rfl, rfl, rfl, rfl, rfl, rfl⟩

theorem append (h : Accounts reports s t) (h' : Accounts more t u) :
    Accounts (reports ++ more) s u := by
  cases h
  cases h'
  constructor <;> simp only [List.countP_append] <;> omega

theorem of_allocated (h : t.Shows (s.counters.record (.allocation .success))
    (s.store.ledger.actives.length + 1) k) : Accounts [⟨.allocation true, .ok (), s, t⟩] s t := by
  constructor <;> simp [h.counters, h.active, Counters.seen_record]

theorem of_refused (h : t.RefusedOn s.counters s.store.ledger.actives.length) :
    Accounts [⟨.allocation true, .error failure, s, t⟩] s t := by
  obtain ⟨k, held⟩ := h
  constructor <;> simp [held.counters, held.active, Counters.seen_recordAll]

theorem of_unserved (h : t.Shows (s.counters.record (.allocation .failure))
    s.store.ledger.actives.length k) :
    Accounts [⟨.allocation false, .error failure, s, t⟩] s t := by
  constructor <;> simp [h.counters, h.active, Counters.seen_record]

theorem of_removed (h : t.Removed (s.counters.record (.deallocation .success))
    s.store.ledger.actives.length s.failedAdds) :
    Accounts [⟨.deallocation, .ok (), s, t⟩] s t := by
  obtain ⟨m, length, held⟩ := h
  constructor <;> simp [held.counters, held.active, length, held.failed, Counters.seen_record]

theorem of_failed (h : t.Failed s.counters s.store.ledger.actives.length s.failedAdds failure) :
    Accounts [⟨.deallocation, .error failure, s, t⟩] s t := by
  cases failure with
  | error e | panic message =>
      rcases h with held | ⟨m, length, held⟩
      · constructor <;> simp [held.counters, held.active, held.failed, Counters.seen_record]
      · constructor <;> simp [held.counters, held.active, length, held.failed, Counters.seen_record]

theorem of_other (h : t.Shows s.counters s.store.ledger.actives.length k)
    (result : Except Failure Unit) : Accounts [⟨.other, result, s, t⟩] s t := by
  constructor <;> simp [h.counters, h.active]

end Accounts

/-! ## Calls in turn -/

section

variable {α : Type} {w : Schedule} {s : State} {ctx : Context} {type objectId : String}

theorem Orderly.shows (h : s.Orderly) :
    s.Shows s.counters s.store.ledger.actives.length s.failedAdds := ⟨h, rfl, rfl, rfl⟩

theorem Orderly.reports_allocation (ctx : Context) (type : String) (h : s.Orderly)
    (hw : w.Within .steady) {scope : Pending → Procedure (Pending × α)}
    (asks : ∀ r, Ledger.Legible (some r.metadata) →
      (scope (.ofResource r)).Within (·.isUncounted) EndsLegible) :
    let ran := s.runUnder w (Broker.allocate ctx type scope).forget
    ran.2.Orderly ∧ Accounts
      [⟨.allocation (s.runUnder w (.acquire ctx type)).1.isOk, ran.1, s, ran.2⟩] s ran.2 := by
  intro ran
  simp only [ran, runUnder_forget]
  rcases h.shows.allocate ctx type hw asks with
    ⟨acquired, ended⟩ | ⟨acquired, failure, failed, held⟩
  · rw [acquired]
    generalize s.runUnder w (Broker.allocate ctx type scope) = run at ended
    obtain ⟨_ | _, t⟩ := run
    · exact ⟨RefusedOn.orderly ended, .of_refused ended⟩
    · exact ⟨Shows.toOrderly ended, .of_allocated ended⟩
  · rw [acquired, failed]
    exact ⟨held.toOrderly, .of_unserved held⟩

theorem Orderly.reports_deallocation (h : s.Orderly) (hw : w.Within .steady)
    {scope : Binding → Procedure α} (asks : ∀ b, (scope b).Asks Effect.isUncounted) :
    let ran := s.runUnder w (Broker.deallocate ctx objectId scope).forget
    ran.2.Orderly ∧ Accounts [⟨.deallocation, ran.1, s, ran.2⟩] s ran.2 := by
  intro ran
  simp only [ran, runUnder_forget]
  have ended := (h.shows.keeps_deallocate ctx objectId asks).end_of_run hw.moves
  generalize s.runUnder w (Broker.deallocate ctx objectId scope) = run at ended
  obtain ⟨failure | _, t⟩ := run
  · exact ⟨Failed.orderly ended, .of_failed ended⟩
  · exact ⟨Removed.orderly ended, .of_removed ended⟩

theorem Orderly.reports_other (h : s.Orderly) (hw : w.Within .steady) {p : Procedure α}
    (asks : p.Asks Effect.isUncounted) :
    let ran := s.runUnder w p.forget
    ran.2.Orderly ∧ Accounts [⟨.other, ran.1, s, ran.2⟩] s ran.2 := by
  intro ran
  simp only [ran, runUnder_forget]
  have ended := (h.shows.keeps_uncounted asks).end_of_run hw.moves
  exact ⟨ended.1.toOrderly, .of_other ended.1 _⟩

end
end State

namespace Dispatch

variable {registry : Registry} {ctx : Context}

theorem creation_asks (registry : Registry) (ctx : Context) (request : Router.Request)
    {r : Resource}
    (legible : Ledger.Legible (some r.metadata)) :
    (creation registry ctx request (.ofResource r)).Within (·.isUncounted) State.EndsLegible := by
  have registered : (Procedure.ofExcept (registry.get r.descriptor)).Asks Effect.isUncounted :=
    .ofExcept
  have called : (Procedure.callBackend r.descriptor (.create (onResource request r)) ctx).Asks
      Effect.isUncounted := .perform rfl
  refine Procedure.Within.bind registered ?_ fun _ _ => trivial
  intro _ _
  refine Procedure.Within.bind called ?_ fun _ _ => trivial
  exact fun _ _ => .pure legible

theorem deletion_asks (id : String) (b : Binding) :
    (deletion registry ctx id b).Asks Effect.isUncounted :=
  .bind .ofExcept fun _ => .perform rfl

theorem create_forget (request : Router.Request) : (create registry ctx request).forget =
    (Broker.allocate ctx Resource.routerType (creation registry ctx request)).forget := by
  simp only [Procedure.forget, create, bind_assoc, pure_bind]
  rfl

end Dispatch

namespace State

variable {w : Schedule} {s t : State} {reports : List Report}

/-- A call leaves a state in which its report accounts for what was counted. -/
theorem Orderly.report (h : s.Orderly) (hw : w.Within .steady) (call : Broker.Call) :
    (Report.of w s call).after.Orderly ∧
      Accounts [Report.of w s call] s (Report.of w s call).after := by
  cases call with
  | allocate ctx type scope asks => exact h.reports_allocation ctx type hw asks
  | deallocate ctx objectId scope asks => exact h.reports_deallocation hw asks
  | getResource objectId => exact h.reports_other hw (.perform rfl)
  | getDescriptors type => exact h.reports_other hw (.perform rfl)
  | updateResource objectId change => exact h.reports_other hw (.perform rfl)
  | dispatch registry ctx op =>
      cases op with
      | create request =>
          -- A creation ends as its allocation does; only what it returns is cut down.
          have counted := h.reports_allocation ctx Resource.routerType hw fun r legible =>
            Dispatch.creation_asks registry ctx request legible
          rw [← Dispatch.create_forget] at counted
          exact counted
      | delete id => exact h.reports_deallocation hw (Dispatch.deletion_asks id)
      | _ =>
          apply h.reports_other hw
          exact Dispatch.Operation.procedure_asks rfl (fun _ => rfl) (fun _ => rfl) fun _ _ => rfl

theorem Orderly.attend (h : s.Orderly) (hw : w.Within .steady) (calls : List Broker.Call) :
    Accounts (s.attend w calls).1 s (s.attend w calls).2 := by
  induction calls generalizing s with
  | nil => exact .nil
  | cons call rest ih =>
      obtain ⟨orderly, counted⟩ := h.report hw call
      exact counted.append (ih orderly)

/-- The counters of a state tell what came of the calls that led to it, and how many bindings
count. -/
structure Metered (reports : List Report) (s : State) : Prop where
  allocated : s.counters.allocations.count .success =
    reports.countP fun r => r.isAllocation && r.succeeded
  refused : s.counters.allocations.count .failure =
    reports.countP fun r => r.isAllocation && !r.succeeded
  undone : s.counters.rollbacks = reports.countP fun r => r.kind = .allocation true && !r.succeeded
  unserved : s.counters.allocations.count .failure =
    s.counters.rollbacks + reports.countP fun r => r.kind = .allocation false
  freed : s.counters.deallocations.count .success =
    reports.countP fun r => r.isDeallocation && r.succeeded
  attempts : s.counters.deallocations.count .success + s.counters.deallocations.count .failure =
    reports.countP (·.isDeallocation)
  bindings : s.counters.allocations.count .success = s.counters.deallocations.count .success +
    reports.countP (fun r => r.isDeallocation && r.unrecorded) + s.store.ledger.actives.length

/-- If no deallocation panics, each one succeeds or fails with an error. -/
theorem countP_deallocations (sober : ∀ r ∈ reports, r.panicked = true → r.isAllocation = true) :
    reports.countP (·.isDeallocation) = reports.countP (fun r => r.isDeallocation && r.succeeded) +
      reports.countP fun r => r.isDeallocation && !r.succeeded && !r.panicked := by
  induction reports with
  | nil => rfl
  | cons r rest ih =>
      rw [List.forall_mem_cons] at sober
      have later := ih sober.2
      have first := sober.1
      obtain ⟨kind, result, before, after⟩ := r
      simp only [List.countP_cons, later]
      cases kind with
      | allocation | other => simp
      | deallocation =>
          cases result with
          | ok u =>
              simp
              omega
          | error failure =>
              cases failure with
              | error e =>
                  simp
                  omega
              | panic message => simp at first

/-- Whatever is asked of a broker that starts with no bindings and whatever fails meanwhile, if only
allocations panic: every call is counted once, and the counters tell how many bindings count. -/
theorem counters_account {policy : Policy} (readable : policy.Readable) {store : Store}
    (blank : store.ledger = ∅) (backends : Dict Backend) (ids : IdSupply)
    (hw : w.Within .steady) (calls : List Broker.Call) :
    let start := State.initial policy store backends ids
    (∀ r ∈ (start.attend w calls).1, r.panicked = true → r.isAllocation = true) →
      Metered (start.attend w calls).1 (start.attend w calls).2 := by
  intro start sober
  have same : start.store.ledger = ∅ := blank
  have orderly : start.Orderly := ⟨same ▸ Ledger.sound_empty, readable⟩
  have none : start.store.ledger.actives.length = 0 := by
    rw [same]
    rfl
  have attempts := countP_deallocations sober
  obtain ⟨allocated, refused, undone, served, freed, kept, balance⟩ := orderly.attend hw calls
  have zero : ∀ event, start.counters.seen event = 0 := by
    intro event
    rcases event with ⟨_ | _⟩ | ⟨_ | _⟩ | _ <;> rfl
  rw [zero, Nat.zero_add] at allocated refused undone freed kept
  rw [none] at balance
  simp only [Counters.seen] at allocated refused undone freed kept
  constructor <;> omega

/-- A scope panics, an object is put on the resource, and then the resource cannot be freed. -/
def mishaps : List Broker.Call := [
  .allocate default "router" (fun _ => (.panic "scope" : Procedure (Pending × Unit)))
    fun _ _ => trivial,
  .allocate default "router" (fun pending => pure (pending.bindObject "o", ()))
    fun _ legible => .pure legible,
  .deallocate default "o" (fun _ => pure ()) fun _ => .pure]

/-- A binding that could not be recorded anew makes up for the allocation that nothing took back. -/
theorem mishaps_metered :
    let (reports, t) := (lone ∅).attend noWayBack mishaps
    Metered reports t ∧ t.counters = ⟨⟨some 1, some 1⟩, ⟨none, some 1⟩, 1⟩ ∧
      reports.countP (fun r => r.isDeallocation && r.unrecorded) = 1 ∧
      t.store.ledger.actives = [] := by
  have steady : noWayBack.Within .steady := by
    refine noWayBack_within.mono fun e fault errors => ?_
    cases e with
    | backend => trivial
    | acquire | release | store | count | readCounters => exact errors
  have readable : (Policy.localPool (lonePool ∅)).Readable := by
    change (lonePool ∅).Readable
    decide +kernel
  refine ⟨counters_account readable rfl ∅ ⟨0⟩ steady mishaps ?_, ?_⟩
  · decide +kernel
  · decide +kernel

/-- An allocation that fails after its binding was recorded leaves a binding that no counter tells
of. -/
theorem deep_resource_unmetered :
    let calls : List Broker.Call := [
      .allocate default "router" (fun pending => pure (pending.bindObject "o", ()))
        fun _ legible => .pure legible]
    let start := lone (.ofList [("k", nested 127)])
    let (reports, t) := start.attend .calm calls
    start.store.ledger = ∅ ∧ (∀ r ∈ reports, r.panicked = false) ∧
      t.counters = ⟨⟨none, some 1⟩, ⟨none, none⟩, 1⟩ ∧ t.store.ledger.bound = ["r1"] ∧
      ¬Metered reports t := by
  intro calls start
  obtain ⟨sober, counted, bound⟩ : (∀ r ∈ (start.attend .calm calls).1, r.panicked = false) ∧
      (start.attend .calm calls).2.counters = ⟨⟨none, some 1⟩, ⟨none, none⟩, 1⟩ ∧
      (start.attend .calm calls).2.store.ledger.bound = ["r1"] := by decide +kernel
  generalize start.attend .calm calls = ended at sober counted bound ⊢
  obtain ⟨reports, t⟩ := ended
  refine ⟨rfl, sober, counted, bound, ?_⟩
  intro metered
  have balance := metered.bindings
  have one : t.store.ledger.actives.length = 1 := by
    rw [← List.length_map (·.resourceId)]
    exact congrArg List.length bound
  have zero : t.counters.allocations.count .success = 0 := by
    rw [counted]
    rfl
  omega

end State
end Brokerage
