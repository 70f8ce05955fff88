import Brokerage.Proofs.Backend
import Brokerage.Proofs.Hazards
import Brokerage.Proofs.Ledger
import Brokerage.Proofs.Pool

/-! # What each effect does

A step of an effect either does what the effect is for, or it fails and leaves everything but the
records as it is. One statement for each effect says which of the two came about, and why.
-/

namespace Brokerage

/-- A fault of the hazard that ends an effect with a failure. -/
def Hazard.Hits (hazard : Hazard) (e : Effect) (failure : Failure) : Prop :=
  ∃ fault, hazard e fault ∧ fault.failure? = some failure

/-- Nothing keeps an operation from running. -/
structure Store.Usable (s : Store) : Prop where
  isOpen : s.isOpen = true
  unlocked : s.locked = false

theorem Store.Usable.obstacle?_eq {s : Store} (h : s.Usable) (name : String) :
    s.obstacle? name = none := by
  simp [Store.obstacle?, h.isOpen, h.unlocked]

theorem Store.Usable.withLedger {s : Store} {ledger : Ledger} (h : s.Usable) :
    ({ s with ledger } : Store).Usable := ⟨h.isOpen, h.unlocked⟩

theorem mapError_eq_ok {ε ε' α : Type} {f : ε → ε'} {x : Except ε α} {a : α} :
    x.mapError f = .ok a ↔ x = .ok a := by
  cases x with
  | error e => exact ⟨nofun, nofun⟩
  | ok b => simp [Except.mapError]

/-- Only what nests too deeply cannot be read from its new row. -/
theorem Ledger.not_legible_of_unread {l : Ledger} {a : Assignment} {now : Timestamp}
    {failure : Failure} (unread : (l.newRow a now).toBinding.mapError .error = .error failure) :
    ¬Legible a.placement.metadata := by
  intro legible
  have ⟨b, read⟩ : ∃ b, (l.newRow a now).toBinding = .ok b := newRow_legible legible
  rw [read] at unread
  cases unread

namespace State

def withPool (s : State) (pool : Pool) : State := { s with policy := .localPool pool }

def withLedger (s : State) (ledger : Ledger) : State := { s with store.ledger := ledger }

/-- The state with another backend for a descriptor, and with the ids that are left then. -/
def withBackend (s : State) (descriptor : String) (b : Backend) (ids : IdSupply) : State :=
  { s with backends := s.backends.insert descriptor b, ids }

namespace Step

variable {hazard : Hazard} {s t : State} {p : Pool} {ctx : Context}

theorem sober {e : Effect} {o : e.Outcome} {message : String} (step : Step hazard e s o t)
    (safe : ∀ fault, hazard e fault → ∀ message, fault ≠ .panic message) :
    o ≠ .error (.panic message) := by
  cases step with
  | happened faults =>
      cases (s.answer e).1 with
      | ok a => exact nofun
      | error cause => exact nofun
  | struck faults fault failure point hits ends =>
      rintro same
      cases fault with
      | panic text => exact safe _ hits text rfl
      | fail cause =>
          cases ends
          cases same
      | delay milliseconds => cases ends

theorem acquire {type : String} {o : Effect.Outcome (.acquire ctx type)}
    (h : Step hazard (.acquire ctx type) s o t) (pool : s.policy = .localPool p) :
    (∃ r faults, p.entries.find? (Pool.isFree type) = some r ∧
      o = .ok r.given ∧
      t = (s.withPool (p.mark r.id true)).recorded faults _ o) ∨
    ∃ failure faults, o = .error failure ∧ t = s.recorded faults _ o := by
  cases h with
  | happened faults =>
      cases free : p.entries.find? (Pool.isFree type) with
      | none =>
          refine .inr ⟨.error (.noMoreResources type), faults, ?_, ?_⟩
          · simp [answer, pool, Policy.acquire, Pool.acquire, free, Except.mapError]
          · cases s
            cases pool
            simp [answer, Policy.acquire, Pool.acquire, free]
      | some r =>
          refine .inl ⟨r, faults, rfl, ?_, ?_⟩
          · simp [answer, pool, Policy.acquire, Pool.acquire, free, Except.mapError, Resource.given]
          · simp [answer, pool, Policy.acquire, Pool.acquire, free, withPool]
  | struck faults fault failure => exact .inr ⟨failure, faults, rfl, rfl⟩

theorem release {id : String} {o : Effect.Outcome (.release ctx id)}
    (h : Step hazard (.release ctx id) s o t) (pool : s.policy = .localPool p) :
    (∃ faults, o = .ok () ∧ t = (s.withPool (p.mark id false)).recorded faults _ o) ∨
    ∃ failure faults, o = .error failure ∧ t = s.recorded faults _ o ∧
      (p.find? id = none ∨ hazard.Hits (.release ctx id) failure) := by
  cases h with
  | happened faults =>
      cases known : p.find? id with
      | none =>
          refine .inr ⟨.error (.wrongResourceId id), faults, ?_, ?_, .inl rfl⟩
          · simp [answer, pool, Policy.release, Pool.release, known, Except.mapError]
          · cases s
            cases pool
            simp [answer, Policy.release, Pool.release, known]
      | some r =>
          refine .inl ⟨faults, ?_, ?_⟩
          · simp [answer, pool, Policy.release, Pool.release, known, Except.mapError]
          · simp [answer, pool, Policy.release, Pool.release, known, withPool]
  | struck faults fault failure point hits ends =>
      exact .inr ⟨failure, faults, rfl, rfl, .inr ⟨fault, hits, ends⟩⟩

/-- An operation of the store runs on the ledger, or fails before it does anything. -/
theorem store {op : Store.Op} {o : Effect.Outcome (.store op)}
    (h : Step hazard (.store op) s o t) :
    (∃ faults, o = (Store.runOp s.now s.store.ledger op).1.mapError .error ∧
      t = (s.withLedger (Store.runOp s.now s.store.ledger op).2).recorded faults _ o) ∨
    ∃ failure faults, o = .error failure ∧ t = s.recorded faults _ o ∧
      (¬s.store.Usable ∨ hazard.Hits (.store op) failure) := by
  cases h with
  | happened faults =>
      cases free : s.store.obstacle? op.name with
      | none =>
          refine .inl ⟨faults, ?_, ?_⟩
          · simp only [answer, Store.run, free]
            rfl
          · simp [answer, Store.run, free, withLedger]
      | some e =>
          refine .inr ⟨.error e, faults, ?_, ?_, .inl fun usable => ?_⟩
          · simp [answer, Store.run, free, Except.mapError]
          · simp [answer, Store.run, free]
          · simp [usable.obstacle?_eq] at free
  | struck faults fault failure point hits ends =>
      exact .inr ⟨failure, faults, rfl, rfl, .inr ⟨fault, hits, ends⟩⟩

theorem add {a : Assignment} {o : Effect.Outcome (.store (.add a))}
    (h : Step hazard (.store (.add a)) s o t) :
    (∃ faults, s.store.ledger.active? a.objectId = none ∧
      o = (s.store.ledger.newRow a s.now).toBinding.mapError .error ∧
      t = (s.withLedger (s.store.ledger.append (s.store.ledger.newRow a s.now))).recorded
        faults _ o) ∨
    ∃ failure faults, o = .error failure ∧ t = s.recorded faults _ o ∧
      ((s.store.ledger.active? a.objectId).isSome ∨ ¬s.store.Usable ∨
        hazard.Hits (.store (.add a)) failure) := by
  rcases h.store with ⟨faults, ho, ht⟩ | ⟨failure, faults, ho, ht, cause⟩
  · rcases s.store.ledger.add_cases a s.now with ⟨known, same⟩ | ⟨new, added⟩
    · simp only [Store.runOp, same] at ho ht
      exact .inr ⟨.error (.duplicateBinding a.objectId), faults, ho, ht, .inl known⟩
    · simp only [Store.runOp, added] at ho ht
      exact .inl ⟨faults, new, ho, ht⟩
  · exact .inr ⟨failure, faults, ho, ht, .inr cause⟩

theorem get {objectId : String} {o : Effect.Outcome (.store (.get objectId))}
    (h : Step hazard (.store (.get objectId)) s o t) :
    (∃ faults, t = s.recorded faults _ o) ∧
      (o = (s.store.ledger.get objectId).mapError .error ∨
        ∃ failure, o = .error failure ∧
          (¬s.store.Usable ∨ hazard.Hits (.store (.get objectId)) failure)) := by
  rcases h.store with ⟨faults, ho, ht⟩ | ⟨failure, faults, ho, ht, cause⟩
  · exact ⟨⟨faults, ht⟩, .inl ho⟩
  · exact ⟨⟨faults, ht⟩, .inr ⟨failure, ho, cause⟩⟩

theorem update {objectId : String} {c : Placement.Change}
    {o : Effect.Outcome (.store (.update objectId c))}
    (h : Step hazard (.store (.update objectId c)) s o t) :
    (∃ row b faults, s.store.ledger.active? objectId = some row ∧ row.toBinding = .ok b ∧
      t = (s.withLedger (s.store.ledger.modifyActive objectId
        (·.move (b.change c).placement s.now))).recorded faults _ o) ∨
    ∃ faults, t = s.recorded faults _ o := by
  rcases h.store with ⟨faults, ho, ht⟩ | ⟨failure, faults, ho, ht, cause⟩
  · rcases s.store.ledger.update_cases objectId c s.now with ⟨e, refused⟩ | ⟨row, b, found, ok, done⟩
    · simp only [Store.runOp, refused] at ht
      exact .inr ⟨faults, ht⟩
    · simp only [Store.runOp, done] at ht
      exact .inl ⟨row, b, faults, found, ok, ht⟩
  · exact .inr ⟨faults, ht⟩

theorem delete {objectId : String} {o : Effect.Outcome (.store (.delete objectId))}
    (h : Step hazard (.store (.delete objectId)) s o t) :
    (∃ row faults, s.store.ledger.active? objectId = some row ∧ o = .ok () ∧
      t = (s.withLedger (s.store.ledger.modifyActive objectId (·.retire s.now))).recorded
        faults _ o) ∨
    ∃ failure faults, o = .error failure ∧ t = s.recorded faults _ o ∧
      (s.store.ledger.active? objectId = none ∨ ¬s.store.Usable ∨
        hazard.Hits (.store (.delete objectId)) failure) := by
  rcases h.store with ⟨faults, ho, ht⟩ | ⟨failure, faults, ho, ht, cause⟩
  · cases found : s.store.ledger.active? objectId with
    | none =>
        simp only [Store.runOp, Ledger.delete_eq, found] at ho ht
        exact .inr ⟨.error (.wrongObjectId objectId), faults, ho, ht, .inl rfl⟩
    | some row =>
        simp only [Store.runOp, Ledger.delete_eq, found] at ho ht
        exact .inl ⟨row, faults, rfl, ho, ht⟩
  · exact .inr ⟨failure, faults, ho, ht, .inr cause⟩

theorem backend {descriptor : String} {call : Backend.Call}
    {o : Effect.Outcome (.backend descriptor call ctx)}
    (h : Step hazard (.backend descriptor call ctx) s o t) :
    (∃ b faults, s.backends.get? descriptor = some b ∧
      o = (b.answer s.ids call).1.mapError .error ∧
      t = (s.withBackend descriptor (b.answer s.ids call).2.1
        (b.answer s.ids call).2.2).recorded faults _ o) ∨
    ∃ failure faults, o = .error failure ∧ t = s.recorded faults _ o ∧
      (s.backends.get? descriptor = none ∨ hazard.Hits (.backend descriptor call ctx) failure) := by
  cases h with
  | happened faults =>
      cases known : s.backends.get? descriptor with
      | none =>
          refine .inr ⟨.error (.unknownDescriptor descriptor), faults, ?_, ?_, .inl rfl⟩
          · simp [answer, known, Except.mapError]
          · simp [answer, known]
      | some b =>
          refine .inl ⟨b, faults, rfl, ?_, ?_⟩
          · simp only [answer, known]
            rfl
          · simp [answer, known, withBackend]
  | struck faults fault failure point hits ends =>
      exact .inr ⟨failure, faults, rfl, rfl, .inr ⟨fault, hits, ends⟩⟩

theorem count {event : Counters.Event} {o : Effect.Outcome (.count event)}
    (h : Step hazard (.count event) s o t) : ∃ faults, o = .ok () ∧
      t = ({ s with counters := s.counters.record event } : State).recorded faults _ o := by
  cases h with
  | happened faults => exact ⟨faults, rfl, rfl⟩
  | struck faults fault failure point => cases point

/-- Only calls of backends touch the backends and the supply of ids. -/
theorem backends_eq {e : Effect} {o : e.Outcome} (h : Step hazard e s o t)
    (other : ∀ descriptor call ctx, e ≠ .backend descriptor call ctx) :
    t.backends = s.backends ∧ t.ids = s.ids := by
  cases h with
  | struck => exact ⟨rfl, rfl⟩
  | happened faults =>
      cases e with
      | backend descriptor call ctx => exact absurd rfl (other descriptor call ctx)
      | acquire | release | store | count | readCounters => exact ⟨rfl, rfl⟩

theorem backends_cases {e : Effect} {o : e.Outcome} (h : Step hazard e s o t) :
    t.backends = s.backends ∨ ∃ descriptor call ctx, e = .backend descriptor call ctx := by
  cases e with
  | backend descriptor call ctx => exact .inr ⟨descriptor, call, ctx, rfl⟩
  | acquire | release | store | count | readCounters => exact .inl (h.backends_eq nofun).1

theorem home {e : Effect} {o : e.Outcome} {descriptor : String} (h : Step hazard e s o t)
    (home : (s.backends.get? descriptor).isSome) : (t.backends.get? descriptor).isSome := by
  rcases h.backends_cases with frame | ⟨place, call, ctx, rfl⟩
  · rw [frame]
    exact home
  · rcases h.backend with ⟨b, _, _, _, rfl⟩ | ⟨_, _, _, rfl, _⟩
    · simp only [recorded, withBackend, Dict.get?_insert]
      split
      · rfl
      · exact home
    · exact home

/-- Only operations of the store touch it, and none of them closes or locks it. -/
theorem store_eq {e : Effect} {o : e.Outcome} (h : Step hazard e s o t)
    (other : ∀ op, e ≠ .store op) : t.store = s.store := by
  cases h with
  | struck => rfl
  | happened faults =>
      cases e with
      | store op => exact absurd rfl (other op)
      | acquire | release | count | readCounters => rfl
      | backend descriptor call ctx =>
          simp only [answer, recorded]
          cases s.backends.get? descriptor <;> rfl

theorem usable {e : Effect} {o : e.Outcome} (h : Step hazard e s o t) (usable : s.store.Usable) :
    t.store.Usable := by
  cases e with
  | store op =>
      rcases h.store with ⟨_, _, rfl⟩ | ⟨_, _, _, rfl, _⟩
      · exact usable.withLedger
      · exact usable
  | acquire | release | backend | count | readCounters => exact h.store_eq nofun ▸ usable

theorem ids_le {e : Effect} {o : e.Outcome} (h : Step hazard e s o t) : s.ids ≤ t.ids := by
  cases e with
  | backend descriptor call ctx =>
      rcases h.backend with ⟨b, _, _, _, rfl⟩ | ⟨_, _, _, rfl, _⟩
      · exact b.answer_ids_le call
      · exact le_refl _
  | acquire | release | store | count | readCounters => exact (h.backends_eq nofun).2 ▸ le_refl _

/-- Calls of backends touch neither the policy nor the store. -/
theorem books_eq {descriptor : String} {call : Backend.Call}
    {o : Effect.Outcome (.backend descriptor call ctx)}
    (h : Step hazard (.backend descriptor call ctx) s o t) :
    t.policy = s.policy ∧ t.store = s.store := by
  rcases h.backend with ⟨_, _, _, _, rfl⟩ | ⟨_, _, _, rfl, _⟩ <;> exact ⟨rfl, rfl⟩

end Step
end State
end Brokerage
