import Brokerage.Proofs.Accounting
import Brokerage.Proofs.Runs

/-! # Allocations are all or nothing

An allocation either ends with one new row for the resource that it acquired, or it gives that
resource back as the last thing it does, and then the pool and the table are what they were. What the
scope or the store failed with is what the caller gets, whatever becomes of the release.
-/

namespace Brokerage

/-- An active row that binds an object to a resource. -/
structure Ledger.Row.Binds (row : Ledger.Row) (objectId : String) (r : Resource) : Prop where
  active : row.isActive = true
  objectId : row.objectId = objectId
  resourceType : row.resourceType = r.type
  resourceId : row.resourceId = r.id
  metadata : row.metadata = Ledger.encodeMetadata (some r.metadata)
  descriptor : row.descriptor = r.descriptor

theorem Ledger.newRow_binds (l : Ledger) (objectId : String) (r : Resource) (now : Timestamp) :
    (l.newRow (.ofResource objectId r) now).Binds objectId r := ⟨rfl, rfl, rfl, rfl, rfl, rfl⟩

/-- What an allocation does with the resource that it acquired. -/
def Broker.place {α : Type} (ctx : Context) (r : Resource)
    (scope : Pending → Procedure (Pending × α)) : Procedure (α × Binding) := do
  let (pending, value) ← (scope (.ofResource r)).onFailure (rollback ctx r.id)
  match pending.objectId with
  | none => do
    rollback ctx r.id
    .fail (.missingObjectId r.id)
  | some objectId => do
    let binding ← (Procedure.addBinding (.ofResource objectId pending.resource)).onError
      (rollback ctx r.id)
    .count (.allocation .success)
    return (value, binding)

namespace State

variable {α : Type} {w : Schedule} {s t u v : State} {p : Pool} {ctx : Context}
  {type id objectId : String} {r : Resource} {failure : Failure}

/-- Nothing is released up to a state. Then a resource is given back, by one release that comes last:
if it happens, the pool is the given one, else it stays as it is. -/
structure RolledBack (ctx : Context) (id : String) (p : Pool) (start ended after : State) : Prop where
  before : AsksOnly (fun e => !e.isRelease) start ended
  release : ∃ (last : State) (o : Effect.Outcome (.release ctx id)),
    AsksOnly (fun e => !e.isRelease) ended last ∧
    after.journal = last.journal ++ [.asked (.release ctx id), .answered (.release ctx id) o] ∧
    (o = .ok () → after.policy = .localPool p) ∧
    ∀ failure, o = .error failure → after.policy = ended.policy

/-- What an allocation comes to, by how its parts end: acquiring a resource, running the scope on it,
and recording the object that the scope named. -/
structure AllOrNothing (w : Schedule) (ctx : Context) (type : String)
    (scope : Pending → Procedure (Pending × α)) (p : Pool) (s : State) : Prop where
  /-- Nothing was acquired: the scope is not run, and no release is made. -/
  refused : ∀ {failure t}, s.runUnder w (.acquire ctx type) = (.error failure, t) →
    ∃ u, s.runUnder w (Broker.allocate ctx type scope) = (.error failure, u) ∧
      u.policy = s.policy ∧ u.store = s.store ∧
      u.journal = s.journal ++ [.asked (.acquire ctx type),
        .answered (.acquire ctx type) (.error failure), .asked (.count (.allocation .failure)),
        .answered (.count (.allocation .failure)) (.ok ())]
  /-- The scope failed or panicked. -/
  failed : ∀ {r t failure v}, s.runUnder w (.acquire ctx type) = (.ok r, t) →
    t.runUnder w (scope (.ofResource r)) = (.error failure, v) →
    ∃ u, s.runUnder w (Broker.allocate ctx type scope) = (.error failure, u) ∧
      RolledBack ctx r.id p s v u ∧ u.store = s.store
  /-- The scope named no object. -/
  unnamed : ∀ {r t pending value v}, s.runUnder w (.acquire ctx type) = (.ok r, t) →
    t.runUnder w (scope (.ofResource r)) = (.ok (pending, value), v) → pending.objectId = none →
    ∃ u, s.runUnder w (Broker.allocate ctx type scope) =
        (.error (.error (.missingObjectId r.id)), u) ∧
      RolledBack ctx r.id p s v u ∧ u.store = s.store
  /-- The binding could not be recorded. The table is as it was, unless the resource has metadata
  that nests too deeply to be read again: then its row stays behind. -/
  unrecorded : ∀ {r t pending value v objectId failure x},
    s.runUnder w (.acquire ctx type) = (.ok r, t) →
    t.runUnder w (scope (.ofResource r)) = (.ok (pending, value), v) →
    pending.objectId = some objectId →
    v.runUnder w (.addBinding (.ofResource objectId r)) = (.error failure, x) →
    ∃ u, s.runUnder w (Broker.allocate ctx type scope) = (.error failure, u) ∧
      RolledBack ctx r.id p s x u ∧
      (u.store = s.store ∨ ¬Ledger.Legible (some r.metadata) ∧
        ∃ row, u.store = { s.store with ledger := s.store.ledger.append row })
  /-- The binding was recorded: the resource stays taken, and there is one row more. -/
  recorded : ∀ {r t pending value v objectId b x},
    s.runUnder w (.acquire ctx type) = (.ok r, t) →
    t.runUnder w (scope (.ofResource r)) = (.ok (pending, value), v) →
    pending.objectId = some objectId →
    v.runUnder w (.addBinding (.ofResource objectId r)) = (.ok b, x) →
    ∃ u, s.runUnder w (Broker.allocate ctx type scope) = (.ok (value, b), u) ∧
      AsksOnly (fun e => !e.isRelease) s u ∧ u.policy = .localPool (p.mark r.id true) ∧
      ∃ row : Ledger.Row, u.store = { s.store with ledger := s.store.ledger.append row } ∧
        row.Binds objectId r ∧ row.toBinding = .ok b

theorem acquire_run (hw : w.Within .steady) (pool : s.policy = .localPool p)
    (h : s.runUnder w (.acquire ctx type) = (.ok r, t)) :
    t.policy = .localPool (p.mark r.id true) ∧ (p.mark r.id true).mark r.id false = p ∧
      t.store = s.store ∧ t.now = s.now ∧ AsksOnly (fun e => !e.isRelease) s t := by
  have step := runUnder_step hw h
  have asks : AsksOnly (fun e => !e.isRelease) s t := .of_step step rfl
  rcases step.acquire pool with ⟨x, faults, found, same, rfl⟩ | ⟨_, _, failed, _⟩
  · cases same
    obtain ⟨member, free, _⟩ := Pool.find?_isFree found
    have restored : (p.mark x.id true).mark x.id false = p := Pool.mark_false_mark_true member free
    exact ⟨rfl, restored, rfl, rfl, asks⟩
  · cases failed

theorem rollback_run (ctx : Context) (hw : w.Within .steady) {taken : Pool}
    (pool : v.policy = .localPool taken) (freed : taken.mark id false = p)
    (before : AsksOnly (fun e => !e.isRelease) s v) :
    ∃ u, v.runUnder w (Broker.rollback ctx id) = (.ok (), u) ∧ RolledBack ctx id p s v u ∧
      u.store = v.store := by
  obtain ⟨first, counted, quietly, _⟩ := count_run hw (.allocation .failure) v
  obtain ⟨last, counted', quietly', _⟩ := count_run hw .rollback first
  have calm := quietly.trans quietly'
  cases released : last.runUnder w (.release ctx id) with
  | mk o u =>
      have step := runUnder_step hw released
      have forgotten := runUnder_ignoreError (w := w) (s := last) (p := .release ctx id)
        fun message => by rw [released]; exact step.steady nofun message
      refine ⟨u, ?_, ⟨before, last, o, calm.unreleased, step.journal_eq, ?_⟩, ?_⟩
      · rw [Broker.rollback, runUnder_bind_ok counted, runUnder_bind_ok counted', forgotten, released]
      · rcases step.release (calm.policy.trans pool) with
          ⟨faults, rfl, rfl⟩ | ⟨failure, faults, rfl, rfl, _⟩
        · exact ⟨fun _ => by rw [← freed]; rfl, nofun⟩
        · exact ⟨nofun, fun _ _ => calm.policy⟩
      · rw [step.store_eq nofun, calm.store]

section

variable {scope : Pending → Procedure (Pending × α)}

/-- Once a resource is acquired, an allocation goes on from there. -/
theorem allocate_run (acquired : s.runUnder w (.acquire ctx type) = (.ok r, t)) :
    s.runUnder w (Broker.allocate ctx type scope) = t.runUnder w (Broker.place ctx r scope) :=
  runUnder_bind_ok (runUnder_onError_ok acquired)

/-- Acquiring a resource and running the scope on it takes the resource and does no more. -/
theorem scope_run (hw : w.Within .steady) (pool : s.policy = .localPool p)
    (quiet : ∀ r, (scope (.ofResource r)).Within (·.isQuiet) (KeepsResource r))
    (acquired : s.runUnder w (.acquire ctx type) = (.ok r, t))
    {result : Except Failure (Pending × α)}
    (ran : t.runUnder w (scope (.ofResource r)) = (result, v)) :
    v.policy = .localPool (p.mark r.id true) ∧ (p.mark r.id true).mark r.id false = p ∧
      v.store = s.store ∧ v.now = s.now ∧ AsksOnly (fun e => !e.isRelease) s v ∧
      KeepsResource r result := by
  obtain ⟨taken, restored, store, now, unreleased⟩ := acquire_run hw pool acquired
  obtain ⟨calm, kept⟩ := quiet_run hw (quiet r) ran
  exact ⟨calm.policy.trans taken, restored, calm.store.trans store, calm.now.trans now,
    unreleased.trans calm.unreleased, kept⟩

/-- Whatever the state and whatever goes wrong, an allocation is all or nothing. -/
theorem allocation_all_or_nothing (hw : w.Within .steady)
    (quiet : ∀ r, (scope (.ofResource r)).Within (·.isQuiet) (KeepsResource r))
    (pool : s.policy = .localPool p) : AllOrNothing w ctx type scope p s where
  refused := by
    intro failure t acquired
    have step := runUnder_step hw acquired
    obtain ⟨u, counted, quietly, journal⟩ := count_run hw (.allocation .failure) t
    have same : t.policy = s.policy ∧ t.store = s.store := by
      rcases step.acquire pool with ⟨_, _, _, given, _⟩ | ⟨_, _, _, rfl⟩
      · cases given
      · exact ⟨rfl, rfl⟩
    refine ⟨u, ?_, quietly.policy.trans same.1, quietly.store.trans same.2, ?_⟩
    · cases failure with
      | error e => exact runUnder_bind_error (runUnder_onError_error acquired counted)
      | panic message => exact absurd rfl (step.steady nofun message)
    · rw [journal, step.journal_eq, List.append_assoc]
      rfl
  failed := by
    intro r t failure v acquired ran
    obtain ⟨taken, restored, store, _, unreleased, _⟩ := scope_run hw pool quiet acquired ran
    obtain ⟨u, undone, rolledBack, kept⟩ := rollback_run ctx hw taken restored unreleased
    refine ⟨u, ?_, rolledBack, kept.trans store⟩
    rw [allocate_run acquired]
    exact runUnder_bind_error (runUnder_onFailure_error ran undone)
  unnamed := by
    intro r t pending value v acquired ran unnamed
    obtain ⟨taken, restored, store, _, unreleased, _⟩ := scope_run hw pool quiet acquired ran
    obtain ⟨u, undone, rolledBack, kept⟩ := rollback_run ctx hw taken restored unreleased
    refine ⟨u, ?_, rolledBack, kept.trans store⟩
    rw [allocate_run acquired, Broker.place, runUnder_bind_ok (runUnder_onFailure_ok ran)]
    simp only [unnamed]
    exact runUnder_bind_ok undone
  unrecorded := by
    intro r t pending value v objectId failure x acquired ran named added
    obtain ⟨taken, restored, store, now, unreleased, kept⟩ := scope_run hw pool quiet acquired ran
    obtain ⟨policy, asks, table⟩ := add_run hw added
    obtain ⟨u, undone, rolledBack, same⟩ :=
      rollback_run ctx hw (policy.trans taken) restored (unreleased.trans asks)
    refine ⟨u, ?_, rolledBack, ?_⟩
    · rw [allocate_run acquired, Broker.place, runUnder_bind_ok (runUnder_onFailure_ok ran)]
      obtain rfl : pending.resource = r := kept
      simp only [named]
      cases failure with
      | error e => exact runUnder_bind_error (runUnder_onError_error added undone)
      | panic message => exact absurd rfl ((runUnder_step hw added).steady nofun message)
    · rw [same, ← store]
      exact table.imp (·.2) fun ⟨appended, answer⟩ =>
        ⟨Ledger.not_legible_of_unread answer.symm, _, appended⟩
  recorded := by
    intro r t pending value v objectId b x acquired ran named added
    obtain ⟨taken, restored, store, now, unreleased, kept⟩ := scope_run hw pool quiet acquired ran
    obtain ⟨policy, asks, ⟨⟨_, failed⟩, _⟩ | ⟨ledger, answer⟩⟩ := add_run hw added
    · cases failed
    have read := mapError_eq_ok.1 answer.symm
    obtain ⟨u, counted, quietly, _⟩ := count_run hw (.allocation .success) x
    rw [store] at read ledger
    refine ⟨u, ?_, (unreleased.trans asks).trans quietly.unreleased,
      quietly.policy.trans (policy.trans taken), _, quietly.store.trans ledger,
      Ledger.newRow_binds .., read⟩
    rw [allocate_run acquired, Broker.place, runUnder_bind_ok (runUnder_onFailure_ok ran)]
    obtain rfl : pending.resource = r := kept
    simp only [named]
    rw [runUnder_bind_ok (runUnder_onError_ok added), runUnder_bind_ok counted]
    rfl

end

def stuck : Schedule := fun _ => .ofList [("policy.release", (.fail (.internal "stuck"), 1))]

theorem stuck_within : stuck.Within fun e fault => e.isRelease ∧ fault = .fail (.internal "stuck") := by
  refine Schedule.within_points fun s e point fault times passed waiting => ?_
  simp only [stuck, Dict.ofList, List.foldl, Dict.get?_insert, Dict.get?_empty] at waiting
  split at waiting
  · rename_i same
    subst same
    cases waiting
    refine ⟨?_, rfl⟩
    cases e with
    | release => rfl
    | store op => cases op <;> simp [Effect.point?] at passed
    | backend descriptor call ctx =>
        have first := congrArg (·.toList.head?) (Option.some.inj passed)
        simp [String.toList_append] at first
    | acquire | count | readCounters => simp [Effect.point?] at passed
  · cases waiting

theorem steady_of_release {e : Effect} {fault : Fault}
    (h : e.isRelease ∧ fault = .fail (.internal "stuck")) : Hazard.steady e fault := by
  obtain ⟨release, rfl⟩ := h
  cases e with
  | release ctx id =>
      intro message failed
      cases failed
  | acquire | store | backend | count | readCounters => cases release

/-- A pool of one instance that nobody has. -/
def oneInstance : Pool := .single ⟨"instance-1", "router", false, "vm", ∅⟩

/-- A scope that does nothing but panic. -/
def panicking : Pending → Procedure (Pending × Unit) := fun _ => .panic "scope"

theorem panicking_quiet (r : Resource) :
    (panicking (.ofResource r)).Within (·.isQuiet) (KeepsResource r) := trivial

/-- A scope that panics ends the allocation in its panic, though its resource cannot be given back. -/
theorem panic_outlives_rollback :
    let s := initial (.localPool oneInstance) .inMemory ∅ ⟨0⟩
    ∃ v u, s.runUnder stuck (Broker.allocate (.new "request") "router" panicking) =
        (.error (.panic "scope"), u) ∧
      RolledBack (.new "request") "instance-1" oneInstance s v u ∧ u.store = .inMemory := by
  intro s
  have law : AllOrNothing stuck (.new "request") "router" panicking oneInstance s :=
    allocation_all_or_nothing (stuck_within.mono fun _ _ => steady_of_release) panicking_quiet rfl
  have acquired : s.runUnder stuck (.acquire (.new "request") "router") =
      (.ok ⟨"instance-1", "router", true, "vm", ∅⟩,
        (s.runUnder stuck (.acquire (.new "request") "router")).2) := rfl
  exact ⟨_, law.failed acquired rfl⟩

/-- An allocation that fails for metadata that is nested too deeply to be read back gives its resource
back, but its row stays. -/
theorem deep_row_left :
    let p : Pool := .single ⟨"r1", "router", false, "vm", .ofList [("k", nested 127)]⟩
    let s := initial (.localPool p) .inMemory ∅ ⟨0⟩
    let scope : Pending → Procedure (Pending × Unit) := fun pending =>
      pure (pending.bindObject "o", ())
    let ended := s.runUnder .calm (Broker.allocate default "router" scope)
    (∀ r, (scope (.ofResource r)).Within (·.isQuiet) (KeepsResource r)) ∧
      ended.1.isOk = false ∧ ended.2.pool = p ∧ s.store.ledger.bound = [] ∧
      ended.2.store.ledger.bound = ["r1"] := by
  intro p s scope ended
  exact ⟨fun r => .pure rfl, by decide +kernel⟩

end State
end Brokerage
