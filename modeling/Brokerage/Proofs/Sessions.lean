import Brokerage.Proofs.Accounting
import Brokerage.Proofs.Runs

/-! # Sessions with a broker

Calls of the broker and of the router interface over it, one after the other. In every state on the
way bindings name resources that the pool has handed out, no two the same; after every call the
pool lacks nothing but the bound resources and those that were lost.
-/

namespace Brokerage

/-- One call. A scope leaves the pool and the bindings alone, and an allocation's gives the resource
back that it was run on; an update leaves the object on its resource. -/
inductive Call : Type 1 where
  | allocate {α : Type} (ctx : Context) (type : String) (scope : Pending → Procedure (Pending × α))
    (quiet : ∀ r, (scope (.ofResource r)).Within (·.isQuiet) (State.KeepsResource r))
  | deallocate {α : Type} (ctx : Context) (objectId : String) (scope : Binding → Procedure α)
    (quiet : ∀ b, (scope b).Quiet)
  | getResource (objectId : String)
  | getDescriptors (type : String)
  | updateResource (objectId : String) (change : Placement.Change)
    (stays : change.resourceId = none)
  | dispatch (registry : Registry) (ctx : Context) (op : Dispatch.Operation)

namespace Procedure

/-- Run a procedure for its effects. -/
def forget {α : Type} (p : Procedure α) : Procedure Unit := do
  let _ ← p
  return ()

theorem Keeps.forget {α : Type} {moves : State.Moves} {inv : State → Prop} {p : Procedure α} {s : State}
    {post : State → Prop} (h : p.Keeps moves inv s fun _ t => post t) :
    p.forget.Keeps moves inv s fun _ t => post t :=
  .bind (h.widen fun _ held => held) (fun _ _ ends => .pure ends.1 ends.2) fun _ _ _ ends => ends.2

end Procedure

theorem State.runUnder_forget {α : Type} (w : Schedule) (p : Procedure α) (s : State) :
    s.runUnder w p.forget = ((s.runUnder w p).1.map fun _ => (), (s.runUnder w p).2) := by
  rw [Procedure.forget, runUnder_bind]
  rcases s.runUnder w p with ⟨_ | _, t⟩ <;> rfl

namespace Call

def procedure : Call → Procedure Unit
  | allocate ctx type scope _ => (Broker.allocate ctx type scope).forget
  | deallocate ctx objectId scope _ => (Broker.deallocate ctx objectId scope).forget
  | getResource objectId => (Procedure.getBinding objectId).forget
  | getDescriptors type => (Procedure.listDescriptors type).forget
  | updateResource objectId change _ => (Procedure.updateBinding objectId change).forget
  | dispatch registry ctx op => (op.procedure registry ctx).forget

/-- The object whose resource the call is to free. -/
def withdrawn? : Call → Option String
  | deallocate _ objectId _ _ => some objectId
  | dispatch _ _ (.delete id) => some id
  | _ => none

/-- How many resources a call lost between two states: those whose release failed, unless the call
was to free the resource of an object and bound it again. -/
def lost (call : Call) (s t : State) : Nat :=
  match call.withdrawn? with
  | some objectId =>
    if (t.store.ledger.active? objectId).isSome then 0 else t.failedReleases - s.failedReleases
  | none => t.failedReleases - s.failedReleases

end Call

namespace State

/-- The state after some calls. -/
def after (w : Schedule) (s : State) : List Call → State
  | [] => s
  | call :: rest => (s.runUnder w call.procedure).2.after w rest

/-- The states that some calls pass through. -/
def passed (w : Schedule) (s : State) : List Call → List State
  | [] => [s]
  | call :: rest =>
    s.trailUnder w call.procedure ++ (s.runUnder w call.procedure).2.passed w rest

/-- How many resources some calls lost. -/
def lostBy (w : Schedule) (s : State) : List Call → Nat
  | [] => 0
  | call :: rest =>
    let t := (s.runUnder w call.procedure).2
    call.lost s t + t.lostBy w rest

/-- Every active binding is on a resource that is handed out, and on one of its own. -/
structure Coupled (s : State) : Prop where
  handedOut : ∀ row ∈ s.store.ledger.actives, ∃ r ∈ s.pool.entries,
    r.id = row.resourceId ∧ r.allocated = true
  distinct : (s.store.ledger.actives.map (·.resourceId)).Nodup

/-- So many resources are handed out and not bound. -/
def Owes (lost : Nat) (s : State) : Prop :=
  ∃ l unbound, s.Balanced l unbound s.failedReleases ∧ unbound.length = lost

variable {w : Schedule} {s t : State} {n : Nat}

theorem Accounted.coupled (h : s.Accounted) : s.Coupled := by
  obtain ⟨l, unbound, failed, ⟨p, pool, coupling⟩, rfl, -⟩ := h
  have nodup := coupling.taken.nodup_iff.1 p.taken_nodup
  refine ⟨fun row member => ?_, (List.nodup_append.1 nodup).2.1⟩
  have handed : row.resourceId ∈ p.taken :=
    coupling.taken.mem_iff.2 (List.mem_append_right _ (List.mem_map_of_mem member))
  obtain ⟨r, hr, given, same⟩ := Pool.mem_taken.1 handed
  exact ⟨r, by simpa [State.pool, pool] using hr, same, given⟩

theorem Owes.accounted (h : s.Owes n) : s.Accounted :=
  let ⟨_, _, held, _⟩ := h
  held.accounted

theorem Owes.length_taken (h : s.Owes n) :
    s.pool.taken.length = s.store.ledger.actives.length + n := by
  obtain ⟨l, unbound, ⟨⟨p, pool, coupling⟩, rfl, -⟩, rfl⟩ := h
  have length := coupling.taken.length_eq
  simp only [List.length_append, Ledger.bound, List.length_map] at length
  simp only [State.pool, pool]
  omega

theorem Owes.initial {p : Pool} (free : p.AllFree) (readable : p.Readable) {store : Store}
    (blank : store.ledger = ∅) (backends : Dict Backend) (ids : IdSupply) :
    (State.initial (.localPool p) store backends ids).Owes 0 :=
  ⟨∅, [], ⟨⟨p, rfl, .initial free readable⟩, blank, rfl⟩, rfl⟩

theorem Settled.owes {unbound : List String} (h : t.Settled unbound s.failedReleases)
    (length : unbound.length = n) : t.Owes (n + (t.failedReleases - s.failedReleases)) := by
  obtain ⟨l, lost, held⟩ := h
  have releases := held.releases
  refine ⟨l, lost ++ unbound, releases ▸ held, ?_⟩
  rw [List.length_append]
  omega

theorem Withdrawn.owes {unbound : List String} {objectId : String}
    (h : t.Withdrawn objectId unbound s.failedReleases) (length : unbound.length = n) :
    t.Owes (n + if (t.store.ledger.active? objectId).isSome then 0
      else t.failedReleases - s.failedReleases) := by
  obtain ⟨l, lost, now, held, count⟩ := h
  obtain rfl := held.releases
  obtain rfl := held.ledger
  refine ⟨_, lost ++ unbound, held, ?_⟩
  rw [List.length_append, count, length, Nat.add_comm]

theorem Owes.keeps_quiet {α : Type} {hazard : Hazard} {p : Procedure α} (h : s.Owes n)
    (quiet : p.Quiet) : p.forget.Keeps (Step hazard) Accounted s fun _ t =>
      t.Owes (n + (t.failedReleases - s.failedReleases)) := by
  obtain ⟨l, unbound, held, length⟩ := h
  refine .forget (.mono (held.keeps_quiet quiet) fun _ t _ ends => ?_)
  exact Settled.owes ends.1.settled length

end State

namespace Dispatch

variable {registry : Registry} {ctx : Context} {s : State} {l : Ledger} {unbound : List String}
  {failed : Nat}

theorem create_settles (request : Router.Request) (h : s.Balanced l unbound failed) :
    (create registry ctx request).Keeps (State.Step .errors) State.Accounted s fun _ t =>
      t.Settled unbound failed := by
  refine .bind (h.keeps_allocate fun r => ?_) (fun _ t settled => .pure settled.accounted settled)
    fun _ _ _ settled => settled
  have registered : (Procedure.ofExcept (registry.get r.descriptor)).Quiet := .ofExcept
  refine .bind registered ?_ fun _ _ => trivial
  intro _ _
  have called : (Procedure.callBackend r.descriptor (.create (onResource request r)) ctx).Quiet :=
    .perform rfl
  exact .bind called (fun router _ => .pure rfl) fun _ _ => trivial

theorem delete_withdraws (id : String) (h : s.Balanced l unbound failed) :
    (delete registry ctx id).Keeps (State.Step .errors) State.Accounted s fun _ t =>
      t.Withdrawn id unbound failed :=
  h.keeps_deallocate fun _ => Procedure.Asks.bind .ofExcept fun _ => .perform rfl

end Dispatch

namespace State

variable {w : Schedule} {s : State} {n : Nat}

/-- A call loses what it says it lost, and leaves everything else accounted for. -/
theorem Owes.keeps_call (h : s.Owes n) (call : Call) :
    call.procedure.Keeps (Step .errors) Accounted s fun _ t => t.Owes (n + call.lost s t) := by
  obtain ⟨l, unbound, held, length⟩ := id h
  cases call with
  | allocate ctx type scope quiet =>
      exact .forget (.mono (held.keeps_allocate quiet) fun _ t _ settled => settled.owes length)
  | deallocate ctx objectId scope quiet =>
      exact .forget (.mono (held.keeps_deallocate quiet) fun _ t _ done => done.owes length)
  | getResource objectId => exact h.keeps_quiet (.perform rfl)
  | getDescriptors type => exact h.keeps_quiet (.perform rfl)
  | updateResource objectId change stays =>
      refine .forget (.perform h.accounted fun o t step => ?_)
      obtain ⟨l', updated⟩ := held.update stays step
      exact ⟨updated.accounted, Settled.owes updated.settled length⟩
  | dispatch registry ctx op =>
      cases op with
      | create request =>
          exact .forget (.mono (Dispatch.create_settles request held) fun _ t _ settled =>
            settled.owes length)
      | delete id =>
          exact .forget (.mono (Dispatch.delete_withdraws id held) fun _ t _ done => done.owes length)
      | _ => exact h.keeps_quiet (Dispatch.Operation.procedure_quiet rfl)

theorem Owes.after (hw : w.Within .errors) (calls : List Call) (h : s.Owes n) :
    (s.after w calls).Owes (n + s.lostBy w calls) := by
  induction calls generalizing s n with
  | nil => exact h
  | cons call rest ih =>
      have called := ih ((h.keeps_call call).end_of_run hw.moves)
      rwa [Nat.add_assoc] at called

theorem Owes.passed (hw : w.Within .errors) (calls : List Call) (h : s.Owes n) :
    ∀ t ∈ s.passed w calls, t.Coupled := by
  induction calls generalizing s n with
  | nil =>
      intro t member
      obtain rfl := List.mem_singleton.1 member
      exact h.accounted.coupled
  | cons call rest ih =>
      intro t member
      have kept := h.keeps_call call
      rcases List.mem_append.1 member with member | member
      · exact (kept.along_run hw.moves t member).coupled
      · exact ih (kept.end_of_run hw.moves) t member

/-- From a pool with nothing handed out and no bindings on, whatever effects fail: in every state
passed, bindings name handed out resources, each its own; after every call the handed out resources
are as many as the bindings and the resources lost so far. -/
theorem bindings_coupled_with_pool {p : Pool} (free : p.AllFree) (readable : p.Readable)
    {store : Store} (blank : store.ledger = ∅) (backends : Dict Backend) (ids : IdSupply)
    (hw : w.Within .errors) (calls : List Call) :
    let start := State.initial (.localPool p) store backends ids
    (∀ t ∈ start.passed w calls, t.Coupled) ∧
      ∀ done, done <+: calls → (start.after w done).pool.taken.length =
        (start.after w done).store.ledger.actives.length + start.lostBy w done := by
  intro start
  have owes : start.Owes 0 := .initial free readable blank backends ids
  refine ⟨owes.passed hw calls, fun done _ => ?_⟩
  rw [(owes.after hw done).length_taken, Nat.zero_add]

/-- A pool of one resource with some metadata. -/
def lonePool (metadata : Metadata) : Pool := .single ⟨"r1", "router", false, "edge", metadata⟩

/-- A broker with one resource to hand out. -/
def lone (metadata : Metadata) : State :=
  .initial (.localPool (lonePool metadata)) .inMemory ∅ ⟨0⟩

/-- Put an object on a resource. -/
def lend : Call :=
  .allocate default "router" (fun pending => pure (pending.bindObject "o", ())) fun _ => .pure rfl

/-- Free the resource of the object. -/
def giveBack : Call := .deallocate default "o" (fun _ => pure ()) fun _ => .pure

/-- Once an allocation succeeded, releasing and recording fail. -/
def noWayBack : Schedule := fun s =>
  if s.counters.allocations.success.isSome then
    .ofList [("policy.release", (.fail default, 1)), ("store.add", (.fail default, 1))]
  else ∅

theorem noWayBack_within : noWayBack.Within .errors := by
  refine Schedule.within_errors fun s point fault times waiting message => ?_
  unfold noWayBack at waiting
  split at waiting
  · simp only [Dict.ofList, List.foldl, Dict.get?_insert, Dict.get?_empty] at waiting
    split at waiting
    · cases waiting
      intro panics
      cases panics
    split at waiting
    · cases waiting
      intro panics
      cases panics
    · cases waiting
  · cases waiting

theorem lost_resource_counted :
    ((lone ∅).after noWayBack [lend, giveBack]).pool.taken.length =
      ((lone ∅).after noWayBack [lend, giveBack]).store.ledger.actives.length + 1 := by
  have free : (lonePool ∅).AllFree := by decide
  have readable : (lonePool ∅).Readable := by decide +kernel
  have blank : Store.inMemory.ledger = ∅ := rfl
  have coupled := bindings_coupled_with_pool free readable blank ∅ ⟨0⟩ noWayBack_within
    [lend, giveBack]
  have lost : (lone ∅).lostBy noWayBack [lend, giveBack] = 1 := by decide +kernel
  rw [← lost]
  exact coupled.2 _ List.prefix_rfl

/-- A resource is lost without any rollback when releasing it and recording its binding anew both
fail. And a resource is handed back although it is bound when its metadata cannot be read back. -/
theorem resources_lost_without_rollback :
    noWayBack.Within .errors ∧
    (let t := (lone ∅).after noWayBack [lend, giveBack]
    t.pool.taken = ["r1"] ∧ t.store.ledger.actives = [] ∧ t.counters.rollbacks = 0) ∧
    let t := (lone (.ofList [("k", nested 127)])).after .calm [lend]
    t.pool.taken = [] ∧ t.store.ledger.bound = ["r1"] :=
  ⟨noWayBack_within, by decide +kernel⟩

end State
end Brokerage
