import Brokerage.Proofs.Effects
import Brokerage.Proofs.Operations

/-! # Bindings and the pool

The pool has handed out what bindings name, and besides only what nobody binds: a resource on its
way to a binding, or one that was lost because it could not be given back.
-/

namespace Brokerage

/-- Metadata that a binding keeps and gives again: the text of what nests too deeply is kept but
cannot be read. -/
def Pool.Readable (p : Pool) : Prop := ∀ r ∈ p.entries, Ledger.Legible (some r.metadata)

instance (p : Pool) : Decidable p.Readable :=
  inferInstanceAs (Decidable (∀ r ∈ p.entries, Ledger.Legible (some r.metadata)))

theorem Pool.Readable.mark {p : Pool} {id : String} {mark : Bool} (h : p.Readable) :
    (p.mark id mark).Readable := by
  intro x member
  obtain ⟨r, hr, rfl⟩ := mem_entries_mark.1 member
  rw [(markEntry_fields r).2.2]
  exact h r hr

/-- The resources handed out are those of bindings and the unbound ones, each once. -/
structure Coupling (p : Pool) (l : Ledger) (unbound : List String) : Prop where
  sound : l.Sound
  readable : p.Readable
  taken : p.taken.Perm (unbound ++ l.bound)

namespace Coupling

variable {p : Pool} {l : Ledger} {unbound : List String} {r : Resource} {row : Ledger.Row}
  {id objectId type : String} {now : Timestamp} {placement : Placement}

theorem initial (free : p.AllFree) (readable : p.Readable) : Coupling p ∅ [] where
  sound := Ledger.sound_empty
  readable := readable
  taken := by
    rw [free.taken_eq_nil]
    rfl

theorem acquire (h : Coupling p l unbound) (found : p.entries.find? (Pool.isFree type) = some r) :
    Coupling (p.mark r.id true) l (r.id :: unbound) := by
  obtain ⟨hr, free, _⟩ := Pool.find?_isFree found
  exact ⟨h.sound, h.readable.mark, (Pool.taken_mark_true hr free).trans (h.taken.cons r.id)⟩

theorem release (h : Coupling p l (id :: unbound)) : Coupling (p.mark id false) l unbound := by
  have member : id ∈ p.taken := h.taken.mem_iff.2 List.mem_cons_self
  exact ⟨h.sound, h.readable.mark,
    ((Pool.taken_mark_false member).symm.trans h.taken).cons_inv⟩

theorem append (h : Coupling p l (row.resourceId :: unbound)) (counts : row.isActive = true)
    (numbered : row.id ≠ 0) (new : l.active? row.objectId = none) :
    Coupling p (l.append row) unbound where
  sound := h.sound.append counts numbered new
  readable := h.readable
  taken := by
    rw [Ledger.bound_append counts, ← List.append_assoc]
    exact h.taken.trans (List.perm_append_singleton _ _).symm

theorem retire (h : Coupling p l unbound) (found : l.active? objectId = some row) :
    Coupling p (l.modifyActive objectId (·.retire now)) (row.resourceId :: unbound) where
  sound := h.sound.retire
  readable := h.readable
  taken := h.taken.trans (((h.sound.bound_retire found).append_left unbound).trans
    List.perm_middle)

theorem move (h : Coupling p l unbound) (found : l.active? objectId = some row)
    (stays : placement.resourceId = row.resourceId) :
    Coupling p (l.modifyActive objectId (·.move placement now)) unbound where
  sound := h.sound.move placement
  readable := h.readable
  taken := by
    rw [h.sound.bound_move found stays]
    exact h.taken

end Coupling

/-- A release that did not happen. -/
def Event.isFailedRelease : Event → Bool
  | .answered (.release ..) (.error _) => true
  | _ => false

namespace State

/-- The pool of a local policy. -/
def pool (s : State) : Pool :=
  match s.policy with
  | .localPool pool => pool
  | .remote .. => ∅

/-- How many releases did not happen so far. -/
def failedReleases (s : State) : Nat := s.journal.countP (·.isFailedRelease)

/-- The pool is coupled with a ledger, and so many releases did not happen so far. -/
structure Balanced (l : Ledger) (unbound : List String) (failed : Nat) (s : State) : Prop where
  coupled : ∃ p, s.policy = .localPool p ∧ Coupling p l unbound
  ledger : s.store.ledger = l
  releases : s.failedReleases = failed

/-- Whatever the pool has handed out is accounted for. -/
def Accounted (s : State) : Prop := ∃ l unbound failed, s.Balanced l unbound failed

theorem Balanced.accounted {l : Ledger} {unbound : List String} {failed : Nat} {s : State}
    (h : s.Balanced l unbound failed) : s.Accounted := ⟨l, unbound, failed, h⟩

theorem failedReleases_recorded {s : State} {faults : Faults} {e : Effect} {o : e.Outcome} :
    (s.recorded faults e o).failedReleases =
      s.failedReleases + if (Event.answered e o).isFailedRelease then 1 else 0 := by
  have asked : (Event.asked e).isFailedRelease = false := rfl
  simp [failedReleases, recorded, List.countP_append, List.countP_cons, asked]

namespace Balanced

variable {hazard : Hazard} {l : Ledger} {unbound : List String} {failed : Nat} {s t : State}
  {ctx : Context} {id objectId type : String} {row : Ledger.Row} {faults : Faults}

/-- Records that tell of no failed release change nothing. -/
theorem recorded {e : Effect} {o : e.Outcome} (h : s.Balanced l unbound failed)
    (unheard : (Event.answered e o).isFailedRelease = false) :
    (s.recorded faults e o).Balanced l unbound failed where
  coupled := h.coupled
  ledger := h.ledger
  releases := by simp [failedReleases_recorded, unheard, h.releases]

theorem withPool {p : Pool} {handed : List String} (h : s.Balanced l unbound failed)
    (coupling : Coupling p l handed) : (s.withPool p).Balanced l handed failed :=
  ⟨⟨p, rfl, coupling⟩, h.ledger, h.releases⟩

theorem withLedger {p : Pool} {ledger : Ledger} {handed : List String}
    (h : s.Balanced l unbound failed) (pool : s.policy = .localPool p)
    (coupling : Coupling p ledger handed) : (s.withLedger ledger).Balanced ledger handed failed :=
  ⟨⟨p, pool, coupling⟩, rfl, h.releases⟩

theorem withBackend {descriptor : String} {b : Backend} {ids : IdSupply}
    (h : s.Balanced l unbound failed) :
    (s.withBackend descriptor b ids).Balanced l unbound failed :=
  ⟨h.coupled, h.ledger, h.releases⟩

theorem withCounters {counters : Counters} (h : s.Balanced l unbound failed) :
    ({ s with counters } : State).Balanced l unbound failed :=
  ⟨h.coupled, h.ledger, h.releases⟩

theorem quiet {e : Effect} {o : e.Outcome} (h : s.Balanced l unbound failed)
    (isQuiet : e.isQuiet = true) (step : Step hazard e s o t) : t.Balanced l unbound failed := by
  cases e with
  | acquire | release => cases isQuiet
  | count event =>
      obtain ⟨faults, rfl, rfl⟩ := step.count
      exact h.withCounters.recorded rfl
  | readCounters =>
      cases step with
      | happened faults => exact h.recorded rfl
      | struck faults => exact h.recorded rfl
  | store op =>
      have kept := Effect.ledger_of_isQuiet isQuiet s.now s.store.ledger
      rcases step.store with ⟨faults, rfl, rfl⟩ | ⟨failure, faults, rfl, rfl, _⟩
      · obtain ⟨p, pool, coupling⟩ := h.coupled
        rw [kept, h.ledger]
        exact (h.withLedger pool coupling).recorded rfl
      · exact h.recorded rfl
  | backend descriptor call ctx =>
      rcases step.backend with ⟨b, faults, _, rfl, rfl⟩ | ⟨failure, faults, rfl, rfl, _⟩
      · exact h.withBackend.recorded rfl
      · exact h.recorded rfl

theorem acquire {o : Effect.Outcome (.acquire ctx type)} (h : s.Balanced l unbound failed)
    (step : Step hazard (.acquire ctx type) s o t) :
    (∃ r, o = .ok r ∧ Ledger.Legible (some r.metadata) ∧ t.Balanced l (r.id :: unbound) failed) ∨
      ∃ failure, o = .error failure ∧ t.Balanced l unbound failed := by
  obtain ⟨p, pool, coupling⟩ := h.coupled
  rcases step.acquire pool with ⟨r, faults, found, rfl, rfl⟩ | ⟨failure, faults, rfl, rfl⟩
  · have legible := coupling.readable r (Pool.find?_isFree found).1
    exact .inl ⟨_, rfl, legible, (h.withPool (coupling.acquire found)).recorded rfl⟩
  · exact .inr ⟨failure, rfl, h.recorded rfl⟩

theorem release {o : Effect.Outcome (.release ctx id)} (h : s.Balanced l (id :: unbound) failed)
    (step : Step hazard (.release ctx id) s o t) :
    (o = .ok () ∧ t.Balanced l unbound failed) ∨
      ∃ failure, o = .error failure ∧ t.Balanced l (id :: unbound) (failed + 1) := by
  obtain ⟨p, pool, coupling⟩ := h.coupled
  rcases step.release pool with ⟨faults, rfl, rfl⟩ | ⟨failure, faults, rfl, rfl, _⟩
  · exact .inl ⟨rfl, (h.withPool coupling.release).recorded rfl⟩
  · refine .inr ⟨failure, rfl, h.coupled, h.ledger, ?_⟩
    rw [failedReleases_recorded, h.releases]
    rfl

theorem add {a : Assignment} {o : Effect.Outcome (.store (.add a))}
    (h : s.Balanced l (a.placement.resourceId :: unbound) failed)
    (step : Step hazard (.store (.add a)) s o t) :
    (t.Balanced (l.append (l.newRow a s.now)) unbound failed ∧
      (Ledger.Legible a.placement.metadata → ∃ b, o = .ok b)) ∨
    ∃ failure, o = .error failure ∧ t.Balanced l (a.placement.resourceId :: unbound) failed := by
  obtain ⟨p, pool, coupling⟩ := h.coupled
  have add := step.add
  rw [h.ledger] at add
  rcases add with ⟨faults, new, rfl, rfl⟩ | ⟨failure, faults, rfl, rfl, _⟩
  · have bound : Coupling p (l.append (l.newRow a s.now)) unbound :=
      coupling.append rfl (Ledger.newRow_numbered a) new
    refine .inl ⟨(h.withLedger pool bound).recorded rfl, fun legible => ?_⟩
    obtain ⟨b, readable⟩ := Ledger.newRow_legible legible
    exact ⟨b, by rw [readable]; rfl⟩
  · exact .inr ⟨failure, rfl, h.recorded rfl⟩

theorem get {o : Effect.Outcome (.store (.get objectId))} (h : s.Balanced l unbound failed)
    (step : Step hazard (.store (.get objectId)) s o t) : t.Balanced l unbound failed ∧
      ∀ b, o = .ok b → b.objectId = objectId ∧
        ∃ row, l.active? objectId = some row ∧ b.placement.resourceId = row.resourceId := by
  refine ⟨h.quiet rfl step, fun b read => ?_⟩
  obtain ⟨_, answered | ⟨failure, failed, _⟩⟩ := step.get
  · rw [read, h.ledger] at answered
    cases got : l.get objectId with
    | error e => simp [got, Except.mapError] at answered
    | ok b' =>
        rw [got] at answered
        obtain rfl : b = b' := Except.ok.inj answered
        obtain ⟨row, found, readable⟩ := Ledger.get_ok got
        obtain ⟨object, _, resource, _⟩ := Ledger.toBinding_ok readable
        exact ⟨object.trans (Ledger.active?_some found).2, row, found, resource⟩
  · cases read.symm.trans failed

theorem delete {o : Effect.Outcome (.store (.delete objectId))} (h : s.Balanced l unbound failed)
    (found : l.active? objectId = some row)
    (step : Step hazard (.store (.delete objectId)) s o t) :
    (o = .ok () ∧ t.Balanced (l.modifyActive objectId (·.retire s.now))
      (row.resourceId :: unbound) failed) ∨
    ∃ failure, o = .error failure ∧ t.Balanced l unbound failed := by
  obtain ⟨p, pool, coupling⟩ := h.coupled
  have delete := step.delete
  rw [h.ledger] at delete
  rcases delete with ⟨_, faults, _, rfl, rfl⟩ | ⟨failure, faults, rfl, rfl, _⟩
  · exact .inl ⟨rfl, (h.withLedger pool (coupling.retire found)).recorded rfl⟩
  · exact .inr ⟨failure, rfl, h.recorded rfl⟩

/-- An update that names no other resource leaves its object on the one it has. -/
theorem update {c : Placement.Change} {o : Effect.Outcome (.store (.update objectId c))}
    (h : s.Balanced l unbound failed) (stays : c.resourceId = none)
    (step : Step hazard (.store (.update objectId c)) s o t) :
    ∃ l', t.Balanced l' unbound failed := by
  obtain ⟨p, pool, coupling⟩ := h.coupled
  have update := step.update
  rw [h.ledger] at update
  rcases update with ⟨row, b, faults, found, readable, rfl⟩ | ⟨faults, rfl⟩
  · have same : (b.change c).placement.resourceId = row.resourceId := by
      simp [Binding.change, Placement.Change.apply, stays, (Ledger.toBinding_ok readable).2.2.1]
    exact ⟨_, (h.withLedger pool (coupling.move found same)).recorded rfl⟩
  · exact ⟨_, h.recorded rfl⟩

end Balanced
end State
end Brokerage
