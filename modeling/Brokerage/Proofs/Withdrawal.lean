import Brokerage.Proofs.Allocation
import Brokerage.Proofs.AuditLog
import Brokerage.Proofs.Rereading

/-! # What a deallocation comes to

A deallocation goes through four stages: it looks the binding up, runs the scope, removes the binding
and frees the resource. If a stage fails, the caller gets that stage's error; before the binding is
removed nothing has changed, and afterwards the binding is recorded anew, as far as the store lets it.
The metadata of the new row is written from what was read of the old one, so a double in it may
come back as another double.
-/

namespace Brokerage

namespace Ledger

variable {l : Ledger} {row : Row} {objectId : String} {now : Timestamp}

def others (l : Ledger) (objectId : String) : List Row := l.rows.filter (·.objectId != objectId)

theorem others_modifyActive {f : Row → Row} (keeps : ∀ row, (f row).objectId = row.objectId) :
    (l.modifyActive objectId f).others objectId = l.others objectId := by
  simp only [others, modifyActive]
  induction l.rows with
  | nil => rfl
  | cons row rest ih =>
      by_cases same : row.objectId = objectId
      · have still : (if row.isActiveOf objectId then f row else row).objectId = objectId := by
          split <;> simp [keeps, same]
        simp [same, still, ih]
      · have missed : row.isActiveOf objectId = false := by simp [Row.isActiveOf, same]
        simp [same, missed, ih]

theorem others_append (same : row.objectId = objectId) :
    (l.append row).others objectId = l.others objectId := by
  simp [others, append, List.filter_append, same]

/-- The active row of an object is deleted, and the rows of all others stay as they are. -/
structure Retires (l l' : Ledger) (objectId : String) (now : Timestamp) : Prop where
  deleted : ∃ old, l.active? objectId = some old ∧ old.retire now ∈ l'.rows
  others : l'.others objectId = l.others objectId

theorem retires (found : l.active? objectId = some row) :
    l.Retires (l.modifyActive objectId (·.retire now)) objectId now where
  deleted := by
    refine ⟨row, found, mem_modifyActive.2 ⟨row, List.mem_of_find?_eq_some found, ?_⟩⟩
    rw [if_pos (List.find?_some found)]
  others := others_modifyActive fun _ => rfl

theorem Retires.append {l' : Ledger} (h : l.Retires l' objectId now) (same : row.objectId = objectId) :
    l.Retires (l'.append row) objectId now where
  deleted :=
    let ⟨old, found, member⟩ := h.deleted
    ⟨old, found, List.mem_append_left _ member⟩
  others := (others_append same).trans h.others

/-- A binding is recorded anew: the object has one active row, which is a new one and keeps the place
that was read of the old one, as far as the text of its metadata does. -/
structure Renews (l l' : Ledger) (objectId : String) (seen restored : Binding) : Prop where
  active : ∃ old row, l.active? objectId = some old ∧ l'.active? objectId = some row ∧
    old.id < row.id ∧ row.toBinding = .ok restored
  single : (l'.rowsOf objectId).countP (·.isActive) = 1
  resourceType : restored.placement.resourceType = seen.placement.resourceType
  resourceId : restored.placement.resourceId = seen.placement.resourceId
  descriptor : restored.placement.descriptor = seen.placement.descriptor
  metadata : decodeMetadata (encodeMetadata seen.placement.metadata) = .ok restored.placement.metadata
  exact : (∀ m ∈ seen.placement.metadata, (Json.ofDict m).exact = true) →
    restored.placement.metadata = seen.placement.metadata

theorem renews {seen restored : Binding} {later : Timestamp} (h : l.Recorded)
    (found : l.active? objectId = some row) (read : row.toBinding = .ok seen) :
    let gone := l.modifyActive objectId (·.retire now)
    let new := gone.newRow (.ofBinding seen) later
    new.toBinding = .ok restored → l.Renews (gone.append new) objectId seen restored := by
  intro gone new recorded
  obtain ⟨member, rfl⟩ := active?_some found
  have same : seen.objectId = row.objectId := (toBinding_ok read).1
  have retired : gone.Recorded := (Change.retired row.objectId).recorded h
  have free : gone.active? seen.objectId = none := same ▸ active?_retire h.sound.numbered
  have further : (gone.append new).Recorded := (Change.added (.ofBinding seen) free).recorded retired
  have active : (gone.append new).active? row.objectId = some new := by
    rw [← same]
    exact active?_append_new rfl free
  have less : row.id < new.id := by
    have bound := (h.id_bounds (mem_actives.1 member).1).2
    simpa [new, gone, newRow, nextId, Ledger.modifyActive] using bound
  have one : 0 < ((gone.append new).rowsOf row.objectId).countP (·.isActive) := by
    obtain ⟨inside, object⟩ := active?_some active
    obtain ⟨inside, counts⟩ := mem_actives.1 inside
    exact List.countP_pos_iff.2 ⟨new, mem_rowsOf.2 ⟨inside, object⟩, counts⟩
  exact {
    active := ⟨row, new, found, active, less, recorded⟩
    single := Nat.le_antisymm (further.audited.single row.objectId) one
    resourceType := (toBinding_ok recorded).2.1
    resourceId := (toBinding_ok recorded).2.2.1
    descriptor := (toBinding_ok recorded).2.2.2
    metadata := toBinding_metadata recorded
    exact := fun exact => Except.ok.inj ((toBinding_metadata recorded).symm.trans
      (plain_of_decode (toBinding_metadata read) exact).decode_encode) }

end Ledger

namespace Pool

variable {p : Pool} {id : String}

/-- The entry of an id is taken back, and all others stay as they are. -/
structure Frees (p q : Pool) (id : String) : Prop where
  free : ∃ r ∈ p.entries, r.id = id ∧ { r with allocated := false } ∈ q.entries
  others : q.entries.filter (·.id != id) = p.entries.filter (·.id != id)

theorem frees (known : (p.find? id).isSome) : p.Frees (p.mark id false) id where
  free := by
    obtain ⟨r, member, rfl⟩ := List.mem_map.1 (find?_isSome.1 known)
    exact ⟨r, member, rfl, mem_entries_mark.2 ⟨r, member, by simp [markEntry]⟩⟩
  others := by
    simp only [Pool.mark]
    induction p.entries with
    | nil => rfl
    | cons r rest ih =>
        by_cases same : r.id = id
        · simp [same, ih]
        · simp [same, ih, markEntry]

end Pool

namespace State

variable {α : Type} {w : Schedule} {hazard : Hazard} {s t u v x : State} {p : Pool} {ctx : Context}
  {objectId : String} {scope : Binding → Procedure α} {b : Binding} {failure : Failure}

/-- Pool and table are as they were, and the policy was not called. -/
structure Untouched (s t : State) : Prop where
  policy : t.policy = s.policy
  store : t.store = s.store
  asks : AsksOnly (fun e => !e.isPolicy) s t

theorem Quietly.untouched (h : Quietly s t) : Untouched s t := ⟨h.policy, h.store, h.unasked⟩

theorem Untouched.trans (h : Untouched s t) (h' : Untouched t u) : Untouched s u :=
  ⟨h'.policy.trans h.policy, h'.store.trans h.store, h.asks.trans h'.asks⟩

/-- What a deallocation comes to, by how its stages end: looking the binding up, running the scope on
it, removing it, freeing its resource, and else recording it anew. -/
structure Settlement (w : Schedule) (ctx : Context) (objectId : String)
    (scope : Binding → Procedure α) (p : Pool) (s : State) : Prop where
  /-- The object has no binding: the scope is not run. -/
  missing : s.store.Usable → s.store.ledger.active? objectId = none →
    ∃ u, s.runUnder w (Broker.deallocate ctx objectId scope) =
        (.error (.error (.wrongObjectId objectId)), u) ∧ Untouched s u ∧
      u.journal = s.journal ++ [.asked (.store (.get objectId)),
        .answered (.store (.get objectId)) (.error (.error (.wrongObjectId objectId))),
        .asked (.count (.deallocation .failure)),
        .answered (.count (.deallocation .failure)) (.ok ())]
  /-- The binding could not be looked up. -/
  unread : ∀ {failure t}, s.runUnder w (.getBinding objectId) = (.error failure, t) →
    ∃ u, s.runUnder w (Broker.deallocate ctx objectId scope) = (.error failure, u) ∧ Untouched s u ∧
      u.journal = s.journal ++ [.asked (.store (.get objectId)),
        .answered (.store (.get objectId)) (.error failure),
        .asked (.count (.deallocation .failure)),
        .answered (.count (.deallocation .failure)) (.ok ())]
  /-- The scope failed. -/
  failed : ∀ {seen t failure v}, s.runUnder w (.getBinding objectId) = (.ok seen, t) →
    t.runUnder w (scope seen) = (.error failure, v) →
    ∃ u, s.runUnder w (Broker.deallocate ctx objectId scope) = (.error failure, u) ∧ Untouched s u
  /-- The binding could not be removed. -/
  undeleted : ∀ {seen t value v failure x}, s.runUnder w (.getBinding objectId) = (.ok seen, t) →
    t.runUnder w (scope seen) = (.ok value, v) →
    v.runUnder w (.deleteBinding objectId) = (.error failure, x) →
    ∃ u, s.runUnder w (Broker.deallocate ctx objectId scope) = (.error failure, u) ∧ Untouched s u
  /-- The resource could not be freed, nor the binding recorded anew. -/
  unrestored : ∀ {seen t value v x failure y failure' z},
    s.runUnder w (.getBinding objectId) = (.ok seen, t) →
    t.runUnder w (scope seen) = (.ok value, v) →
    v.runUnder w (.deleteBinding objectId) = (.ok (), x) →
    x.runUnder w (.release ctx seen.placement.resourceId) = (.error failure, y) →
    y.runUnder w (.addBinding (.ofBinding seen)) = (.error failure', z) →
    ∃ u, s.runUnder w (Broker.deallocate ctx objectId scope) = (.error failure, u) ∧
      u.policy = s.policy ∧ s.store.ledger.Retires u.store.ledger objectId s.now ∧
      u.store.ledger.active? objectId = none
  /-- The resource could not be freed, and the binding was recorded anew. -/
  restored : ∀ {seen t value v x failure y restored z},
    s.runUnder w (.getBinding objectId) = (.ok seen, t) →
    t.runUnder w (scope seen) = (.ok value, v) →
    v.runUnder w (.deleteBinding objectId) = (.ok (), x) →
    x.runUnder w (.release ctx seen.placement.resourceId) = (.error failure, y) →
    y.runUnder w (.addBinding (.ofBinding seen)) = (.ok restored, z) →
    ∃ u, s.runUnder w (Broker.deallocate ctx objectId scope) = (.error failure, u) ∧
      u.policy = s.policy ∧ s.store.ledger.Retires u.store.ledger objectId s.now ∧
      s.store.ledger.Renews u.store.ledger objectId seen restored
  /-- The resource was freed, and the object has no binding any more. -/
  freed : ∀ {seen t value v x y}, s.runUnder w (.getBinding objectId) = (.ok seen, t) →
    t.runUnder w (scope seen) = (.ok value, v) →
    v.runUnder w (.deleteBinding objectId) = (.ok (), x) →
    x.runUnder w (.release ctx seen.placement.resourceId) = (.ok (), y) →
    ∃ u q, s.runUnder w (Broker.deallocate ctx objectId scope) = (.ok value, u) ∧
      s.store.ledger.Retires u.store.ledger objectId s.now ∧
      u.store.ledger.active? objectId = none ∧ u.policy = .localPool q ∧
      p.Frees q seen.placement.resourceId

theorem get_run (hw : w.Within hazard)
    (h : s.runUnder w (.getBinding objectId) = (.ok b, t)) :
    Quietly s t ∧ ∃ row, s.store.ledger.active? objectId = some row ∧ row.toBinding = .ok b := by
  have step := runUnder_step hw h
  refine ⟨step.quietly rfl, ?_⟩
  obtain ⟨_, answered | ⟨_, failed, _⟩⟩ := step.get
  · exact Ledger.get_ok (mapError_eq_ok.1 answered.symm)
  · cases failed

theorem delete_run (hw : w.Within hazard) {o : Effect.Outcome (.store (.delete objectId))}
    (h : s.runUnder w (.deleteBinding objectId) = (o, t)) :
    AsksOnly (fun e => !e.isPolicy) s t ∧ t.policy = s.policy ∧ t.now = s.now ∧
      (o = .ok () ∧ t.store.ledger = s.store.ledger.modifyActive objectId (·.retire s.now) ∨
        (∃ failure, o = .error failure) ∧ t.store = s.store) := by
  have step := runUnder_step hw h
  have asks : AsksOnly (fun e => !e.isPolicy) s t := .of_step step rfl
  rcases step.delete with ⟨_, faults, _, rfl, rfl⟩ | ⟨failure, faults, rfl, rfl, _⟩
  · exact ⟨asks, rfl, rfl, .inl ⟨rfl, rfl⟩⟩
  · exact ⟨asks, rfl, rfl, .inr ⟨⟨failure, rfl⟩, rfl⟩⟩

theorem deallocate_run (hw : w.Within hazard) {r : Except Failure α}
    (withdrawn : s.runUnder w (Broker.withdraw ctx objectId scope) = (r, t)) :
    ∃ u, s.runUnder w (Broker.deallocate ctx objectId scope) = (r, u) ∧ Quietly t u := by
  cases r with
  | ok value =>
      obtain ⟨u, counted, quietly, _⟩ := count_run hw (.deallocation .success) t
      refine ⟨u, ?_, quietly⟩
      rw [Broker.deallocate, runUnder_bind_ok (runUnder_onError_ok withdrawn),
        runUnder_bind_ok counted]
      rfl
  | error failure =>
      cases failure with
      | error e =>
          obtain ⟨u, counted, quietly, _⟩ := count_run hw (.deallocation .failure) t
          exact ⟨u, runUnder_bind_error (runUnder_onError_error withdrawn counted), quietly⟩
      | panic message =>
          exact ⟨t, runUnder_bind_error (runUnder_onError_panic withdrawn), .refl t⟩

theorem unread_run (hw : w.Within .steady)
    (looked : s.runUnder w (.getBinding objectId) = (.error failure, t)) :
    ∃ u, s.runUnder w (Broker.deallocate ctx objectId scope) = (.error failure, u) ∧ Untouched s u ∧
      u.journal = s.journal ++ [.asked (.store (.get objectId)),
        .answered (.store (.get objectId)) (.error failure),
        .asked (.count (.deallocation .failure)),
        .answered (.count (.deallocation .failure)) (.ok ())] := by
  have step := runUnder_step hw looked
  cases failure with
  | panic message => exact absurd rfl (step.steady nofun message)
  | error e =>
      obtain ⟨u, counted, quietly, journal⟩ := count_run hw (.deallocation .failure) t
      have withdrawn : s.runUnder w (Broker.withdraw ctx objectId scope) = (.error (.error e), t) :=
        runUnder_bind_error looked
      refine ⟨u, runUnder_bind_error (runUnder_onError_error withdrawn counted),
        (step.quietly rfl).untouched.trans quietly.untouched, ?_⟩
      rw [journal, step.journal_eq, List.append_assoc]
      rfl

theorem Step.release_known {id : String} {o : Effect.Outcome (.release ctx id)}
    (step : Step hazard (.release ctx id) s o t) (pool : s.policy = .localPool p) (freed : o = .ok ()) :
    (p.find? id).isSome := by
  cases step with
  | struck => cases freed
  | happened faults =>
      by_contra unknown
      simp [answer, pool, Policy.release, Pool.release, unknown, Except.mapError] at freed

/-- What is known once a binding was looked up and the scope on it has ended: nothing has changed. -/
theorem looked_run (hw : w.Within hazard)
    (quiet : ∀ b, (scope b).Within (·.isQuiet) fun _ => True)
    (looked : s.runUnder w (.getBinding objectId) = (.ok b, t)) {result : Except Failure α}
    (ran : t.runUnder w (scope b) = (result, v)) :
    Quietly s v ∧ ∃ row, s.store.ledger.active? objectId = some row ∧ row.toBinding = .ok b := by
  obtain ⟨quietly, found⟩ := get_run hw looked
  exact ⟨quietly.trans (quiet_run hw (quiet b) ran).1, found⟩

theorem deleted_run (hw : w.Within hazard) (quietly : Quietly s v)
    (deleted : v.runUnder w (.deleteBinding objectId) = (.ok (), x)) :
    x.policy = s.policy ∧ x.now = s.now ∧
      x.store.ledger = s.store.ledger.modifyActive objectId (·.retire s.now) := by
  obtain ⟨_, policy, now, ⟨_, ledger⟩ | ⟨⟨_, failed⟩, _⟩⟩ := delete_run hw deleted
  · rw [quietly.store, quietly.now] at ledger
    exact ⟨policy.trans quietly.policy, now.trans quietly.now, ledger⟩
  · cases failed

theorem unreleased_run (hw : w.Within hazard) {id : String} (pool : s.policy = .localPool p)
    (h : s.runUnder w (.release ctx id) = (.error failure, t)) :
    t.policy = s.policy ∧ t.store = s.store := by
  rcases (runUnder_step hw h).release pool with ⟨_, freed, _⟩ | ⟨_, faults, _, rfl, _⟩
  · cases freed
  · exact ⟨rfl, rfl⟩

/-- A resource that could not be freed: its binding is removed, recording it anew comes last, and how
that ends is forgotten. -/
theorem unfreed_run (hw : w.Within .steady)
    (quiet : ∀ b, (scope b).Within (·.isQuiet) fun _ => True) (pool : s.policy = .localPool p)
    {value : α} {y z : State} {o : Effect.Outcome (.store (.add (.ofBinding b)))}
    (looked : s.runUnder w (.getBinding objectId) = (.ok b, t))
    (ran : t.runUnder w (scope b) = (.ok value, v))
    (deleted : v.runUnder w (.deleteBinding objectId) = (.ok (), x))
    (kept : x.runUnder w (.release ctx b.placement.resourceId) = (.error failure, y))
    (added : y.runUnder w (.addBinding (.ofBinding b)) = (o, z)) :
    ∃ u row, s.runUnder w (Broker.deallocate ctx objectId scope) = (.error failure, u) ∧
      u.policy = s.policy ∧ u.store = z.store ∧
      s.store.ledger.active? objectId = some row ∧ row.toBinding = .ok b ∧
      y.store.ledger = s.store.ledger.modifyActive objectId (·.retire s.now) := by
  obtain ⟨quietly, row, found, read⟩ := looked_run hw quiet looked ran
  obtain ⟨policy, now, ledger⟩ := deleted_run hw quietly deleted
  obtain ⟨policy', store⟩ := unreleased_run hw (policy.trans pool) kept
  obtain ⟨policy'', _⟩ := add_run hw added
  cases failure with
  | panic message => exact absurd rfl ((runUnder_step hw kept).steady nofun message)
  | error e =>
      have forgotten := runUnder_ignoreError (w := w) (s := y) (p := .addBinding (.ofBinding b))
        fun message => by rw [added]; exact (runUnder_step hw added).steady nofun message
      rw [added] at forgotten
      have withdrawn : s.runUnder w (Broker.withdraw ctx objectId scope) = (.error (.error e), z) := by
        rw [Broker.withdraw, runUnder_bind_ok looked, runUnder_bind_ok ran, runUnder_bind_ok deleted,
          runUnder_bind_error (runUnder_onError_error kept forgotten)]
      obtain ⟨u, settled, counted⟩ := deallocate_run hw withdrawn
      refine ⟨u, row, settled, ?_, counted.store, found, read, by rw [store, ledger]⟩
      rw [counted.policy, policy'', policy', policy]

theorem unrestored_run (hw : w.Within .steady)
    (quiet : ∀ b, (scope b).Within (·.isQuiet) fun _ => True) (pool : s.policy = .localPool p)
    (recorded : s.store.ledger.Recorded) {value : α} {y z : State} {failure' : Failure}
    (looked : s.runUnder w (.getBinding objectId) = (.ok b, t))
    (ran : t.runUnder w (scope b) = (.ok value, v))
    (deleted : v.runUnder w (.deleteBinding objectId) = (.ok (), x))
    (kept : x.runUnder w (.release ctx b.placement.resourceId) = (.error failure, y))
    (added : y.runUnder w (.addBinding (.ofBinding b)) = (.error failure', z)) :
    ∃ u, s.runUnder w (Broker.deallocate ctx objectId scope) = (.error failure, u) ∧
      u.policy = s.policy ∧ s.store.ledger.Retires u.store.ledger objectId s.now ∧
      u.store.ledger.active? objectId = none := by
  obtain ⟨u, row, settled, policy, store, found, read, ledger⟩ :=
    unfreed_run hw quiet pool looked ran deleted kept added
  obtain ⟨_, _, ⟨_, same⟩ | ⟨_, answer⟩⟩ := add_run hw added
  · refine ⟨u, settled, policy, ?_, ?_⟩ <;> rw [store, same, ledger]
    · exact Ledger.retires found
    · exact Ledger.active?_retire recorded.sound.numbered
  · exact absurd (Ledger.toBinding_legible read) (Ledger.not_legible_of_unread answer.symm)

theorem restored_run (hw : w.Within .steady)
    (quiet : ∀ b, (scope b).Within (·.isQuiet) fun _ => True) (pool : s.policy = .localPool p)
    (recorded : s.store.ledger.Recorded) {value : α} {y z : State} {restored : Binding}
    (looked : s.runUnder w (.getBinding objectId) = (.ok b, t))
    (ran : t.runUnder w (scope b) = (.ok value, v))
    (deleted : v.runUnder w (.deleteBinding objectId) = (.ok (), x))
    (kept : x.runUnder w (.release ctx b.placement.resourceId) = (.error failure, y))
    (added : y.runUnder w (.addBinding (.ofBinding b)) = (.ok restored, z)) :
    ∃ u, s.runUnder w (Broker.deallocate ctx objectId scope) = (.error failure, u) ∧
      u.policy = s.policy ∧ s.store.ledger.Retires u.store.ledger objectId s.now ∧
      s.store.ledger.Renews u.store.ledger objectId b restored := by
  obtain ⟨u, row, settled, policy, store, found, read, ledger⟩ :=
    unfreed_run hw quiet pool looked ran deleted kept added
  obtain ⟨_, _, ⟨⟨_, failed⟩, _⟩ | ⟨appended, answer⟩⟩ := add_run hw added
  · cases failed
  have again := mapError_eq_ok.1 answer.symm
  have object : b.objectId = objectId :=
    (Ledger.toBinding_ok read).1.trans (Ledger.active?_some found).2
  rw [ledger] at again
  refine ⟨u, settled, policy, ?_, ?_⟩ <;> rw [store, appended, ledger]
  · exact (Ledger.retires found).append object
  · exact Ledger.renews recorded found read again

theorem freed_run (hw : w.Within .steady)
    (quiet : ∀ b, (scope b).Within (·.isQuiet) fun _ => True) (pool : s.policy = .localPool p)
    (recorded : s.store.ledger.Recorded) {value : α} {y : State}
    (looked : s.runUnder w (.getBinding objectId) = (.ok b, t))
    (ran : t.runUnder w (scope b) = (.ok value, v))
    (deleted : v.runUnder w (.deleteBinding objectId) = (.ok (), x))
    (released : x.runUnder w (.release ctx b.placement.resourceId) = (.ok (), y)) :
    ∃ u q, s.runUnder w (Broker.deallocate ctx objectId scope) = (.ok value, u) ∧
      s.store.ledger.Retires u.store.ledger objectId s.now ∧
      u.store.ledger.active? objectId = none ∧ u.policy = .localPool q ∧
      p.Frees q b.placement.resourceId := by
  obtain ⟨quietly, row, found, read⟩ := looked_run hw quiet looked ran
  obtain ⟨policy, now, ledger⟩ := deleted_run hw quietly deleted
  have withdrawn : s.runUnder w (Broker.withdraw ctx objectId scope) = (.ok value, y) := by
    rw [Broker.withdraw, runUnder_bind_ok looked, runUnder_bind_ok ran, runUnder_bind_ok deleted,
      runUnder_bind_ok (runUnder_onError_ok released)]
    rfl
  obtain ⟨u, settled, counted⟩ := deallocate_run hw withdrawn
  have step := runUnder_step hw released
  have known := step.release_known (policy.trans pool) rfl
  have same : u.store.ledger = s.store.ledger.modifyActive objectId (·.retire s.now) := by
    rw [counted.store, step.store_eq nofun, ledger]
  refine ⟨u, p.mark b.placement.resourceId false, settled, ?_, ?_, ?_, Pool.frees known⟩
  · exact same ▸ Ledger.retires found
  · exact same ▸ Ledger.active?_retire recorded.sound.numbered
  · rw [counted.policy]
    rcases step.release (policy.trans pool) with ⟨_, _, rfl⟩ | ⟨_, _, failed, _⟩
    · rfl
    · cases failed

/-- The outcome of a deallocation, whatever the state and whatever goes wrong in its stages. -/
theorem deallocation_settled (hw : w.Within .readable)
    (quiet : ∀ b, (scope b).Within (·.isQuiet) fun _ => True) (pool : s.policy = .localPool p)
    (recorded : s.store.ledger.Recorded) : Settlement w ctx objectId scope p s := by
  have steady : w.Within .steady := hw.mono fun _ _ => And.left
  constructor
  case missing =>
    intro usable none
    cases looked : s.runUnder w (.getBinding objectId) with
    | mk o t =>
        obtain ⟨_, answered | ⟨failure, _, cause⟩⟩ := (runUnder_step hw looked).get
        · rw [Ledger.get_eq, none] at answered
          subst answered
          exact unread_run steady looked
        · rcases cause with unusable | ⟨fault, ⟨_, apart⟩, _⟩
          · exact absurd usable unusable
          · exact absurd rfl (apart objectId)
  case unread => exact fun looked => unread_run steady looked
  case failed =>
    intro seen t failure v looked ran
    obtain ⟨quietly, _⟩ := looked_run hw quiet looked ran
    have withdrawn : s.runUnder w (Broker.withdraw ctx objectId scope) = (.error failure, v) := by
      rw [Broker.withdraw, runUnder_bind_ok looked, runUnder_bind_error ran]
    obtain ⟨u, settled, counted⟩ := deallocate_run hw withdrawn
    exact ⟨u, settled, (quietly.trans counted).untouched⟩
  case undeleted =>
    intro seen t value v failure x looked ran deleted
    obtain ⟨quietly, _⟩ := looked_run hw quiet looked ran
    obtain ⟨asks, policy, _, ⟨succeeded, _⟩ | ⟨_, store⟩⟩ := delete_run hw deleted
    · cases succeeded
    have withdrawn : s.runUnder w (Broker.withdraw ctx objectId scope) = (.error failure, x) := by
      rw [Broker.withdraw, runUnder_bind_ok looked, runUnder_bind_ok ran, runUnder_bind_error deleted]
    obtain ⟨u, settled, counted⟩ := deallocate_run hw withdrawn
    exact ⟨u, settled, quietly.untouched.trans (.trans ⟨policy, store, asks⟩ counted.untouched)⟩
  case unrestored => exact unrestored_run steady quiet pool recorded
  case restored => exact restored_run steady quiet pool recorded
  case freed => exact freed_run steady quiet pool recorded

theorem stuck_readable : stuck.Within .readable := by
  refine stuck_within.mono fun e fault h => ⟨steady_of_release h, ?_⟩
  rintro objectId rfl
  cases h.1

/-- A router that is put on the one instance. -/
def placed (metadata : Option Metadata) : Assignment :=
  ⟨"router-1", ⟨"router", "instance-1", metadata, "vm"⟩⟩

/-- A broker whose one instance has the router. -/
def occupied (metadata : Option Metadata) : State :=
  initial (.localPool (oneInstance.mark "instance-1" true))
    { Store.inMemory with ledger := Ledger.append ∅ (Ledger.newRow ∅ (placed metadata) default) } ∅ ⟨0⟩

theorem occupied_recorded (metadata : Option Metadata) :
    (occupied metadata).store.ledger.Recorded :=
  (Ledger.Change.added (placed metadata) rfl).recorded Ledger.recorded_empty

/-- A release that fails leaves the router bound, by a new row. -/
theorem failed_release_renews : ∃ u seen restored,
    (occupied none).runUnder stuck
        (Broker.deallocate (.new "request") "router-1" fun _ => pure ()) =
      (.error (.error (.internal "stuck")), u) ∧ u.policy = (occupied none).policy ∧
    (occupied none).store.ledger.Retires u.store.ledger "router-1" default ∧
    (occupied none).store.ledger.Renews u.store.ledger "router-1" seen restored := by
  have law : Settlement stuck (.new "request") "router-1" (fun _ => pure ())
      (oneInstance.mark "instance-1" true) (occupied none) :=
    deallocation_settled stuck_readable (fun _ => .pure trivial) rfl (occupied_recorded none)
  obtain ⟨u, settled, same, retires, renews⟩ := law.restored rfl rfl rfl rfl rfl
  exact ⟨u, _, _, settled, same, retires, renews⟩

/-! ## A double that does not come back -/

section

open Ledger (decodeMetadata encodeMetadata)

variable {kept seen again : Option Metadata}

/-- The router on the instance, by its row's number. -/
def onInstance (id : Nat) (metadata : Option Metadata) : Binding :=
  ⟨id, "router-1", ⟨"router", "instance-1", metadata, "vm"⟩, default, none, none, 0⟩

/-- The router is looked up as the text of its metadata reads. -/
theorem get_occupied (read : decodeMetadata (encodeMetadata kept) = .ok seen) :
    (occupied kept).store.ledger.get "router-1" = .ok (onInstance 1 seen) := by
  have found : (occupied kept).store.ledger.active? "router-1" =
      some (Ledger.newRow ∅ (placed kept) default) := rfl
  rw [Ledger.get_eq, found]
  exact bind_eq_ok.2 ⟨seen, read, rfl⟩

/-- What comes of taking the router off the instance while releases fail. -/
def heldBack (metadata : Option Metadata) : Except Failure Unit × State :=
  (occupied metadata).runUnder stuck
    (Broker.deallocate (.new "request") "router-1" fun _ => pure ())

/-- What is looked up after a failed release has been read twice. -/
theorem get_heldBack (first : decodeMetadata (encodeMetadata kept) = .ok seen)
    (second : decodeMetadata (encodeMetadata seen) = .ok again) :
    (heldBack kept).1 = .error (.error (.internal "stuck")) ∧
      (heldBack kept).2.store.ledger.get "router-1" = .ok (onInstance 2 again) := by
  let found := ((occupied kept).runUnder stuck (.getBinding "router-1")).2
  let removed := (found.runUnder stuck (.deleteBinding "router-1")).2
  let refused := (removed.runUnder stuck (.release (.new "request") "instance-1")).2
  let renewed := (refused.runUnder stuck (.addBinding (.ofBinding (onInstance 1 seen)))).2
  have looked : (occupied kept).runUnder stuck (.getBinding "router-1") =
      (.ok (onInstance 1 seen), found) :=
    Prod.ext (congrArg (Except.mapError Failure.error) (get_occupied first)) rfl
  have deleted : found.runUnder stuck (.deleteBinding "router-1") = (.ok (), removed) := rfl
  have released : removed.runUnder stuck (.release (.new "request") "instance-1") =
      (.error (.error (.internal "stuck")), refused) := rfl
  have row : (Ledger.Row.mk 2 "router-1" "router" "instance-1" (encodeMetadata seen) "vm" default
      none none 0).toBinding = .ok (onInstance 2 again) :=
    bind_eq_ok.2 ⟨again, second, rfl⟩
  have added : refused.runUnder stuck (.addBinding (.ofBinding (onInstance 1 seen))) =
      (.ok (onInstance 2 again), renewed) :=
    Prod.ext (congrArg (Except.mapError Failure.error) row) rfl
  have ended : ∃ u, heldBack kept = (.error (.error (.internal "stuck")), u) ∧
      u.policy = (occupied kept).policy ∧
      (occupied kept).store.ledger.Retires u.store.ledger "router-1" default ∧
      (occupied kept).store.ledger.Renews u.store.ledger "router-1" (onInstance 1 seen)
        (onInstance 2 again) :=
    restored_run (stuck_readable.mono fun _ _ => And.left) (fun _ => .pure trivial) rfl
      (occupied_recorded kept) looked rfl deleted released added
  obtain ⟨u, settled, _, _, renews⟩ := ended
  obtain ⟨_, new, _, active, _, binding⟩ := renews.active
  rw [settled]
  refine ⟨rfl, ?_⟩
  rw [Ledger.get_eq, active]
  exact binding

end

/-- A release that fails may leave the router with other metadata than was looked up. -/
theorem restored_double_differs :
    (occupied (some (reading drifting))).store.ledger.get "router-1" =
      .ok (onInstance 1 (some (reading drifted))) ∧
    (heldBack (some (reading drifting))).1 = .error (.error (.internal "stuck")) ∧
    (heldBack (some (reading drifting))).2.store.ledger.get "router-1" =
      .ok (onInstance 2 (some (reading drifting))) ∧
    reading drifting ≠ reading drifted := by
  have first : Ledger.decodeMetadata (Ledger.encodeMetadata (some (reading drifting))) =
      .ok (some (reading drifted)) := by decide +kernel
  have second : Ledger.decodeMetadata (Ledger.encodeMetadata (some (reading drifted))) =
      .ok (some (reading drifting)) := by decide +kernel
  obtain ⟨failed, shown⟩ := get_heldBack first second
  exact ⟨get_occupied first, failed, shown, by decide +kernel⟩

end State
end Brokerage
