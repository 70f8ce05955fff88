import Brokerage.Proofs.Ledger
import Brokerage.Store
import Mathlib.Data.List.Nodup

/-! # The ledger as a log

Whatever is asked of a store, its rows keep telling the whole story of every object: rows are
numbered upwards and never taken away, an object's active row is its last one, and a row that was
deleted never changes again. One invariant of the ledger carries this through every operation; it
counts the ids from one, which makes the next id a new one.
-/

namespace Brokerage

namespace Ledger

variable {l l' : Ledger} {row other : Row} {objectId : String} {now : Timestamp}

def rowsOf (l : Ledger) (objectId : String) : List Row := l.rows.filter (·.objectId = objectId)

theorem mem_rowsOf : row ∈ l.rowsOf objectId ↔ row ∈ l.rows ∧ row.objectId = objectId := by
  simp [rowsOf]

theorem history_eq (l : Ledger) (objectId : String) :
    l.history objectId = (l.rowsOf objectId).mapM (·.toBinding) := rfl

/-- An active row was never deleted; a deleted one is marked with its own id and has its times. -/
def Row.Dated (row : Row) : Prop :=
  row.deleted = 0 ∧ row.deletedAt = none ∨
    row.deleted = row.id ∧ row.deletedAt.isSome ∧ row.updatedAt.isSome

/-- The ids count the rows, every row is dated, and active rows are the last ones of their objects. -/
structure Recorded (l : Ledger) : Prop where
  counted : l.rows.map (·.id) = List.range' 1 l.rows.length
  dated : ∀ row ∈ l.rows, row.Dated
  latest : ∀ row ∈ l.actives, (l.rowsOf row.objectId).getLast? = some row

theorem recorded_empty : (∅ : Ledger).Recorded := ⟨rfl, nofun, nofun⟩

namespace Recorded

theorem id_bounds (h : l.Recorded) (member : row ∈ l.rows) : 0 < row.id ∧ row.id < l.nextId := by
  have counted : row.id ∈ List.range' 1 l.rows.length := h.counted ▸ List.mem_map_of_mem member
  simp only [List.mem_range'_1] at counted
  simp only [nextId]
  omega

theorem ascending (h : l.Recorded) : l.rows.Pairwise fun row other => row.id < other.id := by
  have pairs : (l.rows.map (·.id)).Pairwise (· < ·) := by
    rw [h.counted]
    exact List.pairwise_lt_range'
  exact List.pairwise_map.1 pairs

theorem unique (h : l.Recorded) (member : row ∈ l.actives) (inside : other ∈ l.actives)
    (same : row.objectId = other.objectId) : row = other := by
  have last := h.latest row member
  rw [same, h.latest other inside] at last
  exact (Option.some.inj last).symm

theorem sound (h : l.Recorded) : l.Sound where
  numbered := by
    intro row member
    exact Nat.ne_of_gt (h.id_bounds member).1
  single := by
    have apart : l.actives.Pairwise fun row other => row.objectId ≠ other.objectId := by
      have distinct : l.actives.Pairwise fun row other => row.id < other.id :=
        h.ascending.sublist List.filter_sublist
      refine distinct.imp_of_mem fun {row other} member inside less same => ?_
      rw [h.unique member inside same] at less
      exact Nat.lt_irrefl _ less
    exact List.pairwise_map.2 apart

/-! ## What operations keep -/

theorem append (h : l.Recorded) (id : row.id = l.nextId) (deleted : row.deleted = 0)
    (never : row.deletedAt = none) (new : l.active? row.objectId = none) :
    (l.append row).Recorded where
  counted := by
    simp only [Ledger.append, List.map_append, List.map_cons, List.map_nil, h.counted,
      List.length_append, List.length_cons, List.length_nil, id, nextId, List.range'_1_concat]
    rw [Nat.add_comm 1]
  dated := by
    intro x member
    rcases List.mem_append.1 member with old | added
    · exact h.dated x old
    · rw [List.mem_singleton.1 added]
      exact .inl ⟨deleted, never⟩
  latest := by
    intro x member
    rw [actives_append (by simp [Row.isActive, deleted])] at member
    simp only [rowsOf, Ledger.append, List.filter_append]
    rcases List.mem_append.1 member with old | added
    · have apart : row.objectId ≠ x.objectId := fun same => active?_none.1 new x old same.symm
      have last := h.latest x old
      simp only [rowsOf] at last
      simp [apart, last]
    · rw [List.mem_singleton.1 added]
      simp

theorem rowsOf_modifyActive {f : Row → Row} (keeps : ∀ row, (f row).objectId = row.objectId)
    (query : String) : (l.modifyActive objectId f).rowsOf query =
      (l.rowsOf query).map fun row => if row.isActiveOf objectId then f row else row := by
  simp only [rowsOf, modifyActive, List.filter_map]
  congr 1
  apply List.filter_congr
  intro row _
  simp only [Function.comp_apply]
  split <;> simp [keeps]

theorem modifyActive (h : l.Recorded) {f : Row → Row} (id : ∀ row, (f row).id = row.id)
    (keeps : ∀ row, (f row).objectId = row.objectId) (dated : ∀ row, row.Dated → (f row).Dated) :
    (l.modifyActive objectId f).Recorded where
  counted := by
    simp only [Ledger.modifyActive, List.map_map, List.length_map, ← h.counted]
    apply List.map_congr_left
    intro row _
    simp only [Function.comp_apply]
    split <;> simp [id]
  dated := by
    intro x member
    obtain ⟨row, inside, rfl⟩ := mem_modifyActive.1 member
    split
    · exact dated row (h.dated row inside)
    · exact h.dated row inside
  latest := by
    intro x member
    obtain ⟨inside, counts⟩ := mem_actives.1 member
    obtain ⟨row, old, rfl⟩ := mem_modifyActive.1 inside
    -- no change makes a deleted row active again
    have active : row ∈ l.actives := by
      refine mem_actives.2 ⟨old, ?_⟩
      by_cases hit : row.isActiveOf objectId
      · simp only [Row.isActiveOf, Bool.and_eq_true] at hit
        exact hit.2
      · simpa [hit] using counts
    have object : (if row.isActiveOf objectId then f row else row).objectId = row.objectId := by
      split <;> simp [keeps]
    rw [object, rowsOf_modifyActive keeps, List.getLast?_map, h.latest row active]
    rfl

end Recorded

/-! ## Later rows -/

/-- What a row may be later on: its id and its object stay, and it stays as it is once it is deleted. -/
structure Row.Becomes (row later : Row) : Prop where
  id : later.id = row.id
  objectId : later.objectId = row.objectId
  final : row.deleted ≠ 0 → later = row

theorem Row.Becomes.refl (row : Row) : row.Becomes row := ⟨rfl, rfl, fun _ => rfl⟩

theorem Row.Becomes.trans {later last : Row} (h : row.Becomes later) (h' : later.Becomes last) :
    row.Becomes last where
  id := h'.id.trans h.id
  objectId := h'.objectId.trans h.objectId
  final := by
    intro deleted
    obtain rfl := h.final deleted
    exact h'.final deleted

/-- What a ledger may be later on: every row is still there, and the ids of the others are new. -/
structure Extends (l' l : Ledger) : Prop where
  stays : ∀ row ∈ l.rows, ∃ later ∈ l'.rows, row.Becomes later
  fresh : ∀ later ∈ l'.rows, (∃ row ∈ l.rows, row.Becomes later) ∨ ∀ row ∈ l.rows, row.id < later.id

namespace Extends

theorem refl (l : Ledger) : l.Extends l where
  stays := fun row member => ⟨row, member, .refl row⟩
  fresh := fun row member => .inl ⟨row, member, .refl row⟩

theorem trans {l'' : Ledger} (h : l''.Extends l') (h' : l'.Extends l) : l''.Extends l where
  stays := by
    intro row member
    obtain ⟨later, inside, becomes⟩ := h'.stays row member
    obtain ⟨last, found, again⟩ := h.stays later inside
    exact ⟨last, found, becomes.trans again⟩
  fresh := by
    intro last member
    rcases h.fresh last member with ⟨later, inside, becomes⟩ | new
    · rcases h'.fresh later inside with ⟨row, old, again⟩ | new
      · exact .inl ⟨row, old, again.trans becomes⟩
      · exact .inr fun row old => becomes.id ▸ new row old
    · refine .inr fun row old => ?_
      obtain ⟨later, inside, becomes⟩ := h'.stays row old
      exact becomes.id ▸ new later inside

theorem append (h : l.Recorded) (id : row.id = l.nextId) : (l.append row).Extends l where
  stays := fun old member => ⟨old, List.mem_append_left _ member, .refl old⟩
  fresh := by
    intro later member
    rcases List.mem_append.1 member with old | added
    · exact .inl ⟨later, old, .refl later⟩
    · rw [List.mem_singleton.1 added, id]
      exact .inr fun row old => (h.id_bounds old).2

theorem modifyActive {f : Row → Row} (id : ∀ row, (f row).id = row.id)
    (keeps : ∀ row, (f row).objectId = row.objectId) : (l.modifyActive objectId f).Extends l := by
  have becomes (row : Row) : row.Becomes (if row.isActiveOf objectId then f row else row) := by
    split
    · rename_i hit
      refine ⟨id row, keeps row, fun deleted => ?_⟩
      simp [Row.isActiveOf, Row.isActive, deleted] at hit
    · exact .refl row
  constructor
  · intro row member
    exact ⟨_, mem_modifyActive.2 ⟨row, member, rfl⟩, becomes row⟩
  · intro later member
    obtain ⟨row, inside, rfl⟩ := mem_modifyActive.1 member
    exact .inl ⟨row, inside, becomes row⟩

end Extends

/-! ## Operations -/

theorem Row.Dated.move (h : row.Dated) (placement : Placement) (now : Timestamp) :
    (row.move placement now).Dated := by
  rcases h with active | ⟨deleted, when_, _⟩
  · exact .inl active
  · exact .inr ⟨deleted, when_, rfl⟩

theorem Row.dated_retire (row : Row) (now : Timestamp) : (row.retire now).Dated := .inr ⟨rfl, rfl, rfl⟩

/-- All that an operation of the store can do to the ledger. -/
inductive Change (now : Timestamp) (l : Ledger) : Ledger → Prop where
  | kept : Change now l l
  | added (a : Assignment) (new : l.active? a.objectId = none) :
    Change now l (l.append (l.newRow a now))
  | moved (objectId : String) (placement : Placement) :
    Change now l (l.modifyActive objectId (·.move placement now))
  | retired (objectId : String) : Change now l (l.modifyActive objectId (·.retire now))

theorem change_runOp (now : Timestamp) (l : Ledger) (op : Store.Op) :
    l.Change now (Store.runOp now l op).2 := by
  cases op with
  | get | list | health => exact .kept
  | add a =>
      rcases l.add_cases a now with ⟨_, refused⟩ | ⟨new, added⟩
      · simpa only [Store.runOp, refused] using .kept
      · simpa only [Store.runOp, added] using .added a new
  | update objectId c =>
      rcases l.update_cases objectId c now with ⟨e, refused⟩ | ⟨_, b, _, _, moved⟩
      · simpa only [Store.runOp, refused] using .kept
      · simpa only [Store.runOp, moved] using .moved objectId (b.change c).placement
  | delete objectId =>
      simp only [Store.runOp, delete_eq]
      cases l.active? objectId with
      | none => exact .kept
      | some row => exact .retired objectId

theorem Change.recorded (change : l.Change now l') (h : l.Recorded) : l'.Recorded := by
  cases change with
  | kept => exact h
  | added a new => exact h.append rfl rfl rfl new
  | moved objectId placement =>
      exact h.modifyActive (fun _ => rfl) (fun _ => rfl) fun _ dated => dated.move placement now
  | retired objectId =>
      exact h.modifyActive (fun _ => rfl) (fun _ => rfl) fun row _ => row.dated_retire now

theorem Change.extends (change : l.Change now l') (h : l.Recorded) : l'.Extends l := by
  cases change with
  | kept => exact .refl l
  | added a new => exact .append h rfl
  | moved | retired => exact .modifyActive (fun _ => rfl) fun _ => rfl

/-! ## Histories -/

theorem mem_of_mapM {α β ε : Type} {f : α → Except ε β} {xs : List α} {ys : List β} {y : β}
    (h : xs.mapM f = .ok ys) (member : y ∈ ys) : ∃ x ∈ xs, f x = .ok y := by
  induction xs generalizing ys with
  | nil =>
      cases h
      cases member
  | cons x rest ih =>
      rw [List.mapM_cons] at h
      obtain ⟨first, here, h⟩ := bind_eq_ok.1 h
      obtain ⟨others, later, ⟨⟩⟩ := bind_eq_ok.1 h
      rcases List.mem_cons.1 member with rfl | member
      · exact ⟨x, List.mem_cons_self, here⟩
      · obtain ⟨x, inside, found⟩ := ih later member
        exact ⟨x, List.mem_cons_of_mem _ inside, found⟩

theorem toBinding_isActive {b : Binding} (h : row.toBinding = .ok b) : b.isActive = row.isActive := by
  obtain ⟨_, _, ⟨⟩⟩ := bind_eq_ok.1 h
  simp [Binding.isActive, Binding.status, Row.isActive]

/-- The active binding of an object is the last one of its history. -/
theorem Recorded.history_latest (h : l.Recorded) {bindings : List Binding} {b : Binding}
    (read : l.history objectId = .ok bindings) (member : b ∈ bindings) (active : b.isActive = true) :
    bindings.getLast? = some b := by
  obtain ⟨row, mine, binding⟩ := mem_of_mapM read member
  obtain ⟨inside, rfl⟩ := mem_rowsOf.1 mine
  rw [toBinding_isActive binding] at active
  obtain ⟨earlier, rows⟩ := List.getLast?_eq_some_iff.1 (h.latest row (mem_actives.2 ⟨inside, active⟩))
  rw [history_eq, rows, List.mapM_append] at read
  obtain ⟨_, _, read⟩ := bind_eq_ok.1 read
  obtain ⟨last, found, ⟨⟩⟩ := bind_eq_ok.1 read
  rw [List.mapM_cons, binding] at found
  cases found
  simp

/-- The state of a log: rows in the order of their ids, each active or deleted for good, and for
every object at most one that is active, its last one. -/
structure Audited (l : Ledger) : Prop where
  positive : ∀ row ∈ l.rows, 0 < row.id
  ascending : l.rows.Pairwise fun row other => row.id < other.id
  lifecycle : ∀ row ∈ l.rows, row.Dated
  single : ∀ objectId, (l.rowsOf objectId).countP (·.isActive) ≤ 1
  latest : ∀ objectId, ∀ row ∈ l.rowsOf objectId, row.isActive = true →
    (l.rowsOf objectId).getLast? = some row
  history : ∀ objectId bindings, l.history objectId = .ok bindings →
    ∀ b ∈ bindings, b.isActive = true → bindings.getLast? = some b

theorem Recorded.audited (h : l.Recorded) : l.Audited where
  positive := fun row member => (h.id_bounds member).1
  ascending := h.ascending
  lifecycle := h.dated
  single := by
    intro objectId
    have counted := List.nodup_iff_count_le_one.1 h.sound.single objectId
    rw [actives, List.count, List.countP_map, List.countP_filter] at counted
    rw [rowsOf, List.countP_filter]
    calc
      _ = _ := List.countP_congr fun row _ => by simp [and_comm]
      _ ≤ 1 := counted
  latest := by
    intro objectId row member active
    obtain ⟨inside, rfl⟩ := mem_rowsOf.1 member
    exact h.latest row (mem_actives.2 ⟨inside, active⟩)
  history := fun _ _ read _ member active => h.history_latest read member active

end Ledger

namespace Store

/-- What can come to a store: operations at a time, the creation of the table, and what keeps later
calls from running. -/
inductive Call where
  | op (now : Timestamp) (op : Op)
  | migrate
  | lock (held : Bool)
  | close

/-- The answer to a call, and the store after it. -/
def call (s : Store) : Call → Except Error Unit × Store
  | .op now op =>
    let (answer, s) := s.run now op
    (answer.map fun _ => (), s)
  | .migrate => (s.migrate, s)
  | .lock held => (.ok (), { s with locked := held })
  | .close => (.ok (), s.close)

def after (s : Store) (calls : List Call) : Store := calls.foldl (fun s c => (s.call c).2) s

theorem call_change (s : Store) (c : Call) : ∃ now, s.ledger.Change now (s.call c).2.ledger := by
  cases c with
  | op now op =>
      refine ⟨now, ?_⟩
      simp only [call, run]
      cases s.obstacle? op.name with
      | some e => exact .kept
      | none => exact Ledger.change_runOp now s.ledger op
  | migrate | lock | close => exact ⟨default, .kept⟩

theorem after_recorded {s : Store} (h : s.ledger.Recorded) (calls : List Call) :
    (s.after calls).ledger.Recorded ∧ (s.after calls).ledger.Extends s.ledger := by
  induction calls generalizing s with
  | nil => exact ⟨h, .refl _⟩
  | cons c rest ih =>
      obtain ⟨now, change⟩ := s.call_change c
      obtain ⟨recorded, later⟩ := ih (change.recorded h)
      exact ⟨recorded, later.trans (change.extends h)⟩

/-- Whatever is asked of a store that began empty, failing calls included, its table is a log, and
whatever is asked after that only extends the log. -/
theorem log_append_only (s : Store) (before later : List Call) :
    let old := ({ s with ledger := ∅ } : Store).after before
    old.ledger.Audited ∧ (old.after later).ledger.Audited ∧
      (old.after later).ledger.Extends old.ledger := by
  intro old
  have recorded : old.ledger.Recorded := (after_recorded Ledger.recorded_empty before).1
  obtain ⟨further, extended⟩ := after_recorded recorded later
  exact ⟨recorded.audited, further.audited, extended⟩

end Store
end Brokerage
