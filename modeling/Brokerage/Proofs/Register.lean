import Brokerage.Proofs.AuditLog
import Brokerage.Proofs.ByteOrder
import Brokerage.Proofs.Effects
import Brokerage.Proofs.Rereading
import Mathlib.Logic.Function.Basic

/-! # The store as a register

To those who call it a store is a register: it knows where each object is, and nothing of the rows
that were deleted. Every operation on plain metadata answers what the register answers, and fails
only when the register refuses it.
-/

namespace Brokerage

/-- Where the objects are. -/
abbrev Register := String → Option Placement

/-- An active binding of an object to a place. -/
structure Binding.Tells (b : Binding) (objectId : String) (p : Placement) : Prop where
  objectId : b.objectId = objectId
  placement : b.placement = p
  active : b.isActive = true

namespace Register

variable {m : Register}

def empty : Register := fun _ => none

/-- The register after an operation. -/
def after (m : Register) : Store.Op → Register
  | .add a => Function.update m a.objectId (m a.objectId <|> some a.placement)
  | .update objectId c => Function.update m objectId ((m objectId).map c.apply)
  | .delete objectId => Function.update m objectId none
  | .get _ | .list _ | .health => m

/-- What an operation is to answer. -/
def Answers (m : Register) : (op : Store.Op) → Except Error op.Answer → Prop
  | .add a, result =>
    match m a.objectId with
    | some _ => result = .error (.duplicateBinding a.objectId)
    | none => ∃ b, result = .ok b ∧ Binding.Tells b a.objectId a.placement
  | .get objectId, result =>
    match m objectId with
    | some p => ∃ b, result = .ok b ∧ Binding.Tells b objectId p
    | none => result = .error (.wrongObjectId objectId)
  | .update objectId c, result =>
    match m objectId with
    | some p => ∃ b, result = .ok b ∧ Binding.Tells b objectId (c.apply p)
    | none => result = .error (.wrongObjectId objectId)
  | .delete objectId, result =>
    match m objectId with
    | some _ => result = .ok ()
    | none => result = .error (.wrongObjectId objectId)
  | .list resourceType, result => ∃ descriptors : List String, result = .ok descriptors ∧
    (descriptors.Pairwise fun a b => utf8Bytes a < utf8Bytes b) ∧
    ∀ d, d ∈ descriptors ↔ ∃ objectId p, m objectId = some p ∧ p.resourceType = resourceType ∧
      p.descriptor = d
  | .health, result => result = .ok ()

end Register

namespace Ledger

variable {l : Ledger} {m : Register} {row : Row} {p : Placement} {now : Timestamp}

/-- A row that keeps a place; its metadata is plain. -/
structure Row.At (row : Row) (p : Placement) : Prop where
  resourceType : row.resourceType = p.resourceType
  resourceId : row.resourceId = p.resourceId
  metadata : row.metadata = encodeMetadata p.metadata
  descriptor : row.descriptor = p.descriptor
  plain : Plain p.metadata

theorem Row.At.read (h : row.At p) (active : row.isActive = true) :
    ∃ b, row.toBinding = .ok b ∧ b.Tells row.objectId p := by
  have decoded : decodeMetadata row.metadata = .ok p.metadata := h.metadata ▸ h.plain.decode_encode
  obtain ⟨b, binding⟩ := toBinding_isOk decoded
  refine ⟨b, binding, ?_⟩
  obtain ⟨metadata, again, same⟩ := bind_eq_ok.1 binding
  obtain rfl : metadata = p.metadata := by simpa [decoded] using again.symm
  cases same
  refine ⟨rfl, ?_, (toBinding_isActive binding).trans active⟩
  simp only [h.resourceType, h.resourceId, h.descriptor]

theorem newRow_at {a : Assignment} (plain : Plain a.placement.metadata) :
    (l.newRow a now).At a.placement := ⟨rfl, rfl, rfl, rfl, plain⟩

theorem move_at (row : Row) (plain : Plain p.metadata) : (row.move p now).At p :=
  ⟨rfl, rfl, rfl, rfl, plain⟩

theorem Plain.apply {c : Placement.Change} (h : Plain p.metadata) (given : Plain c.metadata) :
    Plain (c.apply p).metadata := by
  simp only [Placement.Change.apply]
  cases set : c.metadata with
  | none => exact h
  | some _ => rwa [set] at given

/-- The active rows keep the places of a register. -/
def Shows (l : Ledger) (m : Register) : Prop :=
  ∀ objectId, Option.Rel Row.At (l.active? objectId) (m objectId)

theorem shows_empty : (∅ : Ledger).Shows .empty := fun _ => .none

namespace Shows

theorem active (shows : l.Shows m) {objectId : String} (known : m objectId = some p) :
    ∃ row, l.active? objectId = some row ∧ row.At p := by
  have rel := shows objectId
  rw [known] at rel
  cases found : l.active? objectId with
  | none =>
      rw [found] at rel
      cases rel
  | some row =>
      rw [found] at rel
      cases rel with
      | some here => exact ⟨row, rfl, here⟩

theorem missing (shows : l.Shows m) {objectId : String} (unknown : m objectId = none) :
    l.active? objectId = none := by
  have rel := shows objectId
  rw [unknown] at rel
  cases found : l.active? objectId with
  | none => rfl
  | some row =>
      rw [found] at rel
      cases rel

/-- What the active rows of the other objects keep stays where only one object is changed. -/
theorem update {l' : Ledger} (shows : l.Shows m) {objectId : String} {place : Option Placement}
    (others : ∀ other, objectId ≠ other → l'.active? other = l.active? other)
    (here : Option.Rel Row.At (l'.active? objectId) place) :
    l'.Shows (Function.update m objectId place) := by
  intro query
  by_cases same : query = objectId
  · subst same
    rwa [Function.update_self]
  · rw [Function.update_of_ne same, others query (Ne.symm same)]
    exact shows query

end Shows

/-- An operation answers what the register answers, keeps the places, and changes nothing when it
fails. -/
structure Follows (m : Register) (l : Ledger) (op : Store.Op)
    (outcome : Except Error op.Answer × Ledger) : Prop where
  answers : m.Answers op outcome.1
  shows : outcome.2.Shows (m.after op)
  failed : ∀ e, outcome.1 = .error e → outcome.2 = l

/-- What the register refuses, too, changes neither of the two. -/
theorem Follows.refused {op : Store.Op} {outcome : Except Error op.Answer × Ledger} {e : Error}
    (shows : l.Shows m) (run : outcome = (.error e, l)) (answers : m.Answers op (.error e))
    (same : m.after op = m) : Follows m l op outcome where
  answers := by rwa [run]
  shows := by rwa [run, same]
  failed := fun _ _ => by rw [run]

theorem add_follows (shows : l.Shows m) (a : Assignment) (plain : Plain a.placement.metadata) :
    Follows m l (.add a) (Store.runOp now l (.add a)) := by
  cases known : m a.objectId with
  | some p =>
      obtain ⟨row, found, _⟩ := shows.active known
      have run : Store.runOp now l (.add a) = (.error (.duplicateBinding a.objectId), l) := by
        simp only [Store.runOp, add, found]
        rfl
      refine .refused shows run ?_ ?_
      · simp only [Register.Answers, known]
      · rw [Register.after, known]
        exact Function.update_eq_self_iff.2 known.symm
  | none =>
      have new := shows.missing known
      have run : Store.runOp now l (.add a) =
          ((l.newRow a now).toBinding, l.append (l.newRow a now)) := by
        simp only [Store.runOp, add, new]
        rfl
      obtain ⟨b, read, tells⟩ : ∃ b, (l.newRow a now).toBinding = .ok b ∧
          b.Tells a.objectId a.placement := (newRow_at plain).read rfl
      refine ⟨?_, ?_, ?_⟩
      · simp only [Register.Answers, known, run]
        exact ⟨b, read, tells⟩
      · rw [run, Register.after, known]
        refine shows.update (fun other apart => ?_) ?_
        · have missed : (l.newRow a now).isActiveOf other = false := by
            simp [Row.isActiveOf, newRow, apart]
          simp [active?_append_eq, missed]
        · rw [show a.objectId = (l.newRow a now).objectId from rfl, active?_append_new rfl new]
          exact .some (newRow_at plain)
      · intro e failed
        rw [run] at failed
        cases read.symm.trans failed

theorem get_follows (shows : l.Shows m) (objectId : String) :
    Follows m l (.get objectId) (Store.runOp now l (.get objectId)) := by
  refine ⟨?_, shows, fun _ _ => rfl⟩
  simp only [Register.Answers, Store.runOp, get_eq]
  cases known : m objectId with
  | none =>
      simp only [shows.missing known]
      rfl
  | some p =>
      obtain ⟨row, found, here⟩ := shows.active known
      obtain ⟨member, rfl⟩ := active?_some found
      simp only [found]
      exact here.read (mem_actives.1 member).2

/-- An update of an object that is known moves its row to the changed place. -/
theorem Shows.update_run (shows : l.Shows m) {objectId : String} (c : Placement.Change)
    (known : m objectId = some p) : ∃ (row : Row) (b : Binding), l.active? objectId = some row ∧
      row.At p ∧ b.Tells objectId p ∧
      Store.runOp now l (.update objectId c) = (.ok { b.change c with updatedAt := some now },
        l.modifyActive objectId (·.move (c.apply p) now)) := by
  obtain ⟨row, found, here⟩ := shows.active known
  obtain ⟨member, rfl⟩ := active?_some found
  obtain ⟨b, read, tells⟩ := here.read (mem_actives.1 member).2
  have place : (b.change c).placement = c.apply p := by rw [Binding.change, tells.placement]
  have changed : l.update row.objectId c now = .ok ({ b.change c with updatedAt := some now },
      l.modifyActive row.objectId (·.move (c.apply p) now)) := by
    simp only [Ledger.update, get_eq, found, read, ← place]
    rfl
  exact ⟨row, b, found, here, tells, by simp only [Store.runOp, changed]⟩

theorem update_follows (shows : l.Shows m) (objectId : String) (c : Placement.Change)
    (plain : Plain c.metadata) :
    Follows m l (.update objectId c) (Store.runOp now l (.update objectId c)) := by
  cases known : m objectId with
  | none =>
      have run : Store.runOp now l (.update objectId c) = (.error (.wrongObjectId objectId), l) := by
        simp only [Store.runOp, update, get_eq, shows.missing known]
        rfl
      refine .refused shows run ?_ ?_
      · simp only [Register.Answers, known]
      · rw [Register.after, known]
        exact Function.update_eq_self_iff.2 known.symm
  | some p =>
      obtain ⟨row, b, found, here, tells, run⟩ := shows.update_run c known
      have kept : Plain (c.apply p).metadata := here.plain.apply plain
      rw [run]
      refine ⟨?_, ?_, ?_⟩
      · simp only [Register.Answers, known]
        exact ⟨_, rfl, tells.objectId, by rw [Binding.change, tells.placement], tells.active⟩
      · rw [Register.after, known]
        refine shows.update (fun other apart => active?_modifyActive apart fun _ => rfl) ?_
        have moved : (l.modifyActive objectId (·.move (c.apply p) now)).active? objectId =
            (l.active? objectId).map (·.move (c.apply p) now) :=
          active?_modifyActive_self (fun _ => rfl) fun _ => rfl
        rw [moved, found]
        exact .some (move_at row kept)
      · intro e failed
        cases failed

theorem delete_follows (sound : l.Sound) (shows : l.Shows m) (objectId : String) :
    Follows m l (.delete objectId) (Store.runOp now l (.delete objectId)) := by
  cases known : m objectId with
  | none =>
      have run : Store.runOp now l (.delete objectId) = (.error (.wrongObjectId objectId), l) := by
        simp only [Store.runOp, delete_eq, shows.missing known]
      refine .refused shows run ?_ (Function.update_eq_self_iff.2 known.symm)
      simp only [Register.Answers, known]
  | some p =>
      obtain ⟨row, found, _⟩ := shows.active known
      have run : Store.runOp now l (.delete objectId) =
          (.ok (), l.modifyActive objectId (·.retire now)) := by
        simp only [Store.runOp, delete_eq, found]
      refine ⟨?_, ?_, ?_⟩
      · simp only [Register.Answers, known, run]
      · rw [run, Register.after]
        refine shows.update (fun other apart => active?_modifyActive apart fun _ => rfl) ?_
        rw [active?_retire sound.numbered]
        exact .none
      · intro e failed
        rw [run] at failed
        cases failed

theorem Shows.mem_listByType (sound : l.Sound) (shows : l.Shows m) {resourceType d : String} :
    d ∈ l.listByType resourceType ↔
      ∃ objectId p, m objectId = some p ∧ p.resourceType = resourceType ∧ p.descriptor = d := by
  rw [Ledger.mem_listByType]
  constructor
  · rintro ⟨row, member, rfl, rfl⟩
    have rel := shows row.objectId
    rw [sound.active?_eq member] at rel
    cases known : m row.objectId with
    | none =>
        rw [known] at rel
        cases rel
    | some p =>
        rw [known] at rel
        cases rel with
        | some here => exact ⟨row.objectId, p, known, here.resourceType.symm, here.descriptor.symm⟩
  · rintro ⟨objectId, p, known, rfl, rfl⟩
    obtain ⟨row, found, here⟩ := shows.active known
    exact ⟨row, (active?_some found).1, here.resourceType, here.descriptor⟩

theorem list_follows (sound : l.Sound) (shows : l.Shows m) (resourceType : String) :
    Follows m l (.list resourceType) (Store.runOp now l (.list resourceType)) where
  answers := ⟨l.listByType resourceType, rfl, Dict.keys_ascending _, fun _ => shows.mem_listByType sound⟩
  shows := shows
  failed := nofun

end Ledger

namespace Store

/-- The metadata that an operation brings is plain. -/
def Op.Plain : Op → Prop
  | .add a => Ledger.Plain a.placement.metadata
  | .update _ c => Ledger.Plain c.metadata
  | .get _ | .delete _ | .list _ | .health => True

instance (op : Op) : Decidable op.Plain :=
  match op with
  | .add a => inferInstanceAs (Decidable (Ledger.Plain a.placement.metadata))
  | .update _ c => inferInstanceAs (Decidable (Ledger.Plain c.metadata))
  | .get _ | .delete _ | .list _ | .health => isTrue trivial

theorem runOp_follows {l : Ledger} {m : Register} (sound : l.Sound) (shows : l.Shows m)
    (now : Timestamp) (op : Op) (plain : op.Plain) : Ledger.Follows m l op (runOp now l op) := by
  cases op with
  | add a => exact Ledger.add_follows shows a plain
  | get objectId => exact Ledger.get_follows shows objectId
  | update objectId c => exact Ledger.update_follows shows objectId c plain
  | delete objectId => exact Ledger.delete_follows sound shows objectId
  | list resourceType => exact Ledger.list_follows sound shows resourceType
  | health => exact ⟨rfl, shows, nofun⟩

theorem Usable.run_eq {s : Store} (usable : s.Usable) (now : Timestamp) (op : Op) :
    s.run now op = ((runOp now s.ledger op).1, { s with ledger := (runOp now s.ledger op).2 }) := by
  simp only [run, usable.obstacle?_eq]

def perform (s : Store) (ops : List (Timestamp × Op)) : Store :=
  s.after (ops.map fun o => .op o.1 o.2)

/-- A usable store whose ledger is sound and keeps the places of a register. -/
structure Keeps (s : Store) (m : Register) : Prop where
  usable : s.Usable
  recorded : s.ledger.Recorded
  shows : s.ledger.Shows m

theorem Keeps.run {s : Store} {m : Register} (h : s.Keeps m) (now : Timestamp) {op : Op}
    (plain : op.Plain) : (s.run now op).2.Keeps (m.after op) := by
  have follows := runOp_follows h.recorded.sound h.shows now op plain
  rw [h.usable.run_eq]
  exact ⟨h.usable.withLedger, (Ledger.change_runOp now s.ledger op).recorded h.recorded, follows.shows⟩

theorem Keeps.perform {s : Store} {m : Register} (h : s.Keeps m) {ops : List (Timestamp × Op)}
    (plain : ∀ o ∈ ops, o.2.Plain) :
    (s.perform ops).Keeps (ops.foldl (fun m o => m.after o.2) m) := by
  induction ops generalizing s m with
  | nil => exact h
  | cons o rest ih =>
      exact ih (h.run o.1 (plain o List.mem_cons_self)) fun o member =>
        plain o (List.mem_cons_of_mem _ member)

/-- After any operations on plain metadata a store that began empty answers the next one as the
register does, and a failing operation leaves it as it was. -/
theorem answers_as_register (s : Store) (usable : s.Usable) (done : List (Timestamp × Op))
    (plain : ∀ o ∈ done, o.2.Plain) (now : Timestamp) (op : Op) (next : op.Plain) :
    let t := ({ s with ledger := ∅ } : Store).perform done
    (done.foldl (fun m o => m.after o.2) Register.empty).Answers op (t.run now op).1 ∧
      ∀ e, (t.run now op).1 = .error e → (t.run now op).2 = t := by
  intro t
  have start : ({ s with ledger := ∅ } : Store).Keeps .empty :=
    ⟨usable.withLedger, Ledger.recorded_empty, Ledger.shows_empty⟩
  have keeps := start.perform plain
  have follows := runOp_follows keeps.recorded.sound keeps.shows now op next
  rw [keeps.usable.run_eq]
  refine ⟨follows.answers, fun e failed => ?_⟩
  rw [follows.failed e failed]

/-- A binding that is recorded, changed, deleted and recorded anew. -/
def renewal : List (Timestamp × Op) :=
  let vlan (n : Nat) : Option Metadata := some (.ofList [("vlan", .ofNat n)])
  [(default, .add ⟨"router-1", ⟨"router", "r-1", vlan 7, "vm"⟩⟩),
    (default, .update "router-1" ⟨none, some "switch", none, none⟩),
    (default, .delete "router-1"),
    (default, .add ⟨"router-1", ⟨"router", "r-2", none, "vm"⟩⟩),
    (default, .update "router-1" ⟨vlan 8, none, none, none⟩)]

/-- The second binding of an object is answered, with what was changed since. -/
theorem renewed_binding_answered : (∀ o ∈ renewal, o.2.Plain) ∧
    ∃ b, ((inMemory.perform renewal).run default (.get "router-1")).1 = .ok b ∧
      b.Tells "router-1" ⟨"router", "r-2", some (.ofList [("vlan", .ofNat 8)]), "vm"⟩ :=
  have plain : ∀ o ∈ renewal, o.2.Plain := by decide
  ⟨plain, (answers_as_register inMemory ⟨rfl, rfl⟩ renewal plain default (.get "router-1") trivial).1⟩

end Store
end Brokerage
