import Brokerage.Proofs.Alignment
import Brokerage.Proofs.Allocation
import Brokerage.Proofs.Register
import Brokerage.Proofs.Runs

/-! # What becomes of stored metadata

Metadata is kept as text and read again whenever a binding is asked for, changed or recorded anew.
An archive says what metadata was given: where each object is, and what its former bindings had. The
store reports just that, whatever was done to it and however deallocations went.
-/

namespace Brokerage

/-- Where the objects are, and what metadata their deleted bindings had, oldest first. -/
structure Archive where
  places : Register
  former : String → List (Option Metadata)

namespace Archive

variable {a : Archive} {objectId : String} {p : Placement}

def empty : Archive := ⟨.empty, fun _ => []⟩

/-- The metadata of every binding that an object ever had, oldest first. -/
def history (a : Archive) (objectId : String) : List (Option Metadata) :=
  a.former objectId ++ (a.places objectId).toList.map (·.metadata)

/-- A deletion files the metadata that the binding had; nothing else touches what was filed. -/
def after (a : Archive) : Store.Op → Archive
  | .delete objectId =>
    ⟨a.places.after (.delete objectId), Function.update a.former objectId (a.history objectId)⟩
  | op => ⟨a.places.after op, a.former⟩

theorem after_places (a : Archive) (op : Store.Op) : (a.after op).places = a.places.after op := by
  cases op <;> rfl

theorem history_known (h : a.places objectId = some p) :
    a.history objectId = a.former objectId ++ [p.metadata] := by
  simp [history, h]

theorem history_add (new : a.places objectId = none) (p : Placement) :
    (a.after (.add ⟨objectId, p⟩)).history =
      Function.update a.history objectId (a.history objectId ++ [p.metadata]) := by
  funext query
  by_cases same : query = objectId
  · subst same
    simp [history, after, Register.after, new]
  · simp [history, after, Register.after, same]

theorem history_add_again (known : a.places objectId = some p) (other : Placement) :
    (a.after (.add ⟨objectId, other⟩)).history = a.history := by
  have same : Function.update a.places objectId (some p) = a.places :=
    Function.update_eq_self_iff.2 known.symm
  funext query
  simp [history, after, Register.after, known, same]

theorem history_update (known : a.places objectId = some p) (c : Placement.Change) :
    (a.after (.update objectId c)).history =
      Function.update a.history objectId (a.former objectId ++ [(c.apply p).metadata]) := by
  funext query
  by_cases same : query = objectId
  · subst same
    simp [history, after, Register.after, known]
  · simp [history, after, Register.after, same]

theorem history_update_unknown (unknown : a.places objectId = none) (c : Placement.Change) :
    (a.after (.update objectId c)).history = a.history := by
  have same : Function.update a.places objectId none = a.places :=
    Function.update_eq_self_iff.2 unknown.symm
  funext query
  simp [history, after, Register.after, unknown, same]

theorem history_delete (objectId : String) : (a.after (.delete objectId)).history = a.history := by
  funext query
  by_cases same : query = objectId
  · subst same
    simp [history, after, Register.after]
  · simp [history, after, Register.after, same]

end Archive

namespace Ledger

variable {l : Ledger} {a : Archive} {row : Row} {objectId : String} {p : Placement}
  {now : Timestamp}

theorem Recorded.rowsOf_active (h : l.Recorded) (found : l.active? objectId = some row) :
    ∃ deleted, l.rowsOf objectId = deleted ++ [row] ∧ ∀ old ∈ deleted, old.isActive = false := by
  obtain ⟨member, rfl⟩ := active?_some found
  obtain ⟨deleted, split⟩ := List.getLast?_eq_some_iff.1 (h.latest row member)
  refine ⟨deleted, split, fun old inside => ?_⟩
  by_contra active
  have mine : old ∈ l.rowsOf row.objectId := by
    rw [split]
    exact List.mem_append_left _ inside
  obtain ⟨there, object⟩ := mem_rowsOf.1 mine
  have counts : old ∈ l.actives := mem_actives.2 ⟨there, by simpa using active⟩
  obtain rfl := h.unique counts member object
  have ascending : (l.rowsOf old.objectId).Pairwise fun x y => x.id < y.id :=
    h.ascending.sublist List.filter_sublist
  rw [split] at ascending
  have less := (List.pairwise_append.1 ascending).2.2 old inside old List.mem_cons_self
  exact Nat.lt_irrefl _ less

/-- The rows keep the metadata of an archive, which is plain. -/
structure Retains (l : Ledger) (a : Archive) : Prop where
  recorded : l.Recorded
  shows : l.Shows a.places
  kept : ∀ objectId, (l.rowsOf objectId).map (·.metadata) = (a.history objectId).map encodeMetadata
  plain : ∀ objectId, ∀ m ∈ a.history objectId, Plain m

theorem retains_empty : (∅ : Ledger).Retains .empty :=
  ⟨recorded_empty, shows_empty, fun _ => rfl, nofun⟩

/-- Rows whose texts were written from plain metadata are read as bindings with that metadata. -/
theorem mapM_toBinding {rows : List Row} {given : List (Option Metadata)}
    (kept : rows.map (·.metadata) = given.map encodeMetadata) (plain : ∀ m ∈ given, Plain m) :
    ∃ bindings, rows.mapM (·.toBinding) = .ok bindings ∧
      bindings.map (·.placement.metadata) = given := by
  induction rows generalizing given with
  | nil =>
      cases given with
      | nil => exact ⟨[], rfl, rfl⟩
      | cons => cases kept
  | cons row rest ih =>
      cases given with
      | nil => cases kept
      | cons m given =>
          obtain ⟨text, others⟩ := List.cons.inj kept
          obtain ⟨first, later⟩ := List.forall_mem_cons.1 plain
          obtain ⟨bindings, read, same⟩ := ih others later
          have decoded : decodeMetadata row.metadata = .ok m :=
            (congrArg decodeMetadata text).trans first.decode_encode
          obtain ⟨b, binding⟩ := toBinding_isOk decoded
          have here : b.placement.metadata = m :=
            Except.ok.inj ((toBinding_metadata binding).symm.trans decoded)
          refine ⟨b :: bindings, ?_, by rw [List.map_cons, here, same]⟩
          rw [List.mapM_cons, binding, read]
          rfl

theorem Retains.history (h : l.Retains a) (objectId : String) :
    ∃ bindings, l.history objectId = .ok bindings ∧
      bindings.map (·.placement.metadata) = a.history objectId :=
  mapM_toBinding (h.kept objectId) (h.plain objectId)

theorem Retains.plain_placed (h : l.Retains a) (here : a.places objectId = some p) :
    Plain p.metadata := by
  apply h.plain objectId
  rw [Archive.history_known here]
  exact List.mem_append_right _ List.mem_cons_self

/-! ## Operations -/

theorem rowsOf_append (row : Row) (query : String) :
    (l.append row).rowsOf query = l.rowsOf query ++ if row.objectId = query then [row] else [] := by
  simp [rowsOf, append, List.filter_append, List.filter_singleton]

theorem metadata_modifyActive {f : Row → Row} (keeps : ∀ row, (f row).objectId = row.objectId)
    (metadata : ∀ row, (f row).metadata = row.metadata) (query : String) :
    ((l.modifyActive objectId f).rowsOf query).map (·.metadata) =
      (l.rowsOf query).map (·.metadata) := by
  rw [Recorded.rowsOf_modifyActive keeps, List.map_map]
  apply List.map_congr_left
  intro row _
  simp only [Function.comp_apply]
  split <;> simp [metadata]

/-- Moving the active row of an object writes the new metadata over the last one. -/
theorem Recorded.metadata_move (h : l.Recorded) (found : l.active? objectId = some row)
    {front : List (Option String)}
    (texts : (l.rowsOf objectId).map (·.metadata) = front ++ [row.metadata]) (place : Placement)
    (query : String) :
    ((l.modifyActive objectId (·.move place now)).rowsOf query).map (·.metadata) =
      if query = objectId then front ++ [encodeMetadata place.metadata]
      else (l.rowsOf query).map (·.metadata) := by
  obtain ⟨deleted, split, retired⟩ := h.rowsOf_active found
  rw [Recorded.rowsOf_modifyActive (f := (·.move place now)) fun _ => rfl]
  by_cases same : query = objectId
  · subst same
    have hit : row.isActiveOf query = true := List.find?_some found
    -- Only the last row of the object is active, so all before it stay as they are.
    have still : deleted.map (fun row => if row.isActiveOf query then row.move place now else row) =
        deleted := by
      rw [List.map_congr_left, List.map_id]
      intro old inside
      simp [Row.isActiveOf, retired old inside]
    rw [split, List.map_append] at texts
    rw [split, List.map_append, still, if_pos rfl, List.map_append,
      List.append_cancel_right texts]
    simp [hit, Row.move]
  · rw [if_neg same, List.map_map]
    apply List.map_congr_left
    intro other member
    have apart : other.isActiveOf objectId = false := by
      simp [Row.isActiveOf, (mem_rowsOf.1 member).2, same]
    simp [apart]

theorem Retains.same {l' : Ledger} {a' : Archive} (h : l.Retains a) (recorded : l'.Recorded)
    (shows : l'.Shows a'.places) (history : a'.history = a.history)
    (kept : ∀ query, (l'.rowsOf query).map (·.metadata) = (l.rowsOf query).map (·.metadata)) :
    l'.Retains a' where
  recorded := recorded
  shows := shows
  kept := by
    intro query
    rw [kept, history, h.kept]
  plain := by
    rw [history]
    exact h.plain

/-- Where the history of one object changes, only its rows have other metadata. -/
theorem Retains.change {l' : Ledger} {a' : Archive} (h : l.Retains a) (recorded : l'.Recorded)
    (shows : l'.Shows a'.places) {given : List (Option Metadata)}
    (history : a'.history = Function.update a.history objectId given)
    (kept : ∀ query, (l'.rowsOf query).map (·.metadata) =
      if query = objectId then given.map encodeMetadata else (l.rowsOf query).map (·.metadata))
    (plain : ∀ m ∈ given, Plain m) : l'.Retains a' where
  recorded := recorded
  shows := shows
  kept := by
    intro query
    rw [kept, history]
    split
    · rename_i same
      rw [same, Function.update_self]
    · rename_i apart
      rw [Function.update_of_ne apart, h.kept]
  plain := by
    intro query m member
    rw [history] at member
    by_cases same : query = objectId
    · rw [same, Function.update_self] at member
      exact plain m member
    · rw [Function.update_of_ne same] at member
      exact h.plain query m member

theorem Retains.add (h : l.Retains a) (now : Timestamp) (x : Assignment)
    (plain : Plain x.placement.metadata)
    (recorded : (Store.runOp now l (.add x)).2.Recorded)
    (shows : (Store.runOp now l (.add x)).2.Shows (a.after (.add x)).places) :
    (Store.runOp now l (.add x)).2.Retains (a.after (.add x)) := by
  obtain ⟨objectId, place⟩ := x
  rcases l.add_cases ⟨objectId, place⟩ now with ⟨again, refused⟩ | ⟨new, added⟩
  · have run : (Store.runOp now l (.add ⟨objectId, place⟩)).2 = l := by
      simp only [Store.runOp, refused]
    cases known : a.places objectId with
    | none => simp [h.shows.missing known] at again
    | some p =>
        refine h.same recorded shows (Archive.history_add_again known place) fun query => ?_
        rw [run]
  · have run : (Store.runOp now l (.add ⟨objectId, place⟩)).2 =
        l.append (l.newRow ⟨objectId, place⟩ now) := by
      simp only [Store.runOp, added]
    cases known : a.places objectId with
    | some p =>
        obtain ⟨row, found, _⟩ := h.shows.active known
        simp [found] at new
    | none =>
        refine h.change recorded shows (Archive.history_add known place) (fun query => ?_) ?_
        · rw [run, rowsOf_append, List.map_append]
          by_cases same : query = objectId
          · subst same
            rw [h.kept]
            simp [newRow]
          · simp [newRow, same, Ne.symm same]
        · intro m member
          rcases List.mem_append.1 member with old | given
          · exact h.plain objectId m old
          · rw [List.mem_singleton.1 given]
            exact plain

theorem Retains.update (h : l.Retains a) (now : Timestamp) (objectId : String)
    (c : Placement.Change) (plain : Plain c.metadata)
    (recorded : (Store.runOp now l (.update objectId c)).2.Recorded)
    (shows : (Store.runOp now l (.update objectId c)).2.Shows
      (a.after (.update objectId c)).places) :
    (Store.runOp now l (.update objectId c)).2.Retains (a.after (.update objectId c)) := by
  cases known : a.places objectId with
  | none =>
      have run : (Store.runOp now l (.update objectId c)).2 = l := by
        simp only [Store.runOp, Ledger.update, get_eq, h.shows.missing known]
        rfl
      refine h.same recorded shows (Archive.history_update_unknown known c) fun query => ?_
      rw [run]
  | some p =>
      obtain ⟨row, b, found, here, _, run⟩ := h.shows.update_run c known
      have texts : (l.rowsOf objectId).map (·.metadata) =
          (a.former objectId).map encodeMetadata ++ [row.metadata] := by
        rw [h.kept, Archive.history_known known, List.map_append, here.metadata]
        rfl
      refine h.change recorded shows (Archive.history_update known c) (fun query => ?_) ?_
      · rw [run, h.recorded.metadata_move found texts, List.map_append]
        rfl
      · intro m member
        have all := h.plain objectId
        rw [Archive.history_known known] at all
        rcases List.mem_append.1 member with old | given
        · exact all m (List.mem_append_left _ old)
        · rw [List.mem_singleton.1 given]
          exact here.plain.apply plain

theorem Retains.delete (h : l.Retains a) (now : Timestamp) (objectId : String)
    (recorded : (Store.runOp now l (.delete objectId)).2.Recorded)
    (shows : (Store.runOp now l (.delete objectId)).2.Shows (a.after (.delete objectId)).places) :
    (Store.runOp now l (.delete objectId)).2.Retains (a.after (.delete objectId)) := by
  refine h.same recorded shows (a.history_delete objectId) fun query => ?_
  simp only [Store.runOp, delete_eq]
  cases l.active? objectId with
  | none => rfl
  | some row =>
      exact metadata_modifyActive (f := (·.retire now)) (fun _ => rfl) (fun _ => rfl) query

theorem Retains.runOp (h : l.Retains a) (now : Timestamp) {op : Store.Op} (plain : op.Plain) :
    (Store.runOp now l op).2.Retains (a.after op) := by
  have recorded := (change_runOp now l op).recorded h.recorded
  have shows : (Store.runOp now l op).2.Shows (a.after op).places := by
    rw [Archive.after_places]
    exact (Store.runOp_follows h.recorded.sound h.shows now op plain).shows
  cases op with
  | get | list | health => exact ⟨recorded, shows, h.kept, h.plain⟩
  | add x => exact h.add now x plain recorded shows
  | update objectId c => exact h.update now objectId c plain recorded shows
  | delete objectId => exact h.delete now objectId recorded shows

end Ledger

namespace Store

variable {s : Store} {a : Archive}

structure Retains (s : Store) (a : Archive) : Prop where
  usable : s.Usable
  ledger : s.ledger.Retains a

/-- A store answers what an archive says: plain operations as its register does, and a history with
the metadata that was given. -/
structure Reports (s : Store) (a : Archive) : Prop where
  answers : ∀ now op, op.Plain → a.places.Answers op (s.run now op).1
  history : ∀ objectId, ∃ bindings, s.history objectId = .ok bindings ∧
    bindings.map (·.placement.metadata) = a.history objectId

theorem Retains.reports (h : s.Retains a) : s.Reports a where
  answers := by
    intro now op plain
    rw [h.usable.run_eq]
    exact (runOp_follows h.ledger.recorded.sound h.ledger.shows now op plain).answers
  history := by
    intro objectId
    simp only [Store.history, h.usable.obstacle?_eq]
    exact h.ledger.history objectId

theorem Retains.run (h : s.Retains a) (now : Timestamp) {op : Op} (plain : op.Plain) :
    (s.run now op).2.Retains (a.after op) := by
  rw [h.usable.run_eq]
  exact ⟨h.usable.withLedger, h.ledger.runOp now plain⟩

theorem retains_blank (usable : s.Usable) (blank : s.ledger = ∅) : s.Retains .empty :=
  ⟨usable, blank ▸ Ledger.retains_empty⟩

end Store

/-- What a failing deallocation may make of an archive: nothing, the deletion of the binding, or that
and a new binding with the same place. -/
inductive Archive.Settles (a : Archive) (objectId : String) : Archive → Prop
  | kept : a.Settles objectId a
  | deleted : a.Settles objectId (a.after (.delete objectId))
  | restored {p : Placement} (here : a.places objectId = some p) :
    a.Settles objectId ((a.after (.delete objectId)).after (.add ⟨objectId, p⟩))

theorem Archive.Settles.mem_history {a b : Archive} {objectId : String}
    (settles : a.Settles objectId b) (m : Option Metadata) :
    m ∈ b.history objectId ↔ m ∈ a.history objectId := by
  cases settles with
  | kept => rfl
  | deleted => rw [Archive.history_delete]
  | restored here =>
      have new : (a.after (.delete objectId)).places objectId = none := Function.update_self ..
      rw [Archive.history_add new, Function.update_self, Archive.history_delete,
        Archive.history_known here]
      simp

namespace State

open Procedure (Ends)

variable {α : Type} {hazard : Hazard} {s t : State} {a : Archive} {ctx : Context}
  {objectId : String} {p : Placement} {b : Binding} {scope : Binding → Procedure α}

def Filed (a : Archive) (objectId : String) (s : State) : Prop :=
  ∃ again, a.Settles objectId again ∧ s.store.Retains again

theorem Filed.congr (h : s.Filed a objectId) (same : t.store = s.store) : t.Filed a objectId :=
  let ⟨again, settles, retains⟩ := h
  ⟨again, settles, same ▸ retains⟩

/-- An operation of the store runs, or a fault keeps it from running. -/
theorem Step.retains {op : Store.Op} {o : Effect.Outcome (.store op)}
    (step : Step hazard (.store op) s o t) (h : s.store.Retains a) (plain : op.Plain) :
    t.store.Retains (a.after op) ∨ t.store = s.store ∧ ∃ failure, o = .error failure := by
  rcases step.store with ⟨_, _, rfl⟩ | ⟨failure, _, rfl, rfl, _⟩
  · exact .inl ⟨h.usable.withLedger, h.ledger.runOp s.now plain⟩
  · exact .inr ⟨rfl, failure, rfl⟩

theorem keeps_quiet {q : Procedure α} (quiet : q.Quiet) :
    q.Keeps (Step hazard) anyhow s fun _ t => t.store = s.store :=
  .mono (keeps_quietly quiet s) fun _ _ _ ended => ended.1.store

theorem keeps_lookup (h : s.store.Retains a) :
    (Procedure.getBinding objectId).Keeps (Step hazard) anyhow s <| Ends
      (fun b t => (∃ p, a.places objectId = some p ∧ b.Tells objectId p) ∧ t.store.Retains a)
      (·.Filed a objectId) := by
  refine .perform trivial fun o t step => ⟨trivial, ?_⟩
  have kept : t.store.Retains a := (step.quietly rfl).store ▸ h
  obtain ⟨_, rfl | ⟨failure, rfl, _⟩⟩ := step.get
  · have answers := (Store.runOp_follows h.ledger.recorded.sound h.ledger.shows s.now
      (.get objectId) trivial).answers
    simp only [Store.runOp, Register.Answers] at answers
    cases known : a.places objectId with
    | none =>
        rw [known] at answers
        rw [answers]
        exact ⟨a, .kept, kept⟩
    | some p =>
        rw [known] at answers
        obtain ⟨b, read, tells⟩ := answers
        rw [read]
        exact ⟨⟨p, rfl, tells⟩, kept⟩
  · exact ⟨a, .kept, kept⟩

theorem keeps_removal (h : s.store.Retains a) :
    (Procedure.deleteBinding objectId).Keeps (Step hazard) anyhow s <| Ends
      (fun _ t => t.store.Retains (a.after (.delete objectId))) (·.Filed a objectId) := by
  refine .perform trivial fun o t step => ⟨trivial, ?_⟩
  rcases step.retains h trivial with gone | ⟨same, _, rfl⟩
  · cases o with
    | ok _ => exact gone
    | error _ => exact ⟨_, .deleted, gone⟩
  · exact ⟨a, .kept, same ▸ h⟩

/-- Recording a binding anew writes what was read of it, or does not happen. -/
theorem keeps_restoring (h : s.store.Retains (a.after (.delete objectId)))
    (here : a.places objectId = some p) (plain : Ledger.Plain p.metadata)
    (tells : b.Tells objectId p) :
    (Procedure.addBinding (.ofBinding b)).ignoreError.Keeps (Step hazard) anyhow s
      fun _ t => t.Filed a objectId := by
  have same : Assignment.ofBinding b = ⟨objectId, p⟩ := by
    rw [Assignment.ofBinding, tells.objectId, tells.placement]
  have added : (Procedure.addBinding (.ofBinding b)).Keeps (Step hazard) anyhow s
      fun _ t => t.Filed a objectId := by
    rw [same]
    refine .perform trivial fun o t step => ⟨trivial, ?_⟩
    rcases step.retains h plain with renewed | ⟨kept, _⟩
    · exact ⟨_, .restored here, renewed⟩
    · exact ⟨_, .deleted, kept ▸ h⟩
  exact .ignoreError added (fun _ _ held => held) (fun _ _ held => held) fun _ _ held => held

/-- A withdrawal deletes the binding; if it fails, the binding may be left or recorded anew. -/
theorem keeps_withdrawal (h : s.store.Retains a) (quiet : ∀ b, (scope b).Quiet) :
    (Broker.withdraw ctx objectId scope).Keeps (Step hazard) anyhow s <| Ends
      (fun _ t => t.store.Retains (a.after (.delete objectId))) (·.Filed a objectId) := by
  -- What may be recorded anew at the end is the binding that is looked up at the start.
  refine .bind_ends (keeps_lookup h) fun b t ⟨⟨p, here, tells⟩, found⟩ => ?_
  have plain : Ledger.Plain p.metadata := h.ledger.plain_placed here
  refine .bind (keeps_quiet (quiet b)) (fun value u same => ?_)
    fun _ _ _ same => ⟨a, .kept, same ▸ found⟩
  refine .bind_ends (keeps_removal (same ▸ found)) fun _ v gone => ?_
  have released : (Procedure.release ctx b.placement.resourceId).Keeps (Step hazard) anyhow v <|
      Ends (fun _ t => t.store.Retains (a.after (.delete objectId)))
        (fun t => t.store.Retains (a.after (.delete objectId))) := by
    refine .perform trivial fun o t step => ⟨trivial, ?_⟩
    have kept := (step.store_eq nofun).symm ▸ gone
    cases o <;> exact kept
  refine .bind_ends (.onError_ends released (fun t gone => ⟨_, .deleted, gone⟩) fun t gone =>
    keeps_restoring gone here plain tells) fun _ t gone => .pure trivial gone

theorem keeps_deallocation (h : s.store.Retains a) (quiet : ∀ b, (scope b).Quiet) :
    (Broker.deallocate ctx objectId scope).Keeps (Step hazard) anyhow s <| Ends
      (fun _ t => t.store.Retains (a.after (.delete objectId))) (·.Filed a objectId) := by
  have counting (event : Counters.Event) : (Procedure.count event).Quiet := .perform rfl
  refine .bind_ends (.onError_ends (keeps_withdrawal h quiet) (fun _ held => held) fun t held => ?_)
    fun value t gone => ?_
  · exact .mono (keeps_quiet (counting _)) fun _ u _ same => held.congr same
  · refine .bind (keeps_quiet (counting _)) (fun _ u same => ?_)
      fun _ _ _ same => ⟨_, .deleted, same ▸ gone⟩
    have kept : u.store.Retains (a.after (.delete objectId)) := same ▸ gone
    exact .pure trivial kept

end State

/-- What happens to the store in one go: an operation, or a deallocation in which anything fails. -/
inductive Turn (α : Type) where
  | operation (now : Timestamp) (op : Store.Op)
  | deallocation (w : Schedule) (ctx : Context) (objectId : String) (scope : Binding → Procedure α)

namespace Turn

variable {α : Type} {a b c : Archive} {s : State} {turn : Turn α} {turns : List (Turn α)}

def run (s : State) : Turn α → State
  | operation now op => { s with store := (s.store.run now op).2 }
  | deallocation w ctx objectId scope => (s.runUnder w (Broker.deallocate ctx objectId scope)).2

/-- What is given is plain, and a scope leaves the pool and the bindings alone. -/
def Fair : Turn α → Prop
  | operation _ op => op.Plain
  | deallocation _ _ _ scope => ∀ b, (scope b).Quiet

/-- What a turn makes of an archive: an operation what it says, a deallocation that ends well the
deletion, and one that fails leaves the place of the object as it is or takes it away. -/
def Files (s : State) (a b : Archive) : Turn α → Prop
  | operation _ op => b = a.after op
  | deallocation w ctx objectId scope =>
    match (s.runUnder w (Broker.deallocate ctx objectId scope)).1 with
    | .ok _ => b = a.after (.delete objectId)
    | .error _ => a.Settles objectId b

/-- A deallocation brings no metadata but what was given for the binding. -/
theorem Files.mem_history {w : Schedule} {ctx : Context} {objectId : String}
    {scope : Binding → Procedure α} (files : (deallocation w ctx objectId scope).Files s a b)
    (m : Option Metadata) : m ∈ b.history objectId ↔ m ∈ a.history objectId := by
  simp only [Files] at files
  split at files
  · rw [files, Archive.history_delete]
  · exact files.mem_history m

def FilesAll : State → Archive → List (Turn α) → Archive → Prop
  | _, a, [], c => c = a
  | s, a, turn :: rest, c => ∃ b, turn.Files s a b ∧ FilesAll (turn.run s) b rest c

theorem retains (h : s.store.Retains a) (fair : turn.Fair) :
    ∃ b, turn.Files s a b ∧ (turn.run s).store.Retains b := by
  cases turn with
  | operation now op => exact ⟨a.after op, rfl, h.run now fair⟩
  | deallocation w ctx objectId scope =>
      have moves : w.Moves (State.Step .any) := Schedule.Within.moves fun _ _ _ _ => trivial
      have kept : (Broker.deallocate ctx objectId scope).Keeps (State.Step .any) State.anyhow s _ :=
        State.keeps_deallocation h fair
      have ended := kept.end_of_run moves
      simp only [Files, run]
      cases result : (s.runUnder w (Broker.deallocate ctx objectId scope)).1 with
      | ok value =>
          rw [result] at ended
          exact ⟨_, rfl, ended⟩
      | error failure =>
          rw [result] at ended
          exact ended

theorem retains_all (h : s.store.Retains a) (fair : ∀ turn ∈ turns, turn.Fair) :
    ∃ b, FilesAll s a turns b ∧ (turns.foldl run s).store.Retains b := by
  induction turns generalizing s a with
  | nil => exact ⟨a, rfl, h⟩
  | cons turn rest ih =>
      obtain ⟨first, others⟩ := List.forall_mem_cons.1 fair
      obtain ⟨b, files, retains⟩ := turn.retains h first
      obtain ⟨c, later, ended⟩ := ih retains others
      exact ⟨c, ⟨b, files, later⟩, ended⟩

end Turn

namespace State

/-- Metadata is read from its text as it was given, and only absent metadata has no text; and whatever
was done to a store that began empty, it answers with the metadata that was given. -/
theorem metadata_survives :
    (∀ m, Ledger.Plain m → Ledger.decodeMetadata (Ledger.encodeMetadata m) = .ok m ∧
      (Ledger.encodeMetadata m = none ↔ m = none)) ∧
    ∀ (α : Type) (turns : List (Turn α)) (s : State), s.store.Usable → s.store.ledger = ∅ →
      (∀ turn ∈ turns, turn.Fair) →
        ∃ a, Turn.FilesAll s .empty turns a ∧ (turns.foldl Turn.run s).store.Reports a := by
  constructor
  · intro m plain
    exact ⟨plain.decode_encode, Option.map_eq_none_iff⟩
  intro α turns s usable blank fair
  obtain ⟨a, files, retains⟩ := Turn.retains_all (Store.retains_blank usable blank) fair
  exact ⟨a, files, retains.reports⟩

/-- Metadata with all that a text has to escape, and with the outermost integers. -/
def intricate : Metadata :=
  .ofList [("\"\\\u0000", .string "line\n\u001f\u007f\u2028"), ("", .object [("\t", .array [])]),
    ("limits", .array [.number (.integer (-9223372036854775808)),
      .number (.integer 18446744073709551615), .null, .bool true])]

/-- A router is put on an instance and taken off it while releases fail. -/
def failedMove : List (Turn Unit) :=
  [.operation default (.add ⟨"router-1", ⟨"router", "instance-1", some intricate, "vm"⟩⟩),
    .deallocation stuck (.new "request") "router-1" fun _ => pure ()]

theorem mem_history_failedMove {s : State} {a : Archive}
    (files : Turn.FilesAll s .empty failedMove a) (m : Option Metadata) :
    m ∈ a.history "router-1" ↔ m = some intricate := by
  -- How the deallocation went is left open: in each case it brings no other metadata.
  obtain ⟨_, rfl, _, moved, rfl⟩ := files
  rw [moved.mem_history, Archive.history_add rfl]
  simp [Archive.history, Archive.empty, Register.empty]

/-- Whatever the failed release makes of the binding, all that is kept of it has its metadata. -/
theorem intricate_metadata_survives :
    Ledger.Plain (some intricate) ∧
    Ledger.decodeMetadata (Ledger.encodeMetadata (some intricate)) = .ok (some intricate) ∧
    (∀ turn ∈ failedMove, turn.Fair) ∧
    ∃ bindings, bindings ≠ [] ∧
      (failedMove.foldl Turn.run (initial (.localPool oneInstance) .inMemory ∅ ⟨0⟩)).store.history
        "router-1" = .ok bindings ∧
      ∀ b ∈ bindings, b.placement.metadata = some intricate := by
  have plain : Ledger.Plain (some intricate) := by decide +kernel
  have fair : ∀ turn ∈ failedMove, turn.Fair :=
    List.forall_mem_cons.2 ⟨plain, List.forall_mem_singleton.2 fun _ => .pure⟩
  refine ⟨plain, (metadata_survives.1 _ plain).1, fair, ?_⟩
  obtain ⟨a, files, reports⟩ := metadata_survives.2 Unit failedMove
    (initial (.localPool oneInstance) .inMemory ∅ ⟨0⟩) ⟨rfl, rfl⟩ rfl fair
  obtain ⟨bindings, read, given⟩ := reports.history "router-1"
  have only := mem_history_failedMove files
  refine ⟨bindings, ?_, read, ?_⟩
  · rintro rfl
    have held := (only _).2 rfl
    rw [← given] at held
    cases held
  · intro b member
    apply (only _).1
    rw [← given]
    exact List.mem_map_of_mem member

end State
end Brokerage
