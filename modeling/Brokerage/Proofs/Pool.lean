import Brokerage.Pool
import Mathlib.Data.List.Nodup

/-! # Marks in a pool

How acquiring and releasing move ids in and out of the ids that are handed out.
-/

namespace Brokerage

/-- A resource as it is handed out. -/
def Resource.given (r : Resource) : Resource := { r with allocated := true }

namespace Pool

variable {p q : Pool} {r x : Resource} {id type : String} {mark : Bool}

theorem mem_entries_mark :
    x ∈ (p.mark id mark).entries ↔ ∃ r ∈ p.entries, markEntry id mark r = x := List.mem_map

theorem markEntry_fields (r : Resource) : (markEntry id mark r).type = r.type ∧
    (markEntry id mark r).descriptor = r.descriptor ∧
    (markEntry id mark r).metadata = r.metadata := by
  unfold markEntry
  split <;> exact ⟨rfl, rfl, rfl⟩

theorem markEntry_allocated (r : Resource) :
    (markEntry id mark r).allocated = if r.id = id then mark else r.allocated := by
  unfold markEntry
  split <;> rfl

theorem mem_taken : id ∈ p.taken ↔ ∃ r ∈ p.entries, r.allocated = true ∧ r.id = id := by
  simp [taken, and_assoc]

theorem taken_nodup (p : Pool) : p.taken.Nodup :=
  p.distinct.sublist (List.filter_sublist.map _)

theorem entry_unique (hr : r ∈ p.entries) (hx : x ∈ p.entries) (same : r.id = x.id) : r = x :=
  List.inj_on_of_nodup_map p.distinct hr hx same

theorem not_mem_taken (hr : r ∈ p.entries) (free : r.allocated = false) : r.id ∉ p.taken := by
  rintro member
  obtain ⟨x, hx, given, same⟩ := mem_taken.1 member
  rw [entry_unique hx hr same, free] at given
  cases given

theorem mem_taken_mark_true (hr : r ∈ p.entries) :
    id ∈ (p.mark r.id true).taken ↔ id = r.id ∨ id ∈ p.taken := by
  simp only [mem_taken, mem_entries_mark]
  constructor
  · rintro ⟨_, ⟨x, hx, rfl⟩, given, rfl⟩
    rw [markEntry_allocated] at given
    split at given
    · rename_i same
      exact .inl (by simpa using same)
    · exact .inr ⟨x, hx, given, by simp⟩
  · rintro (rfl | ⟨x, hx, given, rfl⟩)
    · exact ⟨_, ⟨r, hr, rfl⟩, by simp [markEntry_allocated], by simp⟩
    · exact ⟨_, ⟨x, hx, rfl⟩, by simp [markEntry_allocated, given], by simp⟩

theorem mem_taken_mark_false {gone : String} :
    id ∈ (p.mark gone false).taken ↔ id ≠ gone ∧ id ∈ p.taken := by
  simp only [mem_taken, mem_entries_mark]
  constructor
  · rintro ⟨_, ⟨x, hx, rfl⟩, given, rfl⟩
    rw [markEntry_allocated] at given
    split at given
    · cases given
    · rename_i other
      exact ⟨by simpa using other, x, hx, given, by simp⟩
  · rintro ⟨other, x, hx, given, rfl⟩
    exact ⟨_, ⟨x, hx, rfl⟩, by simp [markEntry_allocated, given, other], by simp⟩

theorem taken_mark_true (hr : r ∈ p.entries) (free : r.allocated = false) :
    (p.mark r.id true).taken.Perm (r.id :: p.taken) := by
  rw [List.perm_ext_iff_of_nodup (taken_nodup _)
    (List.nodup_cons.2 ⟨not_mem_taken hr free, taken_nodup p⟩)]
  simp [mem_taken_mark_true hr]

theorem taken_mark_false (member : id ∈ p.taken) :
    p.taken.Perm (id :: (p.mark id false).taken) := by
  rw [List.perm_ext_iff_of_nodup (taken_nodup p)
    (List.nodup_cons.2 ⟨by simp [mem_taken_mark_false], taken_nodup _⟩)]
  intro x
  by_cases same : x = id
  · simp [same, member]
  · simp [mem_taken_mark_false, same]

/-- Releasing what was just acquired restores the pool. -/
theorem mark_false_mark_true (hr : r ∈ p.entries) (free : r.allocated = false) :
    (p.mark r.id true).mark r.id false = p := by
  have entries : ((p.mark r.id true).mark r.id false).entries = p.entries := by
    simp only [Pool.mark, List.map_map]
    conv_rhs => rw [← List.map_id p.entries]
    apply List.map_congr_left
    intro x hx
    by_cases same : x.id = r.id
    · obtain rfl := entry_unique hx hr same
      simp [markEntry, ← free]
    · simp [markEntry, same]
  cases p
  simpa [Pool.mark] using entries

theorem find?_isFree (h : p.entries.find? (isFree type) = some r) :
    r ∈ p.entries ∧ r.allocated = false ∧ r.type = type := by
  have free := List.find?_some h
  exact ⟨List.mem_of_find?_eq_some h, by simpa [isFree] using free⟩

theorem find?_isSome : (p.find? id).isSome ↔ id ∈ p.entries.map (·.id) := by
  simp [find?]

/-- A pool in which nothing is handed out. -/
def AllFree (p : Pool) : Prop := ∀ r ∈ p.entries, r.allocated = false

instance (p : Pool) : Decidable p.AllFree :=
  inferInstanceAs (Decidable (∀ r ∈ p.entries, r.allocated = false))

theorem AllFree.taken_eq_nil (free : p.AllFree) : p.taken = [] := by
  rw [List.eq_nil_iff_forall_not_mem]
  intro id member
  obtain ⟨r, hr, given, _⟩ := mem_taken.1 member
  rw [free r hr] at given
  cases given

/-- The entries as if none was handed out. -/
def blank (p : Pool) : List Resource := p.entries.map fun r => { r with allocated := false }

theorem blank_mark {p : Pool} {id : String} {mark : Bool} : (p.mark id mark).blank = p.blank := by
  simp only [Pool.blank, Pool.mark, List.map_map]
  apply List.map_congr_left
  intro r _
  simp only [Function.comp_apply, Pool.markEntry]
  split <;> rfl

theorem AllFree.blank_eq {p : Pool} (free : p.AllFree) : p.blank = p.entries := by
  conv_rhs => rw [← List.map_id p.entries]
  apply List.map_congr_left
  intro r member
  simp [← free r member]

/-- A pool of one resource. -/
def single (r : Resource) : Pool := ⟨[r], List.nodup_singleton _⟩

end Pool
end Brokerage
