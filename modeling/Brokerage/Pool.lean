import Brokerage.Error
import Brokerage.Identity
import Brokerage.Resource

/-! # The local pool

A fixed list of resources in seed order. Acquiring takes the earliest free resource of a type;
releasing frees a resource by its id. No two resources share an id.
-/

namespace Brokerage

structure Pool where
  entries : List Resource
  /-- An id names one entry. -/
  distinct : (entries.map (·.id)).Nodup
  deriving DecidableEq

namespace Pool

def empty : Pool := ⟨[], .nil⟩

instance : EmptyCollection Pool := ⟨empty⟩

instance : Inhabited Pool := ⟨∅⟩

def find? (p : Pool) (id : String) : Option Resource := p.entries.find? (·.id = id)

def isFree (type : String) (r : Resource) : Bool := !r.allocated && r.type = type

def available (p : Pool) (type : String) : Nat := p.entries.countP (isFree type)

/-- The ids of the entries that are handed out, in seed order. -/
def taken (p : Pool) : List String := (p.entries.filter (·.allocated)).map (·.id)

/-- Set the mark of the entry of an id. -/
def markEntry (id : String) (allocated : Bool) (r : Resource) : Resource :=
  if r.id = id then { r with allocated } else r

@[simp]
theorem markEntry_id (id : String) (allocated : Bool) (r : Resource) :
    (markEntry id allocated r).id = r.id := by
  unfold markEntry
  split <;> rfl

/-- Set the mark of an id; every other entry stays as it is. -/
def mark (p : Pool) (id : String) (allocated : Bool) : Pool where
  entries := p.entries.map (markEntry id allocated)
  distinct := by
    have h : (p.entries.map (markEntry id allocated)).map (·.id) = p.entries.map (·.id) := by
      simp [Function.comp_def]
    rw [h]
    exact p.distinct

/-- Hand out the earliest free resource of a type. -/
def acquire (p : Pool) (type : String) : Except Error (Resource × Pool) :=
  match p.entries.find? (isFree type) with
  | some r => .ok ({ r with allocated := true }, p.mark r.id true)
  | none => .error (.noMoreResources type)

/-- Take a resource back; a resource that is free stays free. -/
def release (p : Pool) (id : String) : Except Error Pool :=
  if (p.find? id).isSome then .ok (p.mark id false) else .error (.wrongResourceId id)

/-! ## Filling a pool -/

/-- Append a resource with a new id. -/
def add (p : Pool) (r : Resource) : Except Error Pool :=
  if h : r.id ∈ p.entries.map (·.id) then
    .error (.configuration ("duplicate resource id in local pool: " ++ r.id))
  else
    .ok ⟨p.entries ++ [r], by
      rw [List.map_append, List.nodup_append]
      refine ⟨p.distinct, by simp, ?_⟩
      intro a ha b hb
      simp only [List.map_cons, List.map_nil, List.mem_singleton] at hb
      rintro rfl
      exact h (hb ▸ ha)⟩

/-- Append a resource, or put it in the place of the entry that has its id. -/
def put (p : Pool) (r : Resource) : Pool :=
  if h : r.id ∈ p.entries.map (·.id) then
    ⟨p.entries.map fun old => if old.id = r.id then r else old, by
      have h : (p.entries.map fun old => if old.id = r.id then r else old).map (·.id) =
          p.entries.map (·.id) := by
        rw [List.map_map]
        apply List.map_congr_left
        intro old _
        simp only [Function.comp_apply]
        split <;> simp_all
      rw [h]
      exact p.distinct⟩
  else
    ⟨p.entries ++ [r], by
      rw [List.map_append, List.nodup_append]
      refine ⟨p.distinct, by simp, ?_⟩
      intro a ha b hb
      simp only [List.map_cons, List.map_nil, List.mem_singleton] at hb
      rintro rfl
      exact h (hb ▸ ha)⟩

/-- The pool of ready-made resources, all of them free; the last resource of an id counts. -/
def ofResources (resources : List Resource) : Pool :=
  resources.foldl (fun p r => p.put { r with allocated := false }) ∅

/-- The resource of a configured seed. -/
def ofSeed (seed : Resource.Seed) (ids : IdSupply) : Resource × IdSupply :=
  match seed.id with
  | some id => (⟨id, seed.type, false, seed.descriptor, seed.metadata⟩, ids)
  | none =>
    let (id, ids) := ids.take
    (⟨id, seed.type, false, seed.descriptor, seed.metadata⟩, ids)

/-- The resource of a router instance. -/
def ofInstance (settings : PoolSettings) (name address : String) (ids : IdSupply) :
    Resource × IdSupply :=
  let (id, ids) := ids.take
  let metadata : Metadata :=
    .ofList [("instance_id", .string name), ("instance_ip", .string address)]
  (⟨id, settings.instanceType, false, settings.instanceDescriptor, metadata⟩, ids)

/-- Fill a pool with resources that are made one after the other. -/
def fill {α : Type} (make : α → IdSupply → Resource × IdSupply) :
    List α → Pool → IdSupply → Except Error (Pool × IdSupply)
  | [], p, ids => .ok (p, ids)
  | x :: rest, p, ids => do
    let (r, ids) := make x ids
    fill make rest (← p.add r) ids

/-- The pool of some settings, and the ids that are left. -/
def build (settings : PoolSettings) (ids : IdSupply) : Except Error (Pool × IdSupply) := do
  let (p, ids) ← fill ofSeed settings.resources ∅ ids
  fill (fun (name, address) => ofInstance settings name address) settings.instances.entries p ids

end Pool
end Brokerage
