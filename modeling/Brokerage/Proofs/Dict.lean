import Brokerage.Dict

/-! # Lookups in dictionaries

What a dictionary answers after it was joined with another or restricted; and that its answers
determine it.
-/

namespace Brokerage.Dict

variable {α : Type} {d other : Dict α} {key : String}

/-- The key of the first entry stands nowhere behind it. -/
theorem lookup_smaller {rest : List (String × α)} (first : ∀ e ∈ rest, key < e.1) :
    rest.lookup key = none :=
  List.lookup_eq_none_iff.2 fun e member => by
    simpa using String.ne_of_lt (first e member)

theorem first_or_later {rest : List (String × α)} {k : String} {value : α}
    (first : ∀ e ∈ rest, k < e.1) (found : (((k, value) :: rest).lookup key).isSome) :
    key = k ∨ k < key := by
  by_cases same : key = k
  · exact .inl same
  · have missed : (key == k) = false := by simpa using same
    simp only [List.lookup_cons, missed, List.lookup_isSome_iff] at found
    obtain ⟨e, member, hit⟩ := found
    obtain rfl : key = e.1 := by simpa using hit
    exact .inr (first e member)

theorem get?_foldl_insert {entries : List (String × α)}
    (ascending : entries.Pairwise fun a b => a.1 < b.1) :
    (entries.foldl (fun acc e => acc.insert e.1 e.2) d).get? key =
      (entries.lookup key <|> d.get? key) := by
  induction entries generalizing d with
  | nil => rfl
  | cons e rest ih =>
      obtain ⟨k, value⟩ := e
      obtain ⟨first, ascending⟩ := List.pairwise_cons.1 ascending
      rw [List.foldl_cons, ih ascending, get?_insert, List.lookup_cons]
      by_cases same : key = k
      · subst same
        simp [lookup_smaller first]
      · have missed : (key == k) = false := by simpa using same
        simp [same, missed]

@[simp]
theorem get?_join : (d.join other).get? key = (other.get? key <|> d.get? key) :=
  get?_foldl_insert other.ascending

@[simp]
theorem get?_restrict {keep : String → Bool} :
    (d.restrict keep).get? key = if keep key then d.get? key else none := by
  simp only [get?, restrict]
  induction d.entries with
  | nil => simp
  | cons e rest ih =>
      obtain ⟨k, value⟩ := e
      by_cases same : key = k
      · subst same
        cases kept : keep key <;> simp [kept] at ih ⊢
        exact ih
      · have missed : (key == k) = false := by simpa using same
        cases kept : keep k <;> simp [kept, List.lookup_cons, missed, ih]

theorem entries_eq_of_lookup {entries others : List (String × α)}
    (h : entries.Pairwise fun a b => a.1 < b.1) (h' : others.Pairwise fun a b => a.1 < b.1)
    (same : ∀ key, entries.lookup key = others.lookup key) : entries = others := by
  induction entries generalizing others with
  | nil =>
      cases others with
      | nil => rfl
      | cons e rest =>
          have found := same e.1
          rw [List.lookup_nil, List.lookup_cons_self] at found
          cases found
  | cons e rest ih =>
      cases others with
      | nil =>
          have found := same e.1
          rw [List.lookup_nil, List.lookup_cons_self] at found
          cases found
      | cons e' rest' =>
          obtain ⟨k, value⟩ := e
          obtain ⟨k', value'⟩ := e'
          obtain ⟨first, tail⟩ := List.pairwise_cons.1 h
          obtain ⟨first', tail'⟩ := List.pairwise_cons.1 h'
          have heads : k = k' := by
            have down := first_or_later first' (by rw [← same k]; simp)
            have up := first_or_later first (by rw [same k']; simp)
            rcases down with down | down
            · exact down
            · rcases up with up | up
              · exact up.symm
              · exact absurd up (String.lt_asymm down)
          subst heads
          obtain rfl : value = value' := by simpa using same k
          congr 1
          refine ih tail tail' fun key => ?_
          by_cases hit : key = k
          · rw [hit, lookup_smaller first, lookup_smaller first']
          · have missed : (key == k) = false := by simpa using hit
            simpa [List.lookup_cons, missed] using same key

theorem ext_get? (same : ∀ key, d.get? key = other.get? key) : d = other := by
  obtain ⟨entries, ascending⟩ := d
  obtain ⟨others, ascending'⟩ := other
  congr
  exact entries_eq_of_lookup ascending ascending' same

theorem ofList_entries (d : Dict α) : ofList d.entries = d := by
  apply ext_get?
  intro key
  rw [ofList, get?_foldl_insert d.ascending, get?_empty]
  change (d.get? key <|> none) = d.get? key
  cases d.get? key <;> rfl

theorem eq_insert {value : α} (here : other.get? key = some value)
    (elsewhere : ∀ query, query ≠ key → other.get? query = d.get? query) :
    other = d.insert key value := by
  apply ext_get?
  intro query
  rw [get?_insert]
  split
  · rename_i same
    rw [same, here]
  · rename_i apart
    exact elsewhere query apart

theorem isSome_get?_foldl_insert {entries : List (String × α)} :
    ((entries.foldl (fun acc e => acc.insert e.1 e.2) d).get? key).isSome ↔
      (∃ e ∈ entries, e.1 = key) ∨ (d.get? key).isSome := by
  induction entries generalizing d with
  | nil => simp
  | cons e rest ih =>
      rw [List.foldl_cons, ih, get?_insert]
      by_cases same : key = e.1
      · simp [same]
      · simp [same, Ne.symm same]

theorem mem_entries {value : α} :
    (key, value) ∈ d.entries ↔ d.get? key = some value := by
  constructor
  · intro member
    obtain ⟨before, after, split⟩ := List.append_of_mem member
    refine List.lookup_eq_some_iff.2 ⟨before, after, split, fun e earlier => ?_⟩
    have ascending := d.ascending
    rw [split] at ascending
    have smaller := (List.pairwise_append.1 ascending).2.2 e earlier (key, value) List.mem_cons_self
    simpa using (String.ne_of_lt smaller).symm
  · intro found
    obtain ⟨before, after, split, _⟩ := List.lookup_eq_some_iff.1 found
    rw [split]
    simp

theorem mem_keys : key ∈ d.keys ↔ (d.get? key).isSome := by
  simp only [keys, get?, List.lookup_isSome_iff, List.mem_map, beq_iff_eq]
  exact ⟨fun ⟨e, member, same⟩ => ⟨e, member, same.symm⟩,
    fun ⟨e, member, same⟩ => ⟨e, member, same.symm⟩⟩

theorem mem_keys_ofList {entries : List (String × α)} :
    key ∈ (ofList entries).keys ↔ ∃ e ∈ entries, e.1 = key := by
  rw [mem_keys, ofList, isSome_get?_foldl_insert]
  simp

theorem keys_nodup (d : Dict α) : d.keys.Nodup :=
  List.pairwise_map.2 (d.ascending.imp fun smaller => String.ne_of_lt smaller)

end Brokerage.Dict
