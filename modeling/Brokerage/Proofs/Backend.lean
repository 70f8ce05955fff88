import Brokerage.Backend
import Brokerage.Proofs.Identity

/-! # Routers of a backend

What each call does to the routers that a backend holds. Only creating, updating and deleting touch
them; interfaces come and go beside them.
-/

namespace Brokerage.Backend

variable {b : Backend} {r : Router} {e : Entry} {f g : Entry → Entry} {id : String} {ids : IdSupply}

theorem find?_none : b.find? id = none ↔ ∀ r ∈ b.routers, r.id ≠ id := by
  simp [find?, routers]

theorem find?_some (h : b.find? id = some e) : e.router ∈ b.routers ∧ e.router.id = id :=
  ⟨List.mem_map_of_mem (List.mem_of_find?_eq_some h), by simpa using List.find?_some h⟩

theorem require_cases (b : Backend) (id : String) :
    (∃ e, b.require id = .ok e ∧ e.router ∈ b.routers ∧ e.router.id = id) ∨
      (∀ r ∈ b.routers, r.id ≠ id) ∧ b.require id = .error (.routerNotFound b.name id) := by
  unfold require
  cases found : b.find? id with
  | none => exact .inr ⟨find?_none.1 found, rfl⟩
  | some e => exact .inl ⟨e, rfl, find?_some found⟩

theorem modify_routers {f : Entry → Entry} (keeps : ∀ e, (f e).router = e.router) :
    (b.modify id f).routers = b.routers := by
  simp only [modify, routers, List.map_map]
  apply List.map_congr_left
  intro e _
  simp only [Function.comp_apply]
  split
  · exact keeps e
  · rfl

theorem find?_modify (keeps : ∀ e, e.router.id = id → (f e).router.id = id) (x : String) :
    (b.modify id f).find? x = (b.find? x).map fun e => if e.router.id = id then f e else e := by
  have same : ∀ e, (if e.router.id = id then f e else e).router.id = e.router.id := by
    intro e
    split
    · rename_i here
      rw [keeps e here, here]
    · rfl
  simp only [find?, modify, List.find?_map, Function.comp_def, same]

theorem modify_modify (keeps : ∀ e, e.router.id = id → (f e).router.id = id) :
    (b.modify id f).modify id g = b.modify id fun e => g (f e) := by
  simp only [modify, List.map_map]
  congr 1
  apply List.map_congr_left
  intro e _
  simp only [Function.comp_apply]
  by_cases here : e.router.id = id
  · rw [if_pos here, if_pos (keeps e here), if_pos here]
  · rw [if_neg here, if_neg here, if_neg here]

theorem insert_routers (new : ∀ other ∈ b.routers, other.id ≠ r.id) :
    (b.insert r).routers = b.routers ++ [r] := by
  have missing : b.find? r.id = none := find?_none.2 new
  simp [insert, missing, routers]

theorem mem_insert_routers {x : Router} (member : x ∈ (b.insert r).routers) :
    x = r ∨ x ∈ b.routers := by
  obtain ⟨e, inside, rfl⟩ := List.mem_map.1 member
  unfold insert at inside
  split at inside
  · obtain ⟨old, hold, rfl⟩ := List.mem_map.1 inside
    split
    · exact .inl rfl
    · exact .inr (List.mem_map_of_mem hold)
  · rcases List.mem_append.1 inside with hold | new
    · exact .inr (List.mem_map_of_mem hold)
    · exact .inl (by rw [List.mem_singleton.1 new])

theorem answer_get (b : Backend) (ids : IdSupply) (id : String) (fields : Option (List String)) :
    (∃ r ∈ b.routers, r.id = id ∧ b.answer ids (.get id fields) = (.ok (r.project fields), b, ids)) ∨
      (∀ r ∈ b.routers, r.id ≠ id) ∧
        b.answer ids (.get id fields) = (.error (.routerNotFound b.name id), b, ids) := by
  simp only [answer, get]
  rcases b.require_cases id with ⟨e, required, member, same⟩ | ⟨missing, required⟩
  · exact .inl ⟨e.router, member, same, by rw [required]; rfl⟩
  · exact .inr ⟨missing, by rw [required]; rfl⟩

theorem answer_update (b : Backend) (ids : IdSupply) (id : String) (request : Router.Request) :
    (∃ r ∈ b.routers, r.id = id ∧ ∃ b', b.answer ids (.update id request) =
        (.ok (r.update request), b', ids) ∧
      b'.routers = b.routers.map fun x => if x.id = id then r.update request else x) ∨
      (∀ r ∈ b.routers, r.id ≠ id) ∧
        b.answer ids (.update id request) = (.error (.routerNotFound b.name id), b, ids) := by
  simp only [answer, update]
  rcases b.require_cases id with ⟨e, required, member, same⟩ | ⟨missing, required⟩
  · refine .inl ⟨e.router, member, same, _, by rw [required]; rfl, ?_⟩
    simp only [modify, routers, List.map_map]
    apply List.map_congr_left
    intro x _
    simp only [Function.comp_apply]
    split <;> rfl
  · exact .inr ⟨missing, by rw [required]; rfl⟩

theorem answer_delete (b : Backend) (ids : IdSupply) (id : String) :
    (∃ r ∈ b.routers, r.id = id ∧ ∃ b', b.answer ids (.delete id) = (.ok (), b', ids) ∧
      b'.name = b.name ∧ b'.routers = b.routers.filter (·.id != id)) ∨
      (∀ r ∈ b.routers, r.id ≠ id) ∧
        b.answer ids (.delete id) = (.error (.routerNotFound b.name id), b, ids) := by
  simp only [answer, delete]
  rcases b.require_cases id with ⟨e, required, member, same⟩ | ⟨missing, required⟩
  · refine .inl ⟨e.router, member, same, { b with entries := b.entries.filter (·.router.id != id) },
      by rw [required]; rfl, rfl, ?_⟩
    simp only [routers, List.filter_map]
    rfl
  · exact .inr ⟨missing, by rw [required]; rfl⟩

/-- Whether a call leaves the routers as they are. -/
def Call.isGentle : Call → Bool
  | .create _ | .update .. | .delete _ => false
  | .get .. | .list _ | .addInterface .. | .removeInterface .. | .invoke .. => true

theorem addInterface_routers {info interface : Json} {b' : Backend} {ids' : IdSupply}
    (h : b.addInterface ids id info = .ok (interface, b', ids')) :
    b'.routers = b.routers ∧ ids ≤ ids' := by
  cases info with
  | object entries =>
      rcases b.require_cases id with ⟨e, required, _⟩ | ⟨_, required⟩
      · simp only [addInterface, required, bind, Except.bind, pure, Except.pure] at h
        split at h <;> cases h
        · exact ⟨modify_routers fun _ => rfl, le_refl _⟩
        · exact ⟨modify_routers fun _ => rfl, ids.le_take⟩
      · simp [addInterface, required, bind, Except.bind] at h
  | _ => cases h

theorem removeInterface_routers {info interface : Json} {b' : Backend}
    (h : b.removeInterface id info = .ok (interface, b')) : b'.routers = b.routers := by
  rcases b.require_cases id with ⟨e, required, _⟩ | ⟨_, required⟩
  · simp only [removeInterface, required, bind, Except.bind, pure, Except.pure] at h
    split at h
    · cases h
    · split at h
      · cases h
        exact modify_routers fun _ => rfl
      · cases h
  · simp [removeInterface, required, bind, Except.bind] at h

theorem answer_gentle {call : Call} (gentle : call.isGentle = true) :
    (b.answer ids call).2.1.routers = b.routers := by
  cases call with
  | create | update | delete => cases gentle
  | get | list | invoke => rfl
  | addInterface id info =>
      simp only [answer]
      cases added : b.addInterface ids id info with
      | error e => rfl
      | ok result => exact (addInterface_routers added).1
  | removeInterface id info =>
      simp only [answer]
      cases removed : b.removeInterface id info with
      | error e => rfl
      | ok result => exact removeInterface_routers removed

theorem answer_ids_le (b : Backend) (call : Call) : ids ≤ (b.answer ids call).2.2 := by
  cases call with
  | create request => exact ids.le_take
  | get | list | invoke => exact le_refl _
  | update id request =>
      simp only [answer]
      cases b.update id request <;> exact le_refl _
  | delete id =>
      simp only [answer]
      cases b.delete id <;> exact le_refl _
  | removeInterface id info =>
      simp only [answer]
      cases b.removeInterface id info <;> exact le_refl _
  | addInterface id info =>
      simp only [answer]
      cases added : b.addInterface ids id info with
      | error e => exact le_refl _
      | ok result => exact (addInterface_routers added).2

/-- Every router is an old one, possibly changed, or has got its id in the call. -/
theorem answer_ids (b : Backend) (call : Call) :
    ∀ r ∈ (b.answer ids call).2.1.routers, (∃ x ∈ b.routers, x.id = r.id) ∨
      IdSupply.Issued ids (b.answer ids call).2.2 r.id := by
  intro r member
  cases call with
  | create request =>
      rcases mem_insert_routers member with rfl | inside
      · exact .inr ids.issued_take
      · exact .inl ⟨r, inside, rfl⟩
  | update id request =>
      rcases b.answer_update ids id request with ⟨old, inside, same, b', answer, routers⟩ | ⟨_, answer⟩
      · rw [answer, routers] at member
        obtain ⟨x, inside, rfl⟩ := List.mem_map.1 member
        refine .inl ⟨x, inside, ?_⟩
        split
        · rename_i hit
          exact hit.trans same.symm
        · rfl
      · rw [answer] at member
        exact .inl ⟨r, member, rfl⟩
  | delete id =>
      rcases b.answer_delete ids id with ⟨old, inside, same, b', answer, _, routers⟩ | ⟨_, answer⟩
      · rw [answer, routers] at member
        exact .inl ⟨r, (List.mem_filter.1 member).1, rfl⟩
      · rw [answer] at member
        exact .inl ⟨r, member, rfl⟩
  | get | list | addInterface | removeInterface | invoke =>
      rw [answer_gentle rfl] at member
      exact .inl ⟨r, member, rfl⟩

end Brokerage.Backend
