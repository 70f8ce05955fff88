import Brokerage.Proofs.Backend
import Brokerage.Proofs.Dict
import Mathlib.Data.List.Forall2

/-! # Updates put together

Two updates of a router in turn do what one update with both requests put together does, and the
same update again does nothing. An update keeps the id, the interfaces and the place of its router,
whatever attributes it brings, and leaves all other routers alone.
-/

namespace Brokerage

namespace Dict

variable {α : Type} {d other more : Dict α}

theorem join_assoc (d other more : Dict α) : (d.join other).join more = d.join (other.join more) := by
  apply ext_get?
  intro key
  simp only [get?_join]
  cases more.get? key <;> rfl

theorem join_again (d other : Dict α) : (d.join other).join other = d.join other := by
  apply ext_get?
  intro key
  simp only [get?_join]
  cases other.get? key <;> rfl

theorem restrict_join (d other : Dict α) (keep : String → Bool) :
    (d.join other).restrict keep = (d.restrict keep).join (other.restrict keep) := by
  apply ext_get?
  intro key
  simp only [get?_join, get?_restrict]
  split <;> rfl

theorem eq_join (h : ∀ key, d.get? key = (more.get? key <|> other.get? key)) : d = other.join more := by
  apply ext_get?
  intro key
  rw [get?_join, h key]

end Dict

namespace Router

variable {r : Router} {request first second both : Request}

/-- One request asks for what two ask for one after the other: the later name if it gives one, and
the entries of both, the later value where both have a key. -/
structure Request.Combines (first second both : Request) : Prop where
  name : both.name = if second.name.isSome then second.name else first.name
  metadata : ∀ key, both.metadata.get? key = (second.metadata.get? key <|> first.metadata.get? key)
  attributes : ∀ key,
    both.attributes.get? key = (second.attributes.get? key <|> first.attributes.get? key)

def Request.join (first second : Request) : Request where
  name := if second.name.isSome then second.name else first.name
  metadata := first.metadata.join second.metadata
  attributes := first.attributes.join second.attributes

/-- Any two requests can be put together. -/
theorem Request.combines_join (first second : Request) : first.Combines second (first.join second) :=
  ⟨rfl, fun _ => Dict.get?_join, fun _ => Dict.get?_join⟩

theorem update_update (h : first.Combines second both) :
    (r.update first).update second = r.update both := by
  have name : (second.name <|> first.name <|> r.name) = (both.name <|> r.name) := by
    rw [h.name]
    cases second.name <;> rfl
  have metadata := Dict.eq_join h.metadata
  have attributes := Dict.eq_join h.attributes
  simp only [update, freeAttributes, name, metadata, attributes, Dict.join_assoc, Dict.restrict_join]

theorem update_again (r : Router) (request : Request) :
    (r.update request).update request = r.update request := by
  have name : (request.name <|> request.name <|> r.name) = (request.name <|> r.name) := by
    cases request.name <;> rfl
  simp only [update, name, Dict.join_again]

/-- What becomes of a router when a request is put over it. Attributes under the keys of a router's
own fields are left out. -/
structure Revised (old : Router) (request : Request) (new : Router) : Prop where
  id : new.id = old.id
  name : new.name = if request.name.isSome then request.name else old.name
  metadata : ∀ key, new.metadata.get? key = (request.metadata.get? key <|> old.metadata.get? key)
  free : ∀ key ∉ ["id", "name", "metadata"],
    new.attributes.get? key = (request.attributes.get? key <|> old.attributes.get? key)
  reserved : ∀ key ∈ ["id", "name", "metadata"], new.attributes.get? key = old.attributes.get? key

theorem isReserved_iff {key : String} : isReserved key = true ↔ key ∈ ["id", "name", "metadata"] := by
  simp [isReserved, or_assoc]

theorem revised_update (r : Router) (request : Request) : r.Revised request (r.update request) where
  id := rfl
  name := by
    simp only [update]
    cases request.name <;> rfl
  metadata key := Dict.get?_join
  free key apart := by
    have free : isReserved key = false := by
      rwa [← isReserved_iff, Bool.not_eq_true] at apart
    simp [update, freeAttributes, free]
  reserved key member := by
    have reserved := isReserved_iff.2 member
    simp [update, freeAttributes, reserved]

end Router

namespace Backend

variable {b b' : Backend} {ids : IdSupply} {id : String} {e : Entry} {r : Router}
  {request first second both : Router.Request} {answered : Except Error Router}

/-- Another router takes the place of the one with an id. -/
def withRouter (b : Backend) (id : String) (r : Router) : Backend :=
  b.modify id fun e => { e with router := r }

theorem find?_withRouter (found : b.find? id = some e) (same : r.id = id) :
    (b.withRouter id r).find? id = some { e with router := r } := by
  rw [withRouter, find?_modify (fun _ _ => same), found, Option.map_some,
    if_pos (find?_some found).2]

theorem withRouter_twice (same : r.id = id) (r' : Router) :
    (b.withRouter id r).withRouter id r' = b.withRouter id r' :=
  modify_modify fun _ _ => same

theorem answer_update_found (found : b.find? id = some e) (ids : IdSupply)
    (request : Router.Request) : b.answer ids (.update id request) =
      (.ok (e.router.update request), b.withRouter id (e.router.update request), ids) := by
  simp only [answer, update, require, found]
  rfl

theorem answer_update_missing (missing : b.find? id = none) (ids : IdSupply)
    (request : Router.Request) :
    b.answer ids (.update id request) = (.error (.routerNotFound b.name id), b, ids) := by
  simp only [answer, update, require, missing]
  rfl

/-- What an update with a request does to a backend and answers. -/
structure Updates (b : Backend) (id : String) (request : Router.Request)
    (answered : Except Error Router) (b' : Backend) : Prop where
  name : b'.name = b.name
  extended : b'.extended = b.extended
  /-- Every router keeps its place, its id and its interfaces, and those with other ids keep all. -/
  places : List.Forall₂ (fun e e' => e'.router.id = e.router.id ∧ e'.interfaces = e.interfaces ∧
    (e.router.id ≠ id → e' = e)) b.entries b'.entries
  found : ∀ e, b.find? id = some e → ∃ r, answered = .ok r ∧ e.router.Revised request r ∧
    b'.find? id = some { e with router := r }
  missing : b.find? id = none → answered = .error (.routerNotFound b.name id) ∧ b' = b

theorem updates_found (found : b.find? id = some e) (request : Router.Request) :
    b.Updates id request (.ok (e.router.update request))
      (b.withRouter id (e.router.update request)) where
  name := rfl
  extended := rfl
  places := by
    have same : (e.router.update request).id = id := (find?_some found).2
    rw [withRouter, modify, List.forall₂_map_right_iff]
    apply List.forall₂_same.2
    intro x _
    by_cases here : x.router.id = id
    · rw [if_pos here]
      exact ⟨same.trans here.symm, rfl, fun other => absurd here other⟩
    · rw [if_neg here]
      exact ⟨rfl, rfl, fun _ => rfl⟩
  found := by
    intro x other
    obtain rfl : e = x := by rwa [found, Option.some.injEq] at other
    exact ⟨_, rfl, e.router.revised_update request, find?_withRouter found (find?_some found).2⟩
  missing := by
    intro missing
    rw [found] at missing
    cases missing

theorem updates_missing (missing : b.find? id = none) (request : Router.Request) :
    b.Updates id request (.error (.routerNotFound b.name id)) b where
  name := rfl
  extended := rfl
  places := List.forall₂_same.2 fun _ _ => ⟨rfl, rfl, fun _ => rfl⟩
  found := by
    intro e found
    rw [missing] at found
    cases found
  missing _ := ⟨rfl, rfl⟩

/-- Whatever a backend holds, an update leaves all in place but what the request is for; a second
update after it does what one update with both requests does; and the same update again does
nothing. -/
theorem updates_compose (b : Backend) (ids : IdSupply) (id : String)
    (together : first.Combines second both) :
    ∃ answered b', b.answer ids (.update id first) = (answered, b', ids) ∧
      b.Updates id first answered b' ∧
      b'.answer ids (.update id second) = b.answer ids (.update id both) ∧
      b'.answer ids (.update id first) = (answered, b', ids) := by
  cases found : b.find? id with
  | none =>
      have answered := answer_update_missing found ids
      refine ⟨_, b, answered first, updates_missing found first, ?_, answered first⟩
      rw [answered second, answered both]
      rfl
  | some e =>
      have same : ∀ request, (e.router.update request).id = id := fun _ => (find?_some found).2
      have held := find?_withRouter found (same first)
      refine ⟨_, _, answer_update_found found ids first, updates_found found first, ?_, ?_⟩
      · rw [answer_update_found held, answer_update_found found, withRouter_twice (same first),
          Router.update_update together]
        rfl
      · rw [answer_update_found held, withRouter_twice (same first), Router.update_again]

/-- Two requests that clash with each other, with the router and with its own fields. -/
theorem clashing_updates_compose :
    let b := (new "edge").insert ⟨"r", none, ∅, .ofList [("mtu", .ofNat 1500)]⟩
    let first : Router.Request := ⟨none, .ofList [("zone", .string "a")],
      .ofList [("id", .string "other"), ("mtu", .ofNat 9000)]⟩
    let second : Router.Request := ⟨some "core", .ofList [("zone", .string "b")],
      .ofList [("mtu", .ofNat 4000), ("name", .null)]⟩
    let last : Router := ⟨"r", some "core", .ofList [("zone", .string "b")],
      .ofList [("mtu", .ofNat 4000)]⟩
    first.Combines second (first.join second) ∧
      ∃ answered b', b.answer ⟨0⟩ (.update "r" first) = (answered, b', ⟨0⟩) ∧
        b'.answer ⟨0⟩ (.update "r" second) = b.answer ⟨0⟩ (.update "r" (first.join second)) ∧
        (b.answer ⟨0⟩ (.update "r" (first.join second))).1 = .ok last := by
  intro b first second last
  have together := Router.Request.combines_join first second
  obtain ⟨answered, b', once, _, twice, _⟩ := updates_compose b ⟨0⟩ "r" together
  exact ⟨together, answered, b', once, twice, rfl⟩

end Backend
end Brokerage
