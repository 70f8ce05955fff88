import Brokerage.Proofs.Paging

/-! # Interfaces of a router

Attaching puts an interface behind the others of its router; detaching takes the oldest one that
has the chosen port and subnet out of them. What attaching answers chooses an interface to detach
unless its port is `null` and no subnet is given (`Backend.attached_detachable`): such an interface
counts as having a port, and yet no port chooses it.
-/

namespace Brokerage

namespace Number

theorem same_refl (n : Number) : n.same n = true := by
  cases n with
  | integer value => exact beq_self_eq_true value
  | float value => simp [same, Binary64.same]

end Number

namespace Json

mutual

theorem same_refl (v : Json) : v.same v = true := by
  cases v with
  | null => rfl
  | bool value => exact beq_self_eq_true value
  | number value => exact value.same_refl
  | string value => exact beq_self_eq_true value
  | array items => exact sameItems_refl items
  | object entries => exact sameEntries_refl entries

theorem sameItems_refl (items : List Json) : sameItems items items = true := by
  cases items with
  | nil => rfl
  | cons v rest => rw [sameItems, same_refl v, sameItems_refl rest, Bool.and_self]

theorem sameEntries_refl (entries : List (String × Json)) :
    sameEntries entries entries = true := by
  cases entries with
  | nil => rfl
  | cons e rest =>
      obtain ⟨key, v⟩ := e
      rw [sameEntries, same_refl v, sameEntries_refl rest, beq_self_eq_true]
      rfl

end

end Json

namespace Backend

variable {b b' : Backend} {ids ids' : IdSupply} {id : String} {info named interface v : Json}
  {list : List Json} {e : Entry}

/-! ## The interfaces that a router has -/

/-- The interfaces of one router are replaced. -/
def withInterfaces (b : Backend) (id : String) (list : List Json) : Backend :=
  b.modify id fun e => { e with interfaces := list }

theorem interfaces_cases (b : Backend) (id : String) :
    (∃ e, b.find? id = some e ∧ b.require id = .ok e ∧ b.interfaces id = .ok e.interfaces) ∨
      b.require id = .error (.routerNotFound b.name id) ∧
        b.interfaces id = .error (.routerNotFound b.name id) := by
  simp only [interfaces, require]
  cases b.find? id with
  | none => exact .inr ⟨rfl, rfl⟩
  | some e => exact .inl ⟨e, rfl, rfl, rfl⟩

theorem interfaces_of_find? (found : b.find? id = some e) : b.interfaces id = .ok e.interfaces := by
  simp only [interfaces, require, found]
  rfl

theorem Keyed.entry_unique (keyed : b.Keyed) (found : b.find? id = some e) {x : Entry}
    (member : x ∈ b.entries) (same : x.router.id = id) : x = e := by
  have distinct : (b.entries.map fun x => x.router.id).Nodup := by
    rw [Keyed, routers, List.map_map] at keyed
    exact keyed
  exact List.inj_on_of_nodup_map distinct member (List.mem_of_find?_eq_some found)
    (same.trans (find?_some found).2.symm)

/-- A change of a router's interfaces is known by what it makes of those that are there. -/
theorem Keyed.modify_eq (keyed : b.Keyed) (found : b.find? id = some e)
    (f : List Json → List Json) :
    b.modify id (fun x => { x with interfaces := f x.interfaces }) =
      b.withInterfaces id (f e.interfaces) := by
  unfold withInterfaces modify
  congr 1
  apply List.map_congr_left
  intro x member
  split
  · rename_i same
    rw [keyed.entry_unique found member same]
  · rfl

theorem find?_withInterfaces (found : b.find? id = some e) (list : List Json) :
    (b.withInterfaces id list).find? id = some { e with interfaces := list } := by
  have moved := find?_modify (b := b) (f := ({ · with interfaces := list }))
    (fun _ (same : _ = id) => same) id
  rw [found, Option.map_some, if_pos (find?_some found).2] at moved
  exact moved

theorem interfaces_withInterfaces (held : b.interfaces id = .ok list) (others : List Json) :
    (b.withInterfaces id others).interfaces id = .ok others := by
  rcases b.interfaces_cases id with ⟨e, found, -⟩ | ⟨-, missing⟩
  · rw [interfaces, require, find?_withInterfaces found]
    rfl
  · rw [missing] at held
    cases held

theorem withInterfaces_twice (b : Backend) (id : String) (list others : List Json) :
    (b.withInterfaces id list).withInterfaces id others = b.withInterfaces id others :=
  modify_modify fun _ same => same

theorem Keyed.withInterfaces (keyed : b.Keyed) (id : String) (list : List Json) :
    (b.withInterfaces id list).Keyed := by
  have kept : (b.withInterfaces id list).routers = b.routers := modify_routers fun _ => rfl
  rwa [Keyed, kept]

/-! ## The interface that is chosen -/

/-- The fields by which interfaces are told apart. -/
def choiceKeys : List String := [portKey, subnetKey]

/-- An interface names a value for one of the fields that choose. -/
def Choosable (named : Json) : Prop :=
  ∃ key ∈ choiceKeys, ∃ value, named.field? key = some value ∧ value ≠ .null

/-- An interface has all the values that are named. -/
def Matches (named interface : Json) : Prop :=
  ∀ key ∈ choiceKeys, ∀ value, named.field? key = some value → value ≠ .null →
    ∃ own, interface.field? key = some own ∧ own.same value = true

theorem matches_self (named : Json) : Matches named named :=
  fun _ _ value found _ => ⟨value, found, value.same_refl⟩

theorem selector_eq_some {key : String} {value : Json} :
    selector named key = some value ↔ named.field? key = some value ∧ value ≠ .null := by
  have null : value.isNull = false ↔ value ≠ .null := by cases value <;> simp [Json.isNull]
  simp [selector, Option.filter_eq_some_iff, null]

theorem agrees_iff {key : String} {chosen : Option Json} : agrees key chosen interface = true ↔
    ∀ value, chosen = some value →
      ∃ own, interface.field? key = some own ∧ own.same value = true := by
  cases chosen with
  | none => simp [agrees]
  | some value =>
      cases held : interface.field? key <;> simp [agrees, held]

theorem matches_iff : (agrees portKey (selector named portKey) interface &&
    agrees subnetKey (selector named subnetKey) interface) = true ↔ Matches named interface := by
  simp only [Bool.and_eq_true, agrees_iff, selector_eq_some, Matches, choiceKeys, List.mem_cons,
    List.not_mem_nil, or_false, forall_eq_or_imp, forall_eq, and_imp]

theorem choosable_iff : ((selector named portKey).isNone && (selector named subnetKey).isNone) =
    false ↔ Choosable named := by
  simp only [Choosable, choiceKeys, List.mem_cons, List.not_mem_nil, or_false, exists_eq_or_imp,
    exists_eq_left, ← selector_eq_some, Bool.and_eq_false_iff, Option.isNone_eq_false_iff,
    Option.isSome_iff_exists]

/-- The oldest interface that matches is taken out of a list. -/
structure Detaches (named removed : Json) (list rest : List Json) : Prop where
  taken : Matches named removed
  split : ∃ front back, list = front ++ removed :: back ∧ rest = front ++ back ∧
    ∀ other ∈ front, ¬ Matches named other

theorem Detaches.length {removed : Json} {rest : List Json} (h : Detaches named removed list rest) :
    list.length = rest.length + 1 := by
  obtain ⟨front, back, rfl, rfl, -⟩ := h.split
  simp [Nat.add_assoc]

/-- The first interface that is found to match is the one that is taken out. -/
theorem detaches_of_find? {chosen : Json → Bool} {removed : Json}
    (chooses : ∀ interface, chosen interface = true ↔ Matches named interface)
    (found : list.find? chosen = some removed) :
    Detaches named removed list (list.eraseP chosen) := by
  obtain ⟨taken, front, back, rfl, passed⟩ := List.find?_eq_some_iff_append.1 found
  have others : ∀ other ∈ front, ¬ chosen other = true := by
    intro other member
    simpa using passed other member
  refine ⟨(chooses removed).1 taken, front, back, rfl, ?_, ?_⟩
  · rw [List.eraseP_append_right _ others, List.eraseP_cons_of_pos taken]
  · intro other member matched
    exact others other member ((chooses other).2 matched)

/-! ## Calls -/

/-- An interface is an object with the id of its router and a port. -/
structure Belongs (id : String) (v : Json) : Prop where
  object : ∃ entries, v = .object entries
  id : v.field? "id" = some (.string id)
  port : (v.field? portKey).isSome

theorem belongs_insert {d : Dict Json} (ported : (d.get? portKey).isSome) (id : String) :
    Belongs id (.ofDict (d.insert "id" (.string id))) where
  object := ⟨_, rfl⟩
  id := by
    change (d.insert "id" (.string id)).get? "id" = _
    rw [Dict.get?_insert, if_pos rfl]
  port := by
    change ((d.insert "id" (.string id)).get? portKey).isSome
    rwa [Dict.get?_insert, if_neg (by decide)]

/-- What is attached stands behind all others. Whatever is no object is refused, and so is every
interface for a router that is not there. -/
theorem addInterface_cases (b : Backend) (ids : IdSupply) (id : String) (info : Json) :
    (∃ entries e v ids', info = .object entries ∧ b.find? id = some e ∧ Belongs id v ∧
      b.answer ids (.addInterface id info) =
        (.ok v, b.modify id fun x => { x with interfaces := x.interfaces ++ [v] }, ids')) ∨
    ((∀ entries, info ≠ .object entries) ∧ b.answer ids (.addInterface id info) =
      (.error (b.refuse "add_router_interface" "interface info must be an object"), b, ids)) ∨
    (b.find? id = none ∧
      b.answer ids (.addInterface id info) = (.error (.routerNotFound b.name id), b, ids)) := by
  cases info with
  | object entries =>
      cases found : b.find? id with
      | none =>
          refine .inr (.inr ⟨rfl, ?_⟩)
          simp only [answer, addInterface, require, found]
          rfl
      | some e =>
          simp only [answer, addInterface, require, found, bind, Except.bind, pure, Except.pure]
          generalize ready : (if (Dict.ofList entries).contains portKey = true then _ else _) = fields
          have ported : (fields.1.get? portKey).isSome := by
            rw [← ready]
            split
            · assumption
            · simp
          exact .inl ⟨entries, e, _, fields.2, rfl, rfl, belongs_insert ported id, rfl⟩
  | null | bool | number | string | array => exact .inr (.inl ⟨by simp, rfl⟩)

/-- What is attached has a port, possibly `null`, and stands behind all others. -/
theorem answer_addInterface (keyed : b.Keyed)
    (added : b.answer ids (.addInterface id info) = (.ok v, b', ids')) :
    ∃ list, b.interfaces id = .ok list ∧ b' = b.withInterfaces id (list ++ [v]) ∧
      (v.field? portKey).isSome := by
  rcases b.addInterface_cases ids id info with
    ⟨entries, e, w, left, -, found, belongs, answer⟩ | ⟨-, answer⟩ | ⟨-, answer⟩
  · rw [answer] at added
    cases added
    exact ⟨e.interfaces, interfaces_of_find? found, keyed.modify_eq found (· ++ [v]), belongs.port⟩
  · rw [answer] at added
    cases added
  · rw [answer] at added
    cases added

/-- What is detached is chosen by what is named, the oldest interface first; a call that names
nothing or does not match is refused. -/
theorem answer_removeInterface (keyed : b.Keyed) (held : b.interfaces id = .ok list)
    (named : Json) (ids : IdSupply) :
    (Choosable named ∧ ∃ removed rest, Detaches named removed list rest ∧
      b.answer ids (.removeInterface id named) = (.ok removed, b.withInterfaces id rest, ids)) ∨
    (Choosable named ∧ (∀ interface ∈ list, ¬ Matches named interface) ∧
      b.answer ids (.removeInterface id named) = (.error (b.refuse "remove_router_interface"
        ("no matching interface on router " ++ id)), b, ids)) ∨
    (¬ Choosable named ∧ b.answer ids (.removeInterface id named) =
      (.error (b.refuse "remove_router_interface" "either port_id or subnet_id is required"),
        b, ids)) := by
  rcases b.interfaces_cases id with ⟨e, found, required, known⟩ | ⟨-, missing⟩
  · rw [known] at held
    cases held
    simp only [answer, removeInterface, required, bind, Except.bind, pure, Except.pure]
    by_cases names : Choosable named
    · rw [choosable_iff.2 names]
      simp only [Bool.false_eq_true, if_false]
      cases hit : e.interfaces.find? fun interface =>
          agrees portKey (selector named portKey) interface &&
            agrees subnetKey (selector named subnetKey) interface with
      | none =>
          refine .inr (.inl ⟨names, ?_, rfl⟩)
          intro interface member matched
          exact List.find?_eq_none.1 hit interface member (matches_iff.2 matched)
      | some removed =>
          refine .inl ⟨names, removed, _, detaches_of_find? (fun _ => matches_iff) hit, ?_⟩
          rw [← keyed.modify_eq found]
    · have none := mt choosable_iff.1 names
      rw [Bool.not_eq_false] at none
      rw [none]
      exact .inr (.inr ⟨names, rfl⟩)
  · rw [missing] at held
    cases held

theorem answer_removeInterface_missing (missing : b.find? id = none) (ids : IdSupply)
    (named : Json) : b.answer ids (.removeInterface id named) =
      (.error (.routerNotFound b.name id), b, ids) := by
  simp only [answer, removeInterface, require, missing]
  rfl

/-- What attaching answers can be given to detach: it takes out one interface that has its port and
its subnet, and all else is as before. Only where the port is `null` and no subnet is given there is
nothing to choose by, and the interface stays. -/
theorem attached_detachable (keyed : b.Keyed)
    (added : b.answer ids (.addInterface id info) = (.ok v, b', ids')) :
    ∃ list, b.interfaces id = .ok list ∧ b' = b.withInterfaces id (list ++ [v]) ∧
      ((Choosable v ∧ ∃ removed rest,
        Detaches v removed (list ++ [v]) rest ∧ rest.length = list.length ∧
        b'.answer ids' (.removeInterface id v) = (.ok removed, b.withInterfaces id rest, ids')) ∨
      (¬ Choosable v ∧ v.field? portKey = some .null ∧
        b'.answer ids' (.removeInterface id v) = (.error (b.refuse "remove_router_interface"
          "either port_id or subnet_id is required"), b', ids'))) := by
  obtain ⟨list, held, rfl, ported⟩ := answer_addInterface keyed added
  refine ⟨list, held, rfl, ?_⟩
  have now := interfaces_withInterfaces held (list ++ [v])
  rcases answer_removeInterface (keyed.withInterfaces id _) now v ids' with
    ⟨names, removed, rest, detaches, answer⟩ | ⟨-, unmatched, -⟩ | ⟨nameless, answer⟩
  · have length := detaches.length
    rw [List.length_append, List.length_singleton, Nat.add_right_cancel_iff] at length
    rw [withInterfaces_twice] at answer
    exact .inl ⟨names, removed, rest, detaches, length.symm, answer⟩
  · exact absurd (matches_self v) (unmatched v (by simp))
  · obtain ⟨port, given⟩ := Option.isSome_iff_exists.1 ported
    have null : port = .null := by
      by_contra other
      exact nameless ⟨portKey, by simp [choiceKeys], port, given, other⟩
    exact .inr ⟨nameless, null ▸ given, answer⟩

/-- A backend with one router. -/
def solitary : Backend × IdSupply := after (new "edge", ⟨0⟩) [.create .empty]

/-- The interface of port `p` that is attached to the router when none but the port is given. -/
def plainPort : Json := .ofFields [("id", .string (IdSupply.name 0)), (portKey, .string "p")]

/-- Of two interfaces of one port the older one is detached, whichever was attached last. -/
theorem older_twin_detached :
    let router := IdSupply.name 0
    let older : Json := .ofFields [(portKey, .string "p"), (subnetKey, .string "s")]
    let s := after solitary [.addInterface router older]
    let t := s.1.answer s.2 (.addInterface router (.ofFields [(portKey, .string "p")]))
    s.1.Keyed ∧ t = (.ok plainPort, t.2.1, t.2.2) ∧
      (∃ list, s.1.interfaces router = .ok list ∧ ∃ removed rest,
        Detaches plainPort removed (list ++ [plainPort]) rest ∧ rest.length = list.length ∧
        t.2.1.answer t.2.2 (.removeInterface router plainPort) =
          (.ok removed, s.1.withInterfaces router rest, t.2.2)) ∧
      (t.2.1.answer t.2.2 (.removeInterface router plainPort)).2.1.interfaces router =
        .ok [plainPort] := by
  intro router older s t
  have keyed : s.1.Keyed := Keyed.after (Keyed.after (keyed_new "edge") _) _
  have added : t = (.ok plainPort, t.2.1, t.2.2) := rfl
  refine ⟨keyed, added, ?_, rfl⟩
  obtain ⟨list, held, -, ⟨-, removed, rest, detached⟩ | ⟨nameless, -⟩⟩ :=
    attached_detachable keyed added
  · exact ⟨list, held, removed, rest, detached⟩
  · exact absurd ⟨portKey, .head _, .string "p", rfl, nofun⟩ nameless

/-- An interface whose port is `null` cannot be detached with what attaching it answered. -/
theorem null_port_kept :
    let router := IdSupply.name 0
    let v : Json := .ofFields [("id", .string router), (portKey, .null)]
    let t := solitary.1.answer solitary.2 (.addInterface router (.object [(portKey, .null)]))
    t.1 = .ok v ∧
      (t.2.1.answer t.2.2 (.removeInterface router v)).1 = .error (.backendFailed "edge"
        "remove_router_interface" "either port_id or subnet_id is required") ∧
      (t.2.1.answer t.2.2 (.removeInterface router v)).2.1.interfaces router = .ok [v] :=
  ⟨rfl, rfl, rfl⟩

end Backend
end Brokerage
