import Brokerage.Proofs.Interfaces
import Brokerage.Proofs.Revision
import Mathlib.Logic.Function.Basic

/-! # Interfaces over a history of calls

What was answered to a backend's calls tells which interfaces its routers have. What attaching
answered stands in turn; what detaching answered was the oldest interface that matched then, and is
gone. Calls that fail leave no trace, nor do calls on other routers.
-/

namespace Brokerage.Backend

/-! ## The account of a history -/

/-- A call and what was answered to it. -/
structure Answered where
  call : Call
  answer : Except Error call.Answer

/-- Calls and what is answered to them, one after the other. -/
def answers (s : Backend × IdSupply) : List Call → List Answered
  | [] => []
  | call :: rest =>
    let (answer, t) := s.1.answer s.2 call
    ⟨call, answer⟩ :: answers t rest

/-- The interfaces of each router, oldest first; none where no router is. -/
abbrev Attachments : Type := String → Option (List Json)

def vacant : Attachments := fun _ => none

/-- Whether a call is for the routers and interfaces that there are to change. -/
def Call.attaches : Call → Bool
  | .create _ | .delete _ | .addInterface .. | .removeInterface .. => true
  | .update .. | .get .. | .list _ | .invoke .. => false

/-- What an answered call makes of the interfaces. -/
inductive Turns : Attachments → Answered → Attachments → Prop where
  | created (m : Attachments) (request : Router.Request) (r : Router) :
    Turns m ⟨.create request, .ok r⟩ (Function.update m r.id (some []))
  | deleted {m : Attachments} {id : String} (live : (m id).isSome) :
    Turns m ⟨.delete id, .ok ()⟩ (Function.update m id none)
  | attached {m : Attachments} {id : String} {list : List Json} {v : Json} (info : Json)
    (held : m id = some list) (belongs : Belongs id v) :
    Turns m ⟨.addInterface id info, .ok v⟩ (Function.update m id (some (list ++ [v])))
  | detached {m : Attachments} {id : String} {list rest : List Json} {named v : Json}
    (held : m id = some list) (chosen : Choosable named) (detaches : Detaches named v list rest) :
    Turns m ⟨.removeInterface id named, .ok v⟩ (Function.update m id (some rest))
  | refused (m : Attachments) (call : Call) (e : Error) : Turns m ⟨call, .error e⟩ m
  | passed (m : Attachments) {call : Call} (answer : Except Error call.Answer)
    (idle : call.attaches = false) : Turns m ⟨call, answer⟩ m

/-- What a history makes of the interfaces. -/
inductive Traced : Attachments → List Answered → Attachments → Prop where
  | nil (m : Attachments) : Traced m [] m
  | cons {m n o : Attachments} {x : Answered} {rest : List Answered} (turns : Turns m x n)
    (traced : Traced n rest o) : Traced m (x :: rest) o

/-- The router that an answered call is about. -/
def Answered.router? : Answered → Option String
  | ⟨.create _, .ok r⟩ => some (Router.id r)
  | ⟨.update id _, _⟩ | ⟨.get id _, _⟩ | ⟨.delete id, _⟩ => some id
  | ⟨.addInterface id _, _⟩ | ⟨.removeInterface id _, _⟩ => some id
  | ⟨.create _, .error _⟩ | ⟨.list _, _⟩ | ⟨.invoke .., _⟩ => none

variable {b b' : Backend} {ids ids' : IdSupply} {id : String} {m n o : Attachments} {x : Answered}
  {s t : Backend × IdSupply} {named removed v info : Json} {list rest : List Json} {call : Call}
  {history : List Answered}

/-- Whoever tells interfaces by what they match finds the one that is taken out. -/
theorem Detaches.found {chosen : Json → Bool} (h : Detaches named removed list rest)
    (chooses : ∀ interface, chosen interface = true ↔ Matches named interface) :
    list.find? chosen = some removed ∧ rest = list.eraseP chosen := by
  obtain ⟨front, back, rfl, rfl, passed⟩ := h.split
  have taken : chosen removed = true := (chooses removed).2 h.taken
  have others : ∀ other ∈ front, ¬ chosen other = true := by
    intro other member matched
    exact passed other member ((chooses other).1 matched)
  constructor
  · rw [List.find?_append, List.find?_eq_none.2 others, List.find?_cons_of_pos taken]
    rfl
  · rw [List.eraseP_append_right _ others, List.eraseP_cons_of_pos taken]

theorem Detaches.sublist (h : Detaches named removed list rest) : rest.Sublist list := by
  obtain ⟨front, back, rfl, rfl, -⟩ := h.split
  exact (List.sublist_cons_self removed back).append_left front

theorem Detaches.unique {other : Json} {others : List Json} (h : Detaches named removed list rest)
    (h' : Detaches named other list others) : other = removed ∧ others = rest := by
  obtain ⟨found, rfl⟩ := h.found fun _ => matches_iff
  obtain ⟨found', rfl⟩ := h'.found fun _ => matches_iff
  rw [found, Option.some.injEq] at found'
  exact ⟨found'.symm, rfl⟩

theorem Turns.unique (h : Turns m x n) (h' : Turns m x o) : o = n := by
  cases h with
  | created =>
      cases h' with
      | created => rfl
      | passed _ idle => cases idle
  | deleted =>
      cases h' with
      | deleted => rfl
      | passed _ idle => cases idle
  | attached _ held =>
      cases h' with
      | attached _ held' =>
          rw [held, Option.some.injEq] at held'
          rw [held']
      | passed _ idle => cases idle
  | detached held _ detaches =>
      cases h' with
      | detached held' _ detaches' =>
          rw [held, Option.some.injEq] at held'
          subst held'
          rw [(detaches.unique detaches').2]
      | passed _ idle => cases idle
  | refused =>
      cases h' with
      | refused | passed => rfl
  | passed _ idle =>
      cases h' with
      | created | deleted | attached | detached => cases idle
      | refused | passed => rfl

theorem Traced.unique (h : Traced m history n) (h' : Traced m history o) : o = n := by
  induction h with
  | nil =>
      cases h'
      rfl
  | cons turns _ ih =>
      cases h' with
      | cons turns' traced =>
          rw [turns.unique turns'] at traced
          exact ih traced

/-- A call leaves the interfaces of all routers but its own alone. -/
theorem Turns.apart (h : Turns m x n) (apart : x.router? ≠ some id) : n id = m id := by
  have other {k : String} (named : x.router? = some k) : id ≠ k := by
    rintro rfl
    exact apart named
  cases h with
  | created request r => exact Function.update_of_ne (other rfl) _ _
  | deleted | attached | detached => exact Function.update_of_ne (other rfl) _ _
  | refused | passed => rfl

/-- All interfaces are those of their routers. -/
def AllBelong (m : Attachments) : Prop := ∀ id list, m id = some list → ∀ v ∈ list, Belongs id v

theorem allBelong_update {ending : Option (List Json)} (h : AllBelong m)
    (belong : ∀ list, ending = some list → ∀ v ∈ list, Belongs id v) :
    AllBelong (Function.update m id ending) := by
  intro other list held
  by_cases here : other = id
  · subst here
    rw [Function.update_self] at held
    exact belong list held
  · rw [Function.update_of_ne here] at held
    exact h other list held

theorem Turns.allBelong (h : Turns m x n) (before : AllBelong m) : AllBelong n := by
  cases h with
  | created | deleted => exact allBelong_update before (by simp)
  | attached info held belongs =>
      apply allBelong_update before
      intro list same v member
      cases same
      cases List.mem_append.1 member with
      | inl old => exact before _ _ held v old
      | inr new => rwa [List.mem_singleton.1 new]
  | detached held chosen detaches =>
      apply allBelong_update before
      intro list same v member
      cases same
      exact before _ _ held v (detaches.sublist.subset member)
  | refused | passed => exact before

theorem Traced.allBelong (h : Traced m history n) (before : AllBelong m) : AllBelong n := by
  induction h with
  | nil => exact before
  | cons turns _ ih => exact ih (turns.allBelong before)

/-! ## What a backend holds -/

/-- The interfaces that a backend holds. -/
def attachments (b : Backend) : Attachments := fun id => (b.find? id).map (·.interfaces)

theorem attachments_of_find? (found : b.find? id = some e) :
    b.attachments id = some e.interfaces := by
  rw [attachments, found]
  rfl

theorem attachments_isSome (b : Backend) (id : String) :
    (b.attachments id).isSome ↔ ∃ r ∈ b.routers, r.id = id := by
  simp [attachments, find?, routers]

theorem attachments_modify {f : Entry → Entry} (found : b.find? id = some e)
    (same : ∀ x, x.router.id = id → (f x).router.id = id) :
    (b.modify id f).attachments = Function.update b.attachments id (some (f e).interfaces) := by
  funext other
  rw [attachments, find?_modify same]
  by_cases here : other = id
  · subst here
    rw [Function.update_self, found, Option.map_some, if_pos (find?_some found).2]
    rfl
  · rw [Function.update_of_ne here, attachments, Option.map_map]
    cases apart : b.find? other with
    | none => rfl
    | some x =>
        have named : ¬ x.router.id = id := by
          rw [(find?_some apart).2]
          exact here
        simp [named]

theorem attachments_withInterfaces (found : b.find? id = some e) (list : List Json) :
    (b.withInterfaces id list).attachments = Function.update b.attachments id (some list) :=
  attachments_modify found fun _ same => same

theorem attachments_withRouter {r : Router} (found : b.find? id = some e) (same : r.id = id) :
    (b.withRouter id r).attachments = b.attachments := by
  rw [withRouter, attachments_modify found fun _ _ => same, ← attachments_of_find? found,
    Function.update_eq_self]

theorem attachments_insert (b : Backend) (r : Router) :
    (b.insert r).attachments = Function.update b.attachments r.id (some []) := by
  cases found : b.find? r.id with
  | some e =>
      have replaced : b.insert r = b.modify r.id fun _ => ⟨r, []⟩ := by
        rw [insert, found]
        rfl
      rw [replaced, attachments_modify found fun _ _ => rfl]
  | none =>
      have added : b.insert r = { b with entries := b.entries ++ [⟨r, []⟩] } := by
        rw [insert, found]
        rfl
      funext other
      rw [added, attachments, find?, List.find?_append, ← find?]
      by_cases here : other = r.id
      · subst here
        rw [Function.update_self, found]
        simp
      · rw [Function.update_of_ne here, attachments]
        simp [Ne.symm here]

/-- The router of an id is taken out. -/
def without (b : Backend) (id : String) : Backend :=
  { b with entries := b.entries.filter (·.router.id != id) }

theorem attachments_without (b : Backend) (id : String) :
    (b.without id).attachments = Function.update b.attachments id none := by
  funext other
  rw [attachments, without, find?, List.find?_filter]
  by_cases here : other = id
  · subst here
    rw [Function.update_self, Option.map_eq_none_iff, List.find?_eq_none]
    simp
  · rw [Function.update_of_ne here, attachments, find?]
    congr 2
    funext e
    by_cases same : e.router.id = other
    · simp [same, here]
    · simp [same]

theorem answer_delete_found (found : b.find? id = some e) (ids : IdSupply) :
    b.answer ids (.delete id) = (.ok (), b.without id, ids) := by
  simp only [answer, delete, require, found]
  rfl

theorem answer_delete_missing (missing : b.find? id = none) (ids : IdSupply) :
    b.answer ids (.delete id) = (.error (.routerNotFound b.name id), b, ids) := by
  simp only [answer, delete, require, missing]
  rfl

/-! ## What a call does -/

/-- What an answered call makes of a backend. -/
inductive Does : Backend × IdSupply → Answered → Backend × IdSupply → Prop where
  | created (b : Backend) (ids ids' : IdSupply) (request : Router.Request) (r : Router) :
    Does (b, ids) ⟨.create request, .ok r⟩ (b.insert r, ids')
  | updated {b : Backend} {id : String} {e : Entry} {r : Router} (ids : IdSupply)
    (request : Router.Request) (found : b.find? id = some e) (same : r.id = id) :
    Does (b, ids) ⟨.update id request, .ok r⟩ (b.withRouter id r, ids)
  | deleted {b : Backend} {id : String} {e : Entry} (ids : IdSupply) (found : b.find? id = some e) :
    Does (b, ids) ⟨.delete id, .ok ()⟩ (b.without id, ids)
  | attached {b : Backend} {id : String} {e : Entry} {v : Json} (ids ids' : IdSupply)
    (entries : List (String × Json)) (found : b.find? id = some e) (belongs : Belongs id v) :
    Does (b, ids) ⟨.addInterface id (.object entries), .ok v⟩
      (b.withInterfaces id (e.interfaces ++ [v]), ids')
  | detached {b : Backend} {id : String} {e : Entry} {named v : Json} {rest : List Json}
    (ids : IdSupply) (found : b.find? id = some e) (chosen : Choosable named)
    (detaches : Detaches named v e.interfaces rest) :
    Does (b, ids) ⟨.removeInterface id named, .ok v⟩ (b.withInterfaces id rest, ids)
  | refused (s : Backend × IdSupply) (call : Call) (e : Error) : Does s ⟨call, .error e⟩ s
  | passed (s : Backend × IdSupply) {call : Call} (answer : Except Error call.Answer)
    (idle : call.attaches = false) (gentle : call.isGentle = true) : Does s ⟨call, answer⟩ s

theorem does_answer {answered : Except Error call.Answer}
    (answer : b.answer ids call = (answered, t)) (does : Does (b, ids) ⟨call, answered⟩ t) :
    Does (b, ids) ⟨call, (b.answer ids call).1⟩ (b.answer ids call).2 := by
  rwa [answer]

theorem Keyed.does (keyed : b.Keyed) (ids : IdSupply) (call : Call) :
    Does (b, ids) ⟨call, (b.answer ids call).1⟩ (b.answer ids call).2 := by
  cases call with
  | create request => exact .created b ids _ request _
  | update id request =>
      cases found : b.find? id with
      | some e =>
          have same : (e.router.update request).id = id := (find?_some found).2
          exact does_answer (answer_update_found found ids request) (.updated ids request found same)
      | none => exact does_answer (answer_update_missing found ids request) (.refused ..)
  | delete id =>
      cases found : b.find? id with
      | some e => exact does_answer (answer_delete_found found ids) (.deleted ids found)
      | none => exact does_answer (answer_delete_missing found ids) (.refused ..)
  | addInterface id info =>
      obtain ⟨entries, e, v, ids', rfl, found, belongs, answer⟩ | ⟨-, answer⟩ | ⟨-, answer⟩ :=
        b.addInterface_cases ids id info
      · rw [keyed.modify_eq found (· ++ [v])] at answer
        exact does_answer answer (.attached ids ids' entries found belongs)
      · exact does_answer answer (.refused ..)
      · exact does_answer answer (.refused ..)
  | removeInterface id named =>
      cases found : b.find? id with
      | some e =>
          obtain ⟨chosen, removed, rest, detaches, answer⟩ | ⟨-, -, answer⟩ | ⟨-, answer⟩ :=
            answer_removeInterface keyed (interfaces_of_find? found) named ids
          · exact does_answer answer (.detached ids found chosen detaches)
          · exact does_answer answer (.refused ..)
          · exact does_answer answer (.refused ..)
      | none => exact does_answer (answer_removeInterface_missing found ids named) (.refused ..)
  | get | list | invoke => exact .passed _ _ rfl rfl

/-- The answer to a call tells what it does to the interfaces. -/
theorem Does.turns (h : Does s x t) : Turns s.1.attachments x t.1.attachments := by
  cases h with
  | created b ids ids' request r =>
      rw [attachments_insert]
      exact .created _ request r
  | updated ids request found same =>
      rw [attachments_withRouter found same]
      exact .passed _ _ rfl
  | deleted ids found =>
      rw [attachments_without]
      exact .deleted (by rw [attachments_of_find? found]; rfl)
  | attached ids ids' entries found belongs =>
      rw [attachments_withInterfaces found]
      exact .attached _ (attachments_of_find? found) belongs
  | detached ids found chosen detaches =>
      rw [attachments_withInterfaces found]
      exact .detached (attachments_of_find? found) chosen detaches
  | refused s call e => exact .refused ..
  | passed s answer idle => exact .passed _ _ idle

/-- Calls change neither a backend's name nor what it knows. -/
theorem Does.identity (h : Does s x t) : t.1.name = s.1.name ∧ t.1.extended = s.1.extended := by
  cases h with
  | created b =>
      unfold insert
      split <;> exact ⟨rfl, rfl⟩
  | updated | deleted | attached | detached | refused | passed => exact ⟨rfl, rfl⟩

theorem Does.refused_same {e : Error} (h : Does s ⟨call, .error e⟩ t) : t = s := by
  cases h with
  | refused | passed => rfl

/-- The answers to calls tell which interfaces there are after them. -/
theorem Keyed.traced (keyed : s.1.Keyed) (calls : List Call) :
    Traced s.1.attachments (answers s calls) (Backend.after s calls).1.attachments := by
  induction calls generalizing s with
  | nil => exact .nil _
  | cons call rest ih => exact .cons (keyed.does s.2 call).turns (ih (keyed.answer s.2 call))

/-! ## What is seen of a backend -/

/-- Ask for the interfaces of a router. -/
def askInterfaces (s : Backend × IdSupply) (id : String) : Except Error Json × Backend × IdSupply :=
  s.1.answer s.2 (.invoke "get_router_interfaces" (.ofFields [("router_id", .string id)]))

/-- A backend shows the interfaces of an account and no others: whoever asks for those of a router
gets them, and what a call does to them is told by its answer. -/
structure Shows (s : Backend × IdSupply) (m : Attachments) : Prop where
  live : ∀ id, (m id).isSome ↔ ∃ r ∈ s.1.routers, r.id = id
  listed : ∀ id list, m id = some list → askInterfaces s id = (.ok (.array list), s)
  unlisted : ∀ id, m id = none → askInterfaces s id = (.error (.routerNotFound s.1.name id), s)
  belong : AllBelong m
  /-- Every object is attached to a router that is there, and nothing else is. -/
  attached : ∀ id info, (∃ v t, s.1.answer s.2 (.addInterface id info) = (.ok v, t)) ↔
    (∃ entries, info = .object entries) ∧ (m id).isSome
  /-- Whatever names and matches an interface of a router detaches one, and nothing else does. -/
  detached : ∀ id named, (∃ v t, s.1.answer s.2 (.removeInterface id named) = (.ok v, t)) ↔
    Choosable named ∧ ∃ list, m id = some list ∧ ∃ interface ∈ list, Matches named interface
  refused : ∀ call e t, s.1.answer s.2 call = (.error e, t) → t = s
  apart : ∀ call id, Answered.router? ⟨call, (s.1.answer s.2 call).1⟩ ≠ some id →
    (askInterfaces (s.1.answer s.2 call).2 id).1 = (askInterfaces s id).1

theorem after_extended (keyed : s.1.Keyed) (calls : List Call) :
    (after s calls).1.extended = s.1.extended := by
  induction calls generalizing s with
  | nil => rfl
  | cons call rest ih =>
      have step := (keyed.does s.2 call).identity.2
      exact (ih (keyed.answer s.2 call)).trans step

theorem askInterfaces_eq (extended : s.1.extended = true) (id : String) :
    askInterfaces s id = ((s.1.interfaces id).map .array, s) := by
  simp only [askInterfaces, answer, invoke, extended]
  rfl

theorem askInterfaces_attachments (extended : s.1.extended = true) (id : String) :
    askInterfaces s id = (match s.1.attachments id with
      | some list => (.ok (.array list), s)
      | none => (.error (.routerNotFound s.1.name id), s)) := by
  rw [askInterfaces_eq extended, interfaces, require, attachments]
  cases s.1.find? id with
  | some e => rfl
  | none => rfl

theorem unanswered {e : Error} (refused : b.answer ids call = (.error e, s)) :
    ¬ ∃ v t, b.answer ids call = (.ok v, t) := by
  rintro ⟨v, t, answered⟩
  cases refused.symm.trans answered

theorem attachable (b : Backend) (ids : IdSupply) (id : String) (info : Json) :
    (∃ v t, b.answer ids (.addInterface id info) = (.ok v, t)) ↔
      (∃ entries, info = .object entries) ∧ (b.attachments id).isSome := by
  obtain ⟨entries, e, v, ids', rfl, found, -, answer⟩ | ⟨shapeless, answer⟩ | ⟨missing, answer⟩ :=
    b.addInterface_cases ids id info
  · rw [attachments_of_find? found]
    exact iff_of_true ⟨v, _, answer⟩ ⟨⟨entries, rfl⟩, rfl⟩
  · apply iff_of_false (unanswered answer)
    rintro ⟨⟨entries, same⟩, -⟩
    exact shapeless entries same
  · apply iff_of_false (unanswered answer)
    rintro ⟨-, live⟩
    rw [attachments, missing] at live
    cases live

theorem Keyed.detachable (keyed : b.Keyed) (ids : IdSupply) (id : String) (named : Json) :
    (∃ v t, b.answer ids (.removeInterface id named) = (.ok v, t)) ↔ Choosable named ∧
      ∃ list, b.attachments id = some list ∧ ∃ interface ∈ list, Matches named interface := by
  cases found : b.find? id with
  | some e =>
      rw [attachments_of_find? found]
      obtain ⟨chosen, removed, rest, detaches, answer⟩ | ⟨-, none, answer⟩ | ⟨nameless, answer⟩ :=
        answer_removeInterface keyed (interfaces_of_find? found) named ids
      · obtain ⟨front, back, split, -⟩ := detaches.split
        have member : removed ∈ e.interfaces := by simp [split]
        exact iff_of_true ⟨removed, _, answer⟩ ⟨chosen, _, rfl, removed, member, detaches.taken⟩
      · apply iff_of_false (unanswered answer)
        rintro ⟨-, list, same, interface, member, fits⟩
        cases same
        exact none interface member fits
      · apply iff_of_false (unanswered answer)
        rintro ⟨chosen, -⟩
        exact nameless chosen
  | none =>
      apply iff_of_false (unanswered (answer_removeInterface_missing found ids named))
      rintro ⟨-, list, held, -⟩
      rw [attachments, found] at held
      cases held

theorem shows (keyed : s.1.Keyed) (extended : s.1.extended = true) (belong : AllBelong s.1.attachments) :
    Shows s s.1.attachments where
  live := s.1.attachments_isSome
  listed id list held := by
    rw [askInterfaces_attachments extended, held]
  unlisted id missing := by
    rw [askInterfaces_attachments extended, missing]
  belong := belong
  attached := s.1.attachable s.2
  detached := keyed.detachable s.2
  refused call e t answer := by
    have does := keyed.does s.2 call
    rw [answer] at does
    exact does.refused_same
  apart call id apart := by
    have does := keyed.does s.2 call
    obtain ⟨name, kept⟩ := does.identity
    rw [askInterfaces_attachments extended, askInterfaces_attachments (kept.trans extended),
      does.turns.apart apart, name]
    cases s.1.attachments id with
    | some list => rfl
    | none => rfl

/-- Whatever a backend is asked to do, the answers tell in one way which interfaces its routers
have, and it shows just these. -/
theorem interfaces_traced (name : String) (ids : IdSupply) (calls : List Call) :
    ∃ m, Traced vacant (answers (new name, ids) calls) m ∧
      (∀ o, Traced vacant (answers (new name, ids) calls) o → o = m) ∧
      Shows (after (new name, ids) calls) m := by
  let s : Backend × IdSupply := (new name, ids)
  have fresh : s.1.Keyed := keyed_new name
  have traced : Traced vacant (answers s calls) (after s calls).1.attachments := fresh.traced calls
  have belong : AllBelong vacant := nofun
  refine ⟨_, traced, fun o other => traced.unique other, ?_⟩
  exact shows (fresh.after calls) (after_extended fresh calls) (traced.allBelong belong)

end Brokerage.Backend
