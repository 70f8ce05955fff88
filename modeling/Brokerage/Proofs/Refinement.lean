import Brokerage.Proofs.Hosting
import Brokerage.Proofs.OneToOne
import Brokerage.Proofs.Paging

/-! # The router interface refines its directory

When nothing goes wrong, every router is found under its id with what its directory entry says, a
listing holds exactly the routers of the directory, and operations on one router leave the answers
about the others alone.
-/

namespace Brokerage

namespace Listing

theorem page_all (routers : List Router) : page .all routers = routers := by
  rw [page, select_unsorted .all routers rfl rfl]
  exact List.map_id routers

end Listing

namespace Ledger

variable {l : Ledger} {type descriptor : String}

theorem listByType_nodup : (l.listByType type).Nodup := Dict.keys_nodup _

end Ledger

namespace Dispatch

theorem firstOfEachId_eq {routers : List Router} (distinct : (routers.map (·.id)).Nodup) :
    firstOfEachId routers = routers := by
  induction routers with
  | nil => rfl
  | cons r rest ih =>
      obtain ⟨new, distinct⟩ := List.nodup_cons.1 distinct
      rw [firstOfEachId, ih distinct]
      congr 1
      refine List.filter_eq_self.2 fun x member => ?_
      have other : x.id ≠ r.id := fun same => new (List.mem_map.2 ⟨x, member, same⟩)
      simpa using other

open Procedure (Ends)
open State

variable {registry : Registry} {seed : Pool} {base : IdSupply} {placed : List (String × Router)}
  {s : State} {ctx : Context} {descriptor id : String} {r : Router}

theorem ownerOf_placed (h : s.Mirrors registry seed base placed)
    (here : (descriptor, r) ∈ placed) :
    (ownerOf registry r.id).Keeps (Step .none) anyhow s <| Ends
      (fun owner t => owner = descriptor ∧ t.backends = s.backends) fun _ => False := by
  obtain ⟨l, ⟨booked, housed⟩, matched⟩ := h
  obtain ⟨p, _, _, coupling⟩ := booked.pool
  obtain ⟨row, member, rfl, object⟩ := matched.row_of_placed here
  obtain ⟨b, readable⟩ := (booked.proper row member).readable
  have found : l.get r.id = .ok b := by
    rw [Ledger.get_eq, ← object, coupling.sound.active?_eq member]
    exact readable
  have read : (Procedure.getBinding r.id).Keeps (Step .none) anyhow s <| Ends
      (fun got t => got = b ∧ t.backends = s.backends) fun _ => False := by
    refine .perform trivial fun o t step => ⟨trivial, ?_⟩
    obtain ⟨_, rfl | ⟨_, _, _, never, _⟩⟩ := booked.get step
    · rw [found]
      exact ⟨rfl, (step.backends_eq nofun).1⟩
    · exact never.elim
  refine .bind_sure read ?_
  rintro got t ⟨rfl, backends⟩
  have descriptor := (Ledger.toBinding_ok readable).2.2.2
  obtain ⟨name, registered⟩ := Registry.get_of_contains (booked.proper row member).registered
  rw [← descriptor] at registered
  have known : (Procedure.ofExcept (registry.get got.placement.descriptor)).Keeps (Step .none) anyhow
      t <| Ends (fun _ u => u.backends = s.backends) fun _ => False :=
    .ofExcept_ok registered trivial backends
  exact .bind_sure known fun _ u backends => .pure trivial ⟨descriptor, backends⟩

theorem get_placed (h : s.Mirrors registry seed base placed) (here : (descriptor, r) ∈ placed) :
    (get registry ctx r.id none).Keeps (Step .none) anyhow s fun o _ => o = .ok r := by
  refine .bind_sure (ownerOf_placed h here) ?_
  rintro owner t ⟨rfl, backends⟩
  obtain ⟨l, ⟨booked, housed⟩, matched⟩ := h
  refine .perform trivial fun o u step => ⟨trivial, ?_⟩
  have inside : r ∈ s.routersAt owner := housed.mem_routersAt.2 here
  rcases step.backend with ⟨b, _, known, rfl, _⟩ | ⟨_, _, _, _, missing | ⟨_, never, _⟩⟩
  · rw [backends] at known
    rw [Housed.routersAt_eq known] at inside
    rcases b.answer_get t.ids r.id none with ⟨x, member, same, answer⟩ | ⟨absent, _⟩
    · have placedHere := housed.mem_routersAt.1 (Housed.routersAt_eq known ▸ member)
      cases housed.eq_of_id placedHere here same
      rw [answer]
      rfl
    · exact absurd rfl (absent r inside)
  · rw [backends] at missing
    simp [routersAt, missing] at inside
  · exact never.elim

theorem get_absent (h : s.Mirrors registry seed base placed) (absent : ∀ x ∈ placed, x.2.id ≠ id) :
    (get registry ctx id none).Keeps (Step .none) anyhow s fun o _ =>
      o = .error (.error (.wrongObjectId id)) := by
  obtain ⟨l, ⟨booked, housed⟩, matched⟩ := h
  have missed : l.get id = .error (.wrongObjectId id) := by
    rw [Ledger.get_eq, matched.inactive absent]
  have read : (Procedure.getBinding id).Keeps (Step .none) anyhow s fun o _ =>
      o = .error (.error (.wrongObjectId id)) := by
    refine .perform trivial fun o t step => ⟨trivial, ?_⟩
    obtain ⟨_, rfl | ⟨_, _, _, never, _⟩⟩ := booked.get step
    · rw [missed]
      rfl
    · exact never.elim
  have owner : (ownerOf registry id).Keeps (Step .none) anyhow s fun o _ =>
      o = .error (.error (.wrongObjectId id)) :=
    .bind read (fun _ _ same => by cases same) fun _ _ _ same => by rw [Except.error.inj same]
  exact .bind owner (fun _ _ same => by cases same) fun _ _ _ same => by rw [Except.error.inj same]

theorem list_call {query : Listing.Query} (home : (s.backends.get? descriptor).isSome) :
    (Procedure.callBackend descriptor (.list query) ctx).Keeps (Step .none) anyhow s <| Ends
      (fun routers t => routers = Listing.page query (s.routersAt descriptor) ∧
        t.routersAt = s.routersAt ∧
        ∀ other, (s.backends.get? other).isSome → (t.backends.get? other).isSome)
      fun _ => False := by
  refine .perform trivial fun o t step => ⟨trivial, ?_⟩
  have homes : ∀ other, (s.backends.get? other).isSome → (t.backends.get? other).isSome :=
    fun _ home => step.home home
  rcases step.backend with ⟨b, _, known, rfl, rfl⟩ | ⟨_, _, _, _, missing | ⟨_, never, _⟩⟩
  · refine ⟨by rw [Housed.routersAt_eq known]; rfl, ?_, homes⟩
    funext other
    have moved : (s.withBackend descriptor b s.ids).routersAt other = _ :=
      Housed.routersAt_withBackend other
    refine moved.trans ?_
    split
    · rename_i same
      rw [same, Housed.routersAt_eq known]
    · rfl
  · rw [missing] at home
    cases home
  · exact never.elim

theorem gather_routers {query : Listing.Query} {descriptors : List String}
    (homes : ∀ descriptor ∈ descriptors, (s.backends.get? descriptor).isSome) :
    (gather ctx query descriptors).Keeps (Step .none) anyhow s <| Ends
      (fun routers t => routers =
          (descriptors.flatMap fun descriptor => Listing.page query (s.routersAt descriptor)) ∧
        t.routersAt = s.routersAt)
      fun _ => False := by
  induction descriptors generalizing s with
  | nil => exact .pure trivial ⟨rfl, rfl⟩
  | cons descriptor rest ih =>
      refine .bind_sure (list_call (homes _ List.mem_cons_self)) ?_
      rintro routers t ⟨rfl, same, kept⟩
      refine .bind_sure (ih fun other member =>
        kept other (homes other (List.mem_cons_of_mem _ member))) ?_
      rintro more u ⟨rfl, still⟩
      refine .pure trivial ⟨?_, still.trans same⟩
      simp only [List.flatMap_cons, same]

theorem mapM_get {descriptors : List String}
    (known : ∀ descriptor ∈ descriptors, registry.contains descriptor = true) :
    ∃ names, descriptors.mapM registry.get = .ok names := by
  induction descriptors with
  | nil => exact ⟨[], rfl⟩
  | cons descriptor rest ih =>
      obtain ⟨name, found⟩ := Registry.get_of_contains (known _ List.mem_cons_self)
      obtain ⟨names, others⟩ := ih fun other member => known other (List.mem_cons_of_mem _ member)
      exact ⟨name :: names, by simp [List.mapM_cons, found, others, bind, Except.bind, pure, Except.pure]⟩

/-- The routers of the backends in a list of descriptors, which has all that are in use. -/
theorem gathered (h : s.Mirrors registry seed base placed) {descriptors : List String}
    (distinct : descriptors.Nodup) (all : ∀ x ∈ placed, x.1 ∈ descriptors) :
    ((descriptors.flatMap s.routersAt).map (·.id)).Nodup ∧
      ∀ r, r ∈ descriptors.flatMap s.routersAt ↔ ∃ descriptor, (descriptor, r) ∈ placed := by
  obtain ⟨l, ⟨_, housed⟩, _⟩ := h
  constructor
  · rw [List.map_flatMap, List.nodup_flatMap]
    refine ⟨fun descriptor _ => housed.ids_nodup descriptor, distinct.imp ?_⟩
    intro one other apart id here there
    exact apart (housed.home_unique here there)
  · intro r
    simp only [List.mem_flatMap, housed.mem_routersAt]
    exact ⟨fun ⟨descriptor, _, here⟩ => ⟨descriptor, here⟩,
      fun ⟨descriptor, here⟩ => ⟨descriptor, all _ here, here⟩⟩

/-- Without faults a listing puts the answers of all backends with a bound router together, and they
keep their routers. -/
theorem list_routers {query : Listing.Query} (h : s.Served registry base) :
    (list registry ctx query).Keeps (Step .none) anyhow s <| Ends
      (fun routers t => routers = firstOfEachId
          ((s.store.ledger.listByType Resource.routerType).flatMap
            fun descriptor => Listing.page query (s.routersAt descriptor)) ∧
        t.routersAt = s.routersAt)
      fun _ => False := by
  obtain ⟨placed, housed⟩ := h.housed
  have read : (Procedure.listDescriptors Resource.routerType).Keeps (Step .none) anyhow s <| Ends
      (fun descriptors t => descriptors = s.store.ledger.listByType Resource.routerType ∧
        t.backends = s.backends) fun _ => False := by
    refine .perform trivial fun o t step => ⟨trivial, ?_⟩
    rcases step.store with ⟨_, rfl, _⟩ | ⟨_, _, _, _, broken | ⟨_, never, _⟩⟩
    · exact ⟨rfl, (step.backends_eq nofun).1⟩
    · exact absurd h.usable broken
    · exact never.elim
  refine .bind_sure read ?_
  rintro _ t ⟨rfl, backends⟩
  have registered : ∀ descriptor ∈ s.store.ledger.listByType Resource.routerType,
      registry.contains descriptor = true := by
    intro descriptor member
    obtain ⟨row, inside, _, rfl⟩ := Ledger.mem_listByType.1 member
    exact h.registered row inside
  obtain ⟨names, found⟩ := mapM_get registered
  have known : (Procedure.ofExcept
      ((s.store.ledger.listByType Resource.routerType).mapM registry.get)).Keeps
        (Step .none) anyhow t <| Ends (fun _ u => u.backends = s.backends) fun _ => False :=
    .ofExcept_ok found trivial backends
  refine .bind_sure known fun _ u backends => ?_
  have homes : ∀ descriptor ∈ s.store.ledger.listByType Resource.routerType,
      (u.backends.get? descriptor).isSome := by
    intro descriptor member
    rw [backends]
    exact housed.homes descriptor (registered descriptor member)
  have same : u.routersAt = s.routersAt := by
    funext descriptor
    simp only [routersAt, backends]
  refine .bind_sure (gather_routers homes) ?_
  rintro _ v ⟨rfl, kept⟩
  exact .pure trivial ⟨by rw [same], kept.trans same⟩

/-- Without faults a listing of everything holds every placed router once. -/
theorem list_placed (h : s.Mirrors registry seed base placed) :
    (list registry ctx .all).Keeps (Step .none) anyhow s <| Ends
      (fun routers _ => (routers.map (·.id)).Nodup ∧
        ∀ r, r ∈ routers ↔ ∃ descriptor, (descriptor, r) ∈ placed)
      fun _ => False := by
  obtain ⟨l, layout, matched⟩ := id h
  have all : ∀ x ∈ placed, x.1 ∈ l.listByType Resource.routerType := by
    intro x inside
    obtain ⟨row, member, descriptor, _⟩ := matched.row_of_placed inside
    exact Ledger.mem_listByType.2
      ⟨row, member, (layout.booked.proper row member).router, descriptor⟩
  have result := gathered h Ledger.listByType_nodup all
  refine .sure (list_routers layout.served) ?_
  rintro _ t ⟨rfl, _⟩
  rw [layout.booked.ledger]
  simp only [Listing.page_all]
  rw [firstOfEachId_eq result.1]
  exact result

/-- The router that an operation is about: the one it names, or the one it created. -/
def Operation.subject? : (op : Operation) → Except Failure op.Answer → Option String
  | .create _, .ok (router : Router) => some router.id
  | .get id _, _ | .update id _, _ | .delete id, _ | .addInterface id _, _
  | .removeInterface id _, _ => some id
  | _, _ => none

end Dispatch

theorem Directory.after_other {dir : Directory} {op : Dispatch.Operation}
    {ended : Except Failure op.Answer} {id : String} (other : op.subject? ended ≠ some id) :
    dir.after op ended id = dir id := by
  cases op with
  | create request =>
      cases ended with
      | ok router => exact if_neg fun same => other (congrArg some same.symm)
      | error _ => rfl
  | update | delete =>
      cases ended with
      | ok _ => exact if_neg fun same => other (congrArg some same.symm)
      | error _ => rfl
  | _ => cases ended <;> rfl

namespace State

variable {w : Schedule} {registry : Registry} {seed : Pool} {base : IdSupply}
  {placed : List (String × Router)} {s : State} {ctx : Context}

theorem operate_append (before after : List (Context × Dispatch.Operation)) :
    s.operate w registry (before ++ after) = (s.operate w registry before).operate w registry after := by
  induction before generalizing s with
  | nil => rfl
  | cons op rest ih => exact ih

theorem replay_append (dir : Directory) (before after : List (Context × Dispatch.Operation)) :
    s.replay w registry dir (before ++ after) =
      (s.operate w registry before).replay w registry (s.replay w registry dir before) after := by
  induction before generalizing s dir with
  | nil => rfl
  | cons op rest ih => exact ih _

def got (registry : Registry) (s : State) (ctx : Context) (id : String) : Except Failure Router :=
  (s.runUnder .calm (Dispatch.get registry ctx id none)).1

/-- The answer that a directory gives: the router of the entry, or that there is none. -/
def Answers (dir : Directory) (id : String) (answer : Except Failure Router) : Prop :=
  match dir id with
  | some profile => ∃ r, answer = .ok r ∧ r.id = id ∧ r.profile = profile
  | none => answer = .error (.error (.wrongObjectId id))

theorem Answers.unique {dir other : Directory} {id : String} {answer answer' : Except Failure Router}
    (h : Answers dir id answer) (h' : Answers other id answer') (same : dir id = other id) :
    answer = answer' := by
  unfold Answers at h h'
  rw [← same] at h'
  cases entry : dir id with
  | none =>
      rw [entry] at h h'
      exact h.trans h'.symm
  | some profile =>
      rw [entry] at h h'
      obtain ⟨r, rfl, rfl, rfl⟩ := h
      obtain ⟨r', rfl, id, profile⟩ := h'
      rw [Router.ext_profile id profile]

theorem Mirrors.got (h : s.Mirrors registry seed base placed) (ctx : Context) (id : String) :
    Answers (Directory.ofPlaced placed) id (s.got registry ctx id) := by
  have calm := (Schedule.calm_within .none).moves
  unfold Answers Directory.ofPlaced
  cases found : placed.find? (·.2.id = id) with
  | none =>
      have absent : ∀ x ∈ placed, x.2.id ≠ id := by simpa using found
      exact (Dispatch.get_absent h absent).end_of_run calm
  | some x =>
      obtain ⟨descriptor, r⟩ := x
      have here := List.mem_of_find?_eq_some found
      obtain rfl : r.id = id := by simpa using List.find?_some found
      exact ⟨r, (Dispatch.get_placed h here).end_of_run calm, rfl, rfl⟩

/-- The directory of placed routers has the ones that were placed. -/
theorem Housed.ofPlaced_eq_some (h : s.Housed registry base placed) {r : Router} :
    Directory.ofPlaced placed r.id = some r.profile ↔ ∃ descriptor, (descriptor, r) ∈ placed := by
  simp only [Directory.ofPlaced, Option.map_eq_some_iff]
  constructor
  · rintro ⟨⟨descriptor, other⟩, found, profile⟩
    have id : other.id = r.id := by simpa using List.find?_some found
    rw [← Router.ext_profile id profile]
    exact ⟨descriptor, List.mem_of_find?_eq_some found⟩
  · rintro ⟨descriptor, here⟩
    have known : (placed.find? (·.2.id = r.id)).isSome :=
      List.find?_isSome.2 ⟨_, here, by simp⟩
    obtain ⟨x, found⟩ := Option.isSome_iff_exists.1 known
    have same : x.2.id = r.id := by simpa using List.find?_some found
    cases h.eq_of_id (List.mem_of_find?_eq_some found) here same
    exact ⟨_, found, rfl⟩

def listed (registry : Registry) (s : State) (ctx : Context) : Except Failure (List Router) :=
  (s.runUnder .calm (Dispatch.list registry ctx .all)).1

/-- Requests are answered out of a directory: each router is found under its id and no other id is
known, and a listing has exactly the routers of the directory, each once. -/
structure Refines (registry : Registry) (dir : Directory) (s : State) : Prop where
  found : ∀ ctx id, Answers dir id (s.got registry ctx id)
  listed : ∀ ctx, ∃ routers, s.listed registry ctx = .ok routers ∧
    (routers.map (·.id)).Nodup ∧ ∀ r, r ∈ routers ↔ dir r.id = some r.profile

theorem Mirrors.refines (h : s.Mirrors registry seed base placed) :
    s.Refines registry (Directory.ofPlaced placed) where
  found := h.got
  listed := by
    intro ctx
    obtain ⟨_, ⟨_, housed⟩, _⟩ := id h
    have calm := (Schedule.calm_within .none).moves
    let run := s.runUnder .calm (Dispatch.list registry ctx .all)
    have ended : Procedure.Ends (fun routers _ => (routers.map (·.id)).Nodup ∧
        ∀ r, r ∈ routers ↔ ∃ descriptor, (descriptor, r) ∈ placed) (fun _ => False) run.1 run.2 :=
      (Dispatch.list_placed h).end_of_run calm
    change ∃ routers, run.1 = .ok routers ∧ _
    cases answer : run.1 with
    | error failure =>
        rw [answer] at ended
        exact ended.elim
    | ok routers =>
        rw [answer] at ended
        exact ⟨routers, rfl, ended.1, fun r => (ended.2 r).trans housed.ofPlaced_eq_some.symm⟩

/-- From a fresh start and without faults, a router interface over any backends answers out of the
directory that the operations add up to, as long as no id is given out twice. An operation does not
touch what is answered about any id but that of the router it is about. -/
theorem directory_refined {registry : Registry} {seed : Pool} {store : Store}
    {backends : Dict Backend} (fresh : Fresh registry seed store backends) (ids : IdSupply)
    (ops : List (Context × Dispatch.Operation)) :
    let start := State.initial (.localPool seed) store backends ids
    ids.NoRepeat (start.operate .calm registry ops).ids →
      (start.operate .calm registry ops).Refines registry
        (start.replay .calm registry .empty ops) ∧
      ∀ done ctx op rest, ops = done ++ (ctx, op) :: rest →
        let before := start.operate .calm registry done
        let ended := before.runUnder .calm (op.procedure registry ctx)
        ∀ caller id, op.subject? ended.1 ≠ some id →
          ended.2.got registry caller id = before.got registry caller id := by
  intro start unique
  have follows (ops : List (Context × Dispatch.Operation))
      (unique : ids.NoRepeat (start.operate .calm registry ops).ids) :
      (start.operate .calm registry ops).Refines registry
        (start.replay .calm registry .empty ops) := by
    have calm := Schedule.calm_within .lookups
    obtain ⟨placed, held, same⟩ := (fresh.mirrors ids).operate calm fresh.readable ops unique
    have empty : Directory.ofPlaced [] = .empty := rfl
    rw [← empty, ← same]
    exact held.refines
  refine ⟨follows ops unique, ?_⟩
  rintro done ctx op rest rfl before ended caller id other
  have later : ended.2.ids ≤ (start.operate .calm registry (done ++ (ctx, op) :: rest)).ids := by
    rw [operate_append]
    exact operate_ids_le .calm registry rest ended.2
  have after := follows (done ++ [(ctx, op)]) (unique.mono (by rw [operate_append]; exact later))
  have earlier := follows done (unique.mono ((runUnder_ids_le .calm _ before).trans later))
  rw [operate_append, replay_append] at after
  exact (after.found caller id).unique (earlier.found caller id) (Directory.after_other other)

/-- A creation, and another name for what was created. -/
def naming : List (Context × Dispatch.Operation) :=
  [(default, .create .empty), (default, .update (IdSupply.name 0) ⟨some "edge", ∅, ∅⟩)]

theorem directory_refined_after_naming :
    let start := State.initial (.localPool twoResources) .inMemory twoBackends ⟨0⟩
    let dir := start.replay .calm twoHomes .empty naming
    (start.operate .calm twoHomes naming).Refines twoHomes dir ∧
      (dir (IdSupply.name 0)).map (·.name) = some (some "edge") := by
  refine ⟨(directory_refined twoHomes_fresh ⟨0⟩ naming ?_).1, ?_⟩
  · exact IdSupply.noRepeat rfl (by decide +kernel)
  · decide +kernel

/-- A creation that fails after its binding was recorded leaves a router behind. No directory has it,
but it is listed, and what is answered under its id is not that there is none. -/
theorem deep_resource_unrefined :
    let start := State.initial (.localPool deepResource) .inMemory twoBackends ⟨0⟩
    let dir := start.replay .calm twoHomes .empty [(default, .create .empty)]
    let t := start.operate .calm twoHomes [(default, .create .empty)]
    Start twoHomes deepResource .inMemory twoBackends ∧ IdSupply.NoRepeat ⟨0⟩ t.ids ∧
      dir (IdSupply.name 0) = none ∧
      t.listed twoHomes default = .ok [⟨IdSupply.name 0, none, .ofList [("k", nested 127)], ∅⟩] ∧
      t.got twoHomes default (IdSupply.name 0) =
        .error (.error (.jsonParse "expected an object of JSON values")) ∧
      ¬t.Refines twoHomes dir := by
  intro start dir t
  obtain ⟨absent, listed, unread, given⟩ : (dir (IdSupply.name 0)).isNone ∧
      t.listed twoHomes default = .ok [⟨IdSupply.name 0, none, .ofList [("k", nested 127)], ∅⟩] ∧
      t.got twoHomes default (IdSupply.name 0) =
        .error (.error (.jsonParse "expected an object of JSON values")) ∧
      t.ids.next ≤ 16 ^ 32 := by decide +kernel
  rw [Option.isNone_iff_eq_none] at absent
  clear_value dir t
  refine ⟨twoHomes_start (by decide), IdSupply.noRepeat rfl given, absent, listed, unread, ?_⟩
  intro refines
  have answer := refines.found default (IdSupply.name 0)
  rw [Answers, absent, unread] at answer
  cases answer

end State
end Brokerage
