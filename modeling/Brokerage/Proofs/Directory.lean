import Brokerage.Proofs.Alignment
import Brokerage.Proofs.Dict

/-! # One directory of routers

Seen from outside, a router interface over many backends is one map from ids to routers: creating
enters one, updating puts the new entries over the old ones, deleting takes one out. Here is the
map, and that every operation moves it along with the pool, the bindings and the backends.
-/

namespace Brokerage

/-- What a router has beside its id: its name, and a value for each key. -/
structure Profile where
  name : Option String
  metadata : String → Option Json
  attributes : String → Option Json

namespace Router

def profile (r : Router) : Profile := ⟨r.name, r.metadata.get?, r.attributes.get?⟩

theorem ext_profile {r r' : Router} (id : r.id = r'.id) (profile : r.profile = r'.profile) :
    r = r' := by
  cases r
  cases r'
  obtain ⟨name, metadata, attributes⟩ := Profile.mk.inj profile
  cases id
  cases name
  cases Dict.ext_get? (congrFun metadata)
  cases Dict.ext_get? (congrFun attributes)
  rfl

end Router

/-- A given name replaces the old one, metadata and attributes are put over the old ones key by key;
no attribute stands under the key of a router's own field. -/
def Profile.revise (p : Profile) (request : Router.Request) : Profile where
  name := request.name <|> p.name
  metadata key := request.metadata.get? key <|> p.metadata key
  attributes key :=
    if Router.isReserved key then p.attributes key
    else request.attributes.get? key <|> p.attributes key

theorem Router.profile_update (r : Router) (request : Request) :
    (r.update request).profile = r.profile.revise request := by
  simp only [profile, update, Profile.revise, freeAttributes, Profile.mk.injEq, true_and]
  constructor
  · funext key
    exact Dict.get?_join
  · funext key
    rw [Dict.get?_join, Dict.get?_restrict]
    cases isReserved key <;> simp

/-- The routers that are there, by id. -/
abbrev Directory := String → Option Profile

namespace Directory

def empty : Directory := fun _ => none

def set (dir : Directory) (id : String) (entry : Option Profile) : Directory :=
  fun other => if other = id then entry else dir other

/-- The directory after an operation that ended in a certain way. -/
def after (dir : Directory) :
    (op : Dispatch.Operation) → Except Failure op.Answer → Directory
  | .create _, .ok (router : Router) => dir.set router.id (some router.profile)
  | .update id request, .ok _ => dir.set id ((dir id).map (·.revise request))
  | .delete id, .ok _ => dir.set id none
  | _, _ => dir

def ofPlaced (placed : List (String × Router)) : Directory := fun id =>
  (placed.find? (·.2.id = id)).map (·.2.profile)

variable {placed : List (String × Router)} {id : String}

theorem ofPlaced_cons (descriptor : String) (r : Router) :
    ofPlaced ((descriptor, r) :: placed) = (ofPlaced placed).set r.id (some r.profile) := by
  funext other
  by_cases same : other = r.id
  · simp [ofPlaced, set, same]
  · simp [ofPlaced, set, same, Ne.symm same]

theorem ofPlaced_revised (request : Router.Request) :
    ofPlaced (State.Housed.revised id request placed) =
      (ofPlaced placed).set id ((ofPlaced placed id).map (·.revise request)) := by
  funext other
  simp only [ofPlaced, set, State.Housed.revised, List.find?_map, Function.comp_def,
    State.Housed.revise_id, Option.map_map]
  cases found : placed.find? (·.2.id = other) with
  | none =>
      by_cases same : other = id
      · subst same
        simp [found]
      · simp [same]
  | some x =>
      have hit : x.2.id = other := by simpa using List.find?_some found
      by_cases same : other = id
      · subst same
        simp [found, State.Housed.revise, hit, Router.profile_update]
      · simp [State.Housed.revise, hit, same]

theorem ofPlaced_without :
    ofPlaced (State.Housed.without id placed) = (ofPlaced placed).set id none := by
  funext other
  simp only [ofPlaced, set, State.Housed.without, List.find?_filter]
  by_cases same : other = id
  · subst same
    simp
  · simp only [same, if_false]
    congr 2
    funext x
    by_cases hit : x.2.id = other
    · simp [hit, same]
    · simp [hit]

end Directory

namespace Dispatch

open State

variable {registry : Registry} {seed : Pool} {base bound : IdSupply} {placed : List (String × Router)}
  {s : State} {ctx : Context}

/-- Every operation moves the directory along with what holds it. -/
theorem keeps_operation (unique : base.NoRepeat bound) (readable : seed.Readable)
    (h : s.Mirrors registry seed base placed) (op : Operation) :
    (op.procedure registry ctx).Keeps (Lookups bound) anyhow s fun r t =>
      ∃ placed', t.Mirrors registry seed base placed' ∧
        Directory.ofPlaced placed' = (Directory.ofPlaced placed).after op r := by
  cases op with
  | create request =>
      refine .mono (keeps_create unique readable h) fun r t _ ended => ?_
      cases r with
      | ok router =>
          obtain ⟨descriptor, _, held⟩ := ended
          exact ⟨_, held, Directory.ofPlaced_cons descriptor router⟩
      | error _ => exact ⟨_, ended, rfl⟩
  | update id request =>
      refine .mono (keeps_update h) fun r t _ ended => ?_
      cases r with
      | ok _ => exact ⟨_, ended, Directory.ofPlaced_revised request⟩
      | error _ => exact ⟨_, ended, rfl⟩
  | delete id =>
      refine .mono (keeps_delete h) fun r t _ ended => ?_
      cases r with
      | ok _ => exact ⟨_, ended, Directory.ofPlaced_without⟩
      | error _ => exact ⟨_, ended, rfl⟩
  | _ =>
      refine .mono (keeps_gentle rfl h) fun r t _ held => ⟨_, held, ?_⟩
      cases r <;> rfl

end Dispatch

namespace State

/-- A router interface at its start: a pool with nothing handed out, no bindings, and an empty
backend for every registered descriptor. -/
structure Start (registry : Registry) (seed : Pool) (store : Store) (backends : Dict Backend) :
    Prop where
  free : seed.AllFree
  usable : store.Usable
  blank : store.ledger = ∅
  homes : ∀ descriptor, registry.contains descriptor = true → (backends.get? descriptor).isSome
  vacant : ∀ descriptor b, backends.get? descriptor = some b → b.routers = []

/-- A start with metadata in the pool that the bindings can be read back with. -/
structure Fresh (registry : Registry) (seed : Pool) (store : Store) (backends : Dict Backend) : Prop
    extends Start registry seed store backends where
  readable : seed.Readable

variable {registry : Registry} {seed : Pool} {store : Store} {backends : Dict Backend}

theorem Start.routersAt_eq_nil (h : Start registry seed store backends) (ids : IdSupply)
    (descriptor : String) :
    (State.initial (.localPool seed) store backends ids).routersAt descriptor = [] := by
  simp only [routersAt, State.initial]
  cases found : backends.get? descriptor with
  | none => rfl
  | some b => exact h.vacant descriptor b found

theorem Start.housed (h : Start registry seed store backends) (ids : IdSupply) :
    (State.initial (.localPool seed) store backends ids).Housed registry ids [] where
  homes := h.homes
  hosted := fun descriptor => by
    rw [h.routersAt_eq_nil ids descriptor]
    rfl
  distinct := .nil
  started := le_refl _
  generated := nofun

theorem Fresh.mirrors (h : Fresh registry seed store backends) (ids : IdSupply) :
    (State.initial (.localPool seed) store backends ids).Mirrors registry seed ids [] := by
  refine ⟨∅, ⟨⟨?_, h.blank, h.usable, nofun⟩, h.housed ids⟩, .refl _⟩
  exact ⟨seed, rfl, h.free.blank_eq, .initial h.free h.readable⟩

/-- A registry of two backends. -/
def twoHomes : Registry := ⟨.ofList [("east", "east"), ("west", "west")], "east", by decide +kernel⟩

/-- One resource for each backend. -/
def twoResources : Pool :=
  ⟨[⟨"r1", "router", false, "east", ∅⟩, ⟨"r2", "router", false, "west", ∅⟩], by decide⟩

def twoBackends : Dict Backend := .ofList [("east", .new "east"), ("west", .new "west")]

theorem twoHomes_start {seed : Pool} (free : seed.AllFree) :
    Start twoHomes seed .inMemory twoBackends where
  free := free
  usable := ⟨rfl, rfl⟩
  blank := rfl
  homes := fun descriptor known => by
    simp only [Registry.contains, Dict.contains, twoHomes, twoBackends, Dict.ofList, List.foldl,
      Dict.get?_insert, Dict.get?_empty] at known ⊢
    split at known
    · rename_i west
      simp [west]
    · split at known
      · rename_i east
        simp [east]
      · cases known
  vacant := fun descriptor b found => by
    simp only [twoBackends, Dict.ofList, List.foldl, Dict.get?_insert, Dict.get?_empty] at found
    split at found
    · cases found
      rfl
    · split at found
      · cases found
        rfl
      · cases found

theorem twoHomes_fresh : Fresh twoHomes twoResources .inMemory twoBackends where
  toStart := twoHomes_start (by decide)
  readable := by decide +kernel

/-- One resource, with metadata that is nested too deeply to be read back. -/
def deepResource : Pool := .single ⟨"r1", "router", false, "east", .ofList [("k", nested 127)]⟩

/-- The state after some operations. -/
def operate (w : Schedule) (registry : Registry) (s : State) :
    List (Context × Dispatch.Operation) → State
  | [] => s
  | (ctx, op) :: rest => (s.runUnder w (op.procedure registry ctx)).2.operate w registry rest

/-- The directory after some operations, by what they ended in. -/
def replay (w : Schedule) (registry : Registry) (s : State) (dir : Directory) :
    List (Context × Dispatch.Operation) → Directory
  | [] => dir
  | (ctx, op) :: rest =>
    let ended := s.runUnder w (op.procedure registry ctx)
    ended.2.replay w registry (dir.after op ended.1) rest

variable {w : Schedule} {base : IdSupply} {placed : List (String × Router)} {s : State}

theorem performUnder_step (w : Schedule) (e : Effect) (s : State) :
    Step .any e s (s.performUnder w e).1 (s.performUnder w e).2 :=
  Schedule.Within.moves (fun _ _ _ _ => trivial : w.Within .any) e s

theorem performUnder_ids_le (w : Schedule) (e : Effect) (s : State) :
    s.ids ≤ (s.performUnder w e).2.ids := (performUnder_step w e s).ids_le

theorem performUnder_later (w : Schedule) (e : Effect) (t : State) (later : s.ids ≤ t.ids) :
    s.ids ≤ (t.performUnder w e).2.ids := later.trans (performUnder_ids_le w e t)

theorem runUnder_ids_le {α : Type} (w : Schedule) (p : Procedure α) (s : State) :
    s.ids ≤ (s.runUnder w p).2.ids :=
  runUnder_keeps (performUnder_later w) p (le_refl _)

theorem operate_keeps {w : Schedule} {inv : State → Prop}
    (step : ∀ e s, inv s → inv (performUnder w e s).2) (registry : Registry)
    (ops : List (Context × Dispatch.Operation)) {s : State} (h : inv s) :
    inv (s.operate w registry ops) := by
  induction ops generalizing s with
  | nil => exact h
  | cons call rest ih => exact ih (runUnder_keeps step _ h)

theorem operate_ids_le (w : Schedule) (registry : Registry)
    (ops : List (Context × Dispatch.Operation)) (s : State) :
    s.ids ≤ (s.operate w registry ops).ids :=
  operate_keeps (performUnder_later w) registry ops (le_refl _)

/-- Operations move the directory along with what holds it, as long as no id is given out twice. -/
theorem Mirrors.operate (hw : w.Within .lookups) (readable : seed.Readable)
    (ops : List (Context × Dispatch.Operation)) (h : s.Mirrors registry seed base placed)
    (unique : base.NoRepeat (s.operate w registry ops).ids) :
    ∃ placed', (s.operate w registry ops).Mirrors registry seed base placed' ∧
      Directory.ofPlaced placed' = s.replay w registry (Directory.ofPlaced placed) ops := by
  induction ops generalizing s placed with
  | nil => exact ⟨placed, h, rfl⟩
  | cons call rest ih =>
      obtain ⟨ctx, op⟩ := call
      have back : ∀ e (t : State), (t.performUnder w e).2.ids ≤
          (s.operate w registry ((ctx, op) :: rest)).ids →
          t.ids ≤ (s.operate w registry ((ctx, op) :: rest)).ids :=
        fun e t later => (performUnder_ids_le w e t).trans later
      obtain ⟨placed', held, same⟩ := (Dispatch.keeps_operation unique readable h op).end_of_run_into
        hw.moves back (operate_ids_le w registry rest _)
      obtain ⟨final, held, replayed⟩ := ih held unique
      exact ⟨final, held, by rw [replayed, same]; rfl⟩

end State
end Brokerage
