import Brokerage.Proofs.Refinement
import Mathlib.Data.List.Pairwise

/-! # Reading a listing over many backends

A router interface over many backends passes limit and marker on to each of them, so a page is a page
of every backend. One that does not hold the router of the marker starts again from its first router.
Reading page by page therefore meets every router, but it meets each just once only where one backend
answers all of them or one page is enough.
-/

namespace Brokerage
namespace Listing

variable {n : Nat} {marker : Option String} {part other : List Router}
  {parts : List (List Router)} {r x : Router}

/-- A page cut out of every part, put together. -/
def joint (n : Nat) (marker : Option String) (parts : List (List Router)) : List Router :=
  parts.flatMap fun part => (afterMarker marker part).take n

/-- At most one part has routers. -/
def Alone (parts : List (List Router)) : Prop := parts.Pairwise fun a b => a = [] ∨ b = []

instance (parts : List (List Router)) : Decidable (Alone parts) :=
  inferInstanceAs (Decidable (List.Pairwise _ _))

theorem afterMarker_nil : afterMarker marker [] = [] := by
  simpa using afterMarker_suffix marker []

theorem cut_sublist (n : Nat) (marker : Option String) (part : List Router) :
    ((afterMarker marker part).take n).Sublist part :=
  (List.take_sublist n _).trans (afterMarker_suffix marker part).sublist

theorem joint_sublist (n : Nat) (marker : Option String) (parts : List (List Router)) :
    (joint n marker parts).Sublist parts.flatten := by
  induction parts with
  | nil => exact .slnil
  | cons part rest ih => exact (cut_sublist n marker part).append ih

theorem le_joint_length (n : Nat) (parts : List (List Router)) :
    min n parts.flatten.length ≤ (joint n none parts).length := by
  induction parts with
  | nil => simp
  | cons part rest ih =>
      have here : ((afterMarker none part).take n).length = min n part.length := List.length_take
      simp only [joint, List.flatMap_cons, List.length_append, List.flatten_cons] at ih ⊢
      omega

theorem Alone.cons {rest : List (List Router)} (h : Alone (part :: rest)) :
    part = [] ∨ ∀ other ∈ rest, other = [] := by
  by_cases empty : part = []
  · exact .inl empty
  · exact .inr fun other member => ((List.pairwise_cons.1 h).1 other member).resolve_left empty

theorem joint_of_alone (h : Alone parts) :
    joint n marker parts = (afterMarker marker parts.flatten).take n := by
  induction parts with
  | nil => simp [joint, afterMarker_nil]
  | cons part rest ih =>
      simp only [joint, List.flatMap_cons, List.flatten_cons] at ih ⊢
      rcases h.cons with rfl | nothing
      · simp [afterMarker_nil, ih (List.pairwise_cons.1 h).2]
      · have cuts : rest.flatMap (fun part => (afterMarker marker part).take n) = [] := by
          rw [List.flatMap_eq_nil_iff]
          intro other member
          simp [nothing other member, afterMarker_nil]
        rw [cuts, List.flatten_eq_nil_iff.2 nothing, List.append_nil, List.append_nil]

theorem Alone.flatten (h : Alone parts) : parts.flatten = [] ∨ parts.flatten ∈ parts := by
  induction parts with
  | nil => exact .inl rfl
  | cons part rest ih =>
      rcases h.cons with rfl | nothing
      · rw [List.flatten_cons, List.nil_append]
        exact (ih (List.pairwise_cons.1 h).2).imp_right (List.mem_cons_of_mem _)
      · rw [List.flatten_cons, List.flatten_eq_nil_iff.2 nothing, List.append_nil]
        exact .inr List.mem_cons_self

theorem joint_of_few (few : parts.flatten.length < n) : joint n none parts = parts.flatten := by
  refine (joint_sublist n none parts).eq_of_length_le ?_
  have := le_joint_length n parts
  omega

/-- Of a page that is not full, every backend has all that it had left. -/
theorem cut_whole (hp : part ∈ parts) (short : (joint n marker parts).length < n) :
    (afterMarker marker part).take n = afterMarker marker part := by
  have piece : ((afterMarker marker part).take n).Sublist (joint n marker parts) :=
    List.sublist_flatten_of_mem (List.mem_map_of_mem hp)
  have fewer := piece.length_le
  rw [List.length_take] at fewer
  exact List.take_of_length_le (by omega)

section

variable (distinct : (parts.flatten.map (·.id)).Nodup)
include distinct

theorem part_unique (hp : part ∈ parts) (ho : other ∈ parts) (hr : r ∈ part) (hr' : r ∈ other) :
    part = other := by
  have apart : parts.Pairwise List.Disjoint := (List.nodup_flatten.1 distinct.of_map).2
  have : Std.Symm (List.Disjoint (α := Router)) := ⟨fun _ _ => List.disjoint_symm⟩
  by_contra differ
  exact apart.forall hp ho differ hr hr'

theorem part_distinct (hp : part ∈ parts) : (part.map (·.id)).Nodup :=
  distinct.sublist ((List.sublist_flatten_of_mem hp).map _)

/-- A part without the router of a marker starts again from its first one. -/
theorem restarts (hp : part ∈ parts) (ho : other ∈ parts) (hr : r ∈ part) (missing : r ∉ other) :
    afterMarker (some r.id) other = other := by
  refine afterMarker_missing fun x hx same => missing ?_
  have equal : r = x := List.inj_on_of_nodup_map distinct (List.mem_flatten_of_mem hp hr)
    (List.mem_flatten_of_mem ho hx) (Option.some.inj same)
  exact equal ▸ hx

/-- Behind the last router of a page stands what was left and not on the page. -/
theorem passed (hp : part ∈ parts) (here : r ∈ joint n marker parts)
    (waiting : x ∈ afterMarker marker part) :
    x ∈ joint n marker parts ∨ x ∈ afterMarker (some r.id) part := by
  obtain ⟨owner, ho, cut⟩ := List.mem_flatMap.1 here
  obtain ⟨before, split⟩ := afterMarker_suffix marker part
  by_cases inside : r ∈ part
  · -- The router stands on this part's own page, so the part goes on right behind it.
    obtain rfl := part_unique distinct hp ho inside ((cut_sublist _ _ _).subset cut)
    obtain ⟨front, back, page⟩ := List.append_of_mem cut
    have whole : afterMarker marker part =
        front ++ r :: (back ++ (afterMarker marker part).drop n) := by
      calc
        afterMarker marker part =
            (afterMarker marker part).take n ++ (afterMarker marker part).drop n :=
          (List.take_append_drop n _).symm
        _ = _ := by rw [page]; simp
    generalize back ++ (afterMarker marker part).drop n = tail at whole
    have next : afterMarker (some r.id) part = tail := by
      have ids := part_distinct distinct hp
      rw [← split, whole, ← List.append_assoc] at ids ⊢
      exact afterMarker_append ids
    have shown : ∀ y ∈ (afterMarker marker part).take n, y ∈ joint n marker parts :=
      fun y hy => List.mem_flatMap.2 ⟨part, hp, hy⟩
    rw [page] at shown
    rw [whole] at waiting
    rw [next]
    grind
  · have member : x ∈ part := (afterMarker_suffix marker part).subset waiting
    rw [restarts distinct ho hp ((cut_sublist _ _ _).subset cut) inside]
    exact .inr member

end

/-! ## Page after page -/

section

variable {σ ε : Type} {ask : Option String → σ → Except ε (List Router) × σ} {good : σ → Prop}
  {s t : σ} {page : List Router} {pages : List (List Router)}

variable (answers : ∀ marker s, good s →
  ∃ t, ask marker s = (.ok (joint n marker parts), t) ∧ good t)
include answers

theorem joint_answer (start : good s) (answer : ask marker s = (.ok page, t)) :
    page = joint n marker parts ∧ good t := by
  obtain ⟨u, same, held⟩ := answers marker s start
  rw [same] at answer
  obtain ⟨page, rfl⟩ := Prod.mk.inj answer
  exact ⟨(Except.ok.inj page).symm, held⟩

variable (distinct : (parts.flatten.map (·.id)).Nodup)
include distinct

/-- Reading to the end meets every router that no page before had. -/
theorem joint_meets (reads : Reads ask n marker s pages t) (start : good s) (seen : List Router)
    (left : ∀ part ∈ parts, ∀ x ∈ part, x ∈ seen ∨ x ∈ afterMarker marker part) :
    ∀ part ∈ parts, ∀ x ∈ part, x ∈ seen ∨ x ∈ pages.flatten := by
  -- What was not seen yet waits behind the marker; only a page that is not full leaves nothing there.
  induction reads generalizing seen with
  | last answer short =>
      intro part hp x hx
      obtain ⟨rfl, _⟩ := joint_answer answers start answer
      refine (left part hp x hx).imp_right fun waiting => ?_
      rw [List.flatten_singleton]
      exact List.mem_flatMap.2 ⟨part, hp, (cut_whole hp short).symm ▸ waiting⟩
  | next answer full last rest ih =>
      intro part hp x hx
      obtain ⟨rfl, held⟩ := joint_answer answers start answer
      have here := List.mem_of_getLast? last
      have later := ih held (seen ++ joint n _ parts) fun part hp x hx => by
        rcases left part hp x hx with before | waiting
        · exact .inl (List.mem_append_left _ before)
        · exact (passed distinct hp here waiting).imp_left (List.mem_append_right _)
      rw [List.flatten_cons, List.mem_append, ← or_assoc, ← List.mem_append]
      exact later part hp x hx

theorem joint_meets_all (reads : Reads ask n none s pages t) (start : good s) :
    ∀ x ∈ parts.flatten, x ∈ pages.flatten := by
  intro x member
  obtain ⟨part, hp, hx⟩ := List.mem_flatten.1 member
  have met := joint_meets answers distinct reads start [] (fun _ _ _ hx => .inr hx) part hp x hx
  exact met.resolve_left List.not_mem_nil

theorem alone_of_once (pos : 0 < n) (reads : Reads ask n none s pages t) (start : good s)
    (full : n ≤ parts.flatten.length) (once : pages.flatten.Nodup) : Alone parts := by
  cases reads with
  | last answer short =>
      obtain ⟨rfl, _⟩ := joint_answer answers start answer
      have := le_joint_length n parts
      omega
  | @next _ _ _ _ _ r later answer _ last rest =>
      obtain ⟨rfl, held⟩ := joint_answer answers start answer
      obtain ⟨others, rfl⟩ : ∃ others, later = joint n (some r.id) parts :: others := by
        cases rest with
        | last answer _ | next answer _ _ _ => exact ⟨_, by rw [(joint_answer answers held answer).1]⟩
      obtain ⟨owner, ho, cut⟩ := List.mem_flatMap.1 (List.mem_of_getLast? last)
      have hr := (cut_sublist _ _ _).subset cut
      -- A part without the router of the marker begins again, so its first router is met twice.
      have inside : ∀ part ∈ parts, part ≠ [] → r ∈ part := by
        intro part hp there
        obtain ⟨x, rest, rfl⟩ := List.exists_cons_of_ne_nil there
        by_contra missing
        have again := restarts distinct ho hp hr missing
        have first : x ∈ (x :: rest).take n := by
          rw [List.take_cons pos]
          exact List.mem_cons_self
        have twice (marker : Option String) (all : afterMarker marker (x :: rest) = x :: rest) :
            x ∈ joint n marker parts := List.mem_flatMap.2 ⟨_, hp, by rwa [all]⟩
        rw [List.flatten_cons, List.flatten_cons, List.nodup_append] at once
        exact once.2.2 x (twice none rfl) x (List.mem_append_left _ (twice _ again)) rfl
      refine (List.nodup_flatten.1 distinct.of_map).2.imp_of_mem ?_
      intro a b ha hb apart
      by_contra both
      rw [not_or] at both
      exact apart (inside a ha both.1) (inside b hb both.2)

end

end Listing

namespace State

open Listing (Query Reads Alone joint)

variable {registry : Registry} {base : IdSupply} {s t : State} {ctx : Context} {q : Query} {n : Nat}

def homes (s : State) : List String := s.store.ledger.listByType Resource.routerType

/-- What these backends answer to a query, each by itself. -/
def spread (s : State) (q : Query) : List (List Router) :=
  s.homes.map fun home => Listing.page q (s.routersAt home)

def askPage (registry : Registry) (ctx : Context) (q : Query) (n : Nat) (marker : Option String)
    (s : State) : Except Failure (List Router) × State :=
  s.runUnder .calm (Dispatch.list registry ctx (q.paged n marker))

/-- The state after pages were asked for. -/
def asked (registry : Registry) (ctx : Context) (q : Query) (n : Nat) (s : State)
    (markers : List (Option String)) : State :=
  markers.foldl (fun s marker => (s.askPage registry ctx q n marker).2) s

/-- One page is enough for the routers of a query, or one backend has all of them. -/
def Gathered (q : Query) (n : Nat) (s : State) : Prop :=
  (s.spread q.unpaged).flatten.length < n ∨
    ∃ home, ∀ r ∈ (s.spread q.unpaged).flatten, r.id ∈ s.routerIds home

/-- How a listing over many backends is answered page by page. -/
structure Paged (registry : Registry) (ctx : Context) (q : Query) (n : Nat) (s : State) : Prop where
  /-- Without limit and marker, the answers of the backends are put together. -/
  whole : (s.runUnder .calm (Dispatch.list registry ctx q.unpaged)).1 =
    .ok (s.spread q.unpaged).flatten
  /-- No router is answered twice. -/
  distinct : ((s.spread q.unpaged).flatten.map (·.id)).Nodup
  /-- Whatever was asked for before, so are the pages of the backends. -/
  page : ∀ markers marker, ∃ t, (s.asked registry ctx q n markers).askPage registry ctx q n marker =
    (.ok (s.spread (q.paged n marker)).flatten, t)
  /-- A page has at most so many routers of each backend, and none from outside the listing. -/
  bounded : ∀ marker, (∀ part ∈ s.spread (q.paged n marker), part.length ≤ n) ∧
    (s.spread (q.paged n marker)).flatten.Sublist (s.spread q.unpaged).flatten
  /-- Reading that comes to an end has met every router. -/
  met : ∀ pages t, Reads (askPage registry ctx q n) n none s pages t →
    ∀ r ∈ (s.spread q.unpaged).flatten, r ∈ pages.flatten
  /-- Routers that are gathered are read to the end, each once, on pages of at most so many. -/
  complete : s.Gathered q n →
    (∀ marker, (s.spread (q.paged n marker)).flatten.length ≤ n) ∧
      ∃ pages t, Reads (askPage registry ctx q n) n none s pages t ∧
        pages.flatten = (s.spread q.unpaged).flatten
  /-- Only such routers are met once each. -/
  only : ∀ pages t, Reads (askPage registry ctx q n) n none s pages t →
    pages.flatten.Perm (s.spread q.unpaged).flatten → s.Gathered q n

theorem spread_paged (marker : Option String) :
    (s.spread (q.paged n marker)).flatten = joint n marker (s.spread q.unpaged) := by
  simp only [spread, joint, List.flatMap_def, List.map_map]
  congr 1
  exact List.map_congr_left fun home _ => Listing.page_paged q n marker _

/-- The same bindings, and the same routers on every backend. -/
structure Alike (s t : State) : Prop where
  ledger : t.store.ledger = s.store.ledger
  routers : t.routersAt = s.routersAt

theorem Alike.spread_eq (h : s.Alike t) (q : Query) : t.spread q = s.spread q := by
  rw [spread, spread, homes, homes, h.ledger, h.routers]

namespace Served

theorem spread_distinct (h : s.Served registry base) (q : Query) :
    ((s.spread q.unpaged).flatten.map (·.id)).Nodup := by
  obtain ⟨_, housed⟩ := h.housed
  have homes : s.homes.Nodup := Ledger.listByType_nodup
  rw [spread, ← List.flatMap_def, List.map_flatMap, List.nodup_flatMap]
  refine ⟨fun home _ => Listing.page_unpaged_nodup (housed.ids_nodup home) q, homes.imp ?_⟩
  intro one other apart id here there
  obtain ⟨r, hr, rfl⟩ := List.mem_map.1 here
  obtain ⟨x, hx, same⟩ := List.mem_map.1 there
  have inside := Listing.mem_page_unpaged hx
  rw [same] at inside
  exact apart (housed.home_unique (Listing.mem_page_unpaged hr) inside)

theorem alone_iff (h : s.Served registry base) :
    Alone (s.spread q.unpaged) ↔
      ∃ home, ∀ r ∈ (s.spread q.unpaged).flatten, r.id ∈ s.routerIds home := by
  obtain ⟨_, housed⟩ := h.housed
  constructor
  · intro alone
    rcases alone.flatten with none | one
    · exact ⟨"", by simp [none]⟩
    · obtain ⟨home, _, same⟩ := List.mem_map.1 one
      refine ⟨home, fun r member => ?_⟩
      rw [← same] at member
      exact Listing.mem_page_unpaged member
  · rintro ⟨home, all⟩
    have there : ∀ other ∈ s.homes, Listing.page q.unpaged (s.routersAt other) ≠ [] →
        other = home := by
      intro other member some
      obtain ⟨r, hr⟩ := List.exists_mem_of_ne_nil _ some
      have inside := all r (List.mem_flatten_of_mem (List.mem_map_of_mem member) hr)
      exact housed.home_unique (Listing.mem_page_unpaged hr) inside
    have homes : s.homes.Nodup := Ledger.listByType_nodup
    refine List.pairwise_map.2 (homes.imp_of_mem ?_)
    intro one other here also apart
    by_contra both
    rw [not_or] at both
    exact apart ((there one here both.1).trans (there other also both.2).symm)

theorem gentle {e : Effect} {o : e.Outcome} {hazard : Hazard} (h : s.Served registry base)
    (isGentle : e.isGentle = true) (step : Step hazard e s o t) :
    t.Served registry base ∧ t.store.ledger = s.store.ledger := by
  obtain ⟨placed, housed⟩ := h.housed
  have ledger : t.store.ledger = s.store.ledger := by
    cases e with
    | store op =>
        have kept := Effect.ledger_of_isQuiet isGentle s.now s.store.ledger
        rcases step.store with ⟨_, _, rfl⟩ | ⟨_, _, _, rfl, _⟩
        · exact kept
        · rfl
    | acquire | release | backend | count | readCounters => rw [step.store_eq nofun]
  have held : t.Housed registry base placed := by
    cases e with
    | backend descriptor call ctx => exact housed.gentle isGentle step
    | acquire | release | store | count | readCounters =>
        have frame := step.backends_eq nofun
        exact housed.congr frame.1 frame.2
  exact ⟨⟨⟨placed, held⟩, step.usable h.usable, ledger ▸ h.registered⟩, ledger⟩

theorem listing (h : s.Served registry base) (ctx : Context) (q : Query) :
    ∃ t, s.runUnder .calm (Dispatch.list registry ctx q) =
        (.ok (Dispatch.firstOfEachId (s.spread q).flatten), t) ∧
      t.Served registry base ∧ s.Alike t := by
  have calm := (Schedule.calm_within .none).moves
  have gentle : (Dispatch.list registry ctx q).Asks Effect.isGentle :=
    Dispatch.list_asks rfl fun _ => rfl
  have kept : (Dispatch.list registry ctx q).Keeps (Step .none)
      (fun t => t.Served registry base ∧ t.store.ledger = s.store.ledger) s fun _ _ => True := by
    refine .of_within gentle ⟨h, rfl⟩ fun _ _ _ _ asks held step => ?_
    obtain ⟨served, same⟩ := held.1.gentle asks step
    exact ⟨served, same.trans held.2⟩
  have held := (kept.widen fun _ held => held).end_of_run calm
  have listed : (Dispatch.list registry ctx q).Keeps (Step .none) anyhow s _ :=
    Dispatch.list_routers h
  have ended := listed.end_of_run calm
  rcases ran : s.runUnder .calm (Dispatch.list registry ctx q) with ⟨answer, t⟩
  rw [ran] at held ended
  cases answer with
  | error failure => exact ended.elim
  | ok routers =>
      obtain ⟨rfl, same⟩ := ended
      refine ⟨t, ?_, held.1.1, held.1.2, same⟩
      rw [spread, homes, ← List.flatMap_def]

theorem answers (h : s.Served registry base) (ctx : Context) (q : Query) (n : Nat)
    (marker : Option String) (held : t.Served registry base ∧ s.Alike t) :
    ∃ u, t.askPage registry ctx q n marker = (.ok (joint n marker (s.spread q.unpaged)), u) ∧
      u.Served registry base ∧ s.Alike u := by
  obtain ⟨u, answer, later, same⟩ := held.1.listing ctx (q.paged n marker)
  refine ⟨u, ?_, later, same.ledger.trans held.2.ledger, same.routers.trans held.2.routers⟩
  have distinct : ((joint n marker (s.spread q.unpaged)).map (·.id)).Nodup :=
    (h.spread_distinct q).sublist ((Listing.joint_sublist _ _ _).map _)
  rw [held.2.spread_eq, spread_paged, Dispatch.firstOfEachId_eq distinct] at answer
  exact answer

theorem asked (h : s.Served registry base) (ctx : Context) (q : Query) (n : Nat)
    (markers : List (Option String)) (held : t.Served registry base ∧ s.Alike t) :
    (t.asked registry ctx q n markers).Served registry base ∧
      s.Alike (t.asked registry ctx q n markers) := by
  induction markers generalizing t with
  | nil => exact held
  | cons marker rest ih =>
      obtain ⟨u, answer, later⟩ := h.answers ctx q n marker held
      have next : (t.askPage registry ctx q n marker).2 = u := by rw [answer]
      rw [← next] at later
      exact ih later

theorem paged (h : s.Served registry base) (ctx : Context) (q : Query) {n : Nat}
    (pos : 0 < n) : s.Paged registry ctx q n := by
  have distinct := h.spread_distinct q
  have start : s.Served registry base ∧ s.Alike s := ⟨h, rfl, rfl⟩
  have answers (marker : Option String) (t : State) := h.answers (t := t) ctx q n marker
  have sublist (marker : Option String) :=
    Listing.joint_sublist n marker (s.spread q.unpaged)
  constructor
  case whole =>
    obtain ⟨t, answer, _⟩ := h.listing ctx q.unpaged
    rw [answer, Dispatch.firstOfEachId_eq distinct]
  case distinct => exact distinct
  case page =>
    intro markers marker
    obtain ⟨t, answer, _⟩ := answers marker _ (h.asked ctx q n markers start)
    exact ⟨t, by rw [answer, spread_paged]⟩
  case bounded =>
    intro marker
    refine ⟨?_, by rw [spread_paged]; exact sublist marker⟩
    intro part member
    obtain ⟨home, _, rfl⟩ := List.mem_map.1 member
    rw [Listing.page_paged]
    exact List.length_take_le _ _
  case met =>
    intro pages t reads
    exact Listing.joint_meets_all answers distinct reads start
  case complete =>
    intro gathered
    simp only [spread_paged]
    rcases gathered with few | one
    · refine ⟨fun marker => Nat.le_trans (sublist marker).length_le (Nat.le_of_lt few), ?_⟩
      obtain ⟨t, answer, _⟩ := answers none s start
      have all := Listing.joint_of_few few
      rw [all] at answer
      exact ⟨_, t, .last answer few, List.flatten_singleton⟩
    · have same (marker : Option String) :
          joint n marker (s.spread q.unpaged) =
            (Listing.afterMarker marker (s.spread q.unpaged).flatten).take n :=
        Listing.joint_of_alone (h.alone_iff.2 one)
      simp only [same] at answers ⊢
      obtain ⟨pages, t, reads, _, _, all⟩ := Listing.reads_all distinct pos answers s start
      exact ⟨fun marker => List.length_take_le _ _, pages, t, reads, all⟩
  case only =>
    intro pages t reads once
    by_cases few : (s.spread q.unpaged).flatten.length < n
    · exact .inl few
    · have single := once.nodup_iff.2 distinct.of_map
      exact .inr (h.alone_iff.1
        (Listing.alone_of_once answers distinct pos reads start (Nat.le_of_not_lt few) single))

end Served

/-- In every state that a router interface over any backends reaches, whatever went wrong on the way,
a page is the backends' own pages one after the other. Read to the end without faults, the pages have
every router of the listing, each once exactly where one backend has them all or they are fewer than
a page. -/
theorem pages_joint {registry : Registry} {seed : Pool} {store : Store} {backends : Dict Backend}
    (start : Start registry seed store backends) (ids : IdSupply) (w : Schedule)
    (ops : List (Context × Dispatch.Operation)) :
    let s := (State.initial (.localPool seed) store backends ids).operate w registry ops
    ids.NoRepeat s.ids →
      ∀ ctx q n, 0 < n → s.Paged registry ctx q n := by
  intro s unique ctx q n pos
  exact ((start.served ids).operate w ops unique).paged ctx q pos

/-- One router on each of two backends. -/
def twoApart : State :=
  (State.initial (.localPool twoResources) .inMemory twoBackends ⟨0⟩).operate .calm twoHomes
    (List.replicate 2 (default, .create .empty))

theorem twoApart_unique : IdSupply.NoRepeat ⟨0⟩ twoApart.ids :=
  IdSupply.noRepeat rfl (by decide +kernel)

theorem twoApart_spread : twoApart.spread Query.all.unpaged = twoApart.homes.map twoApart.routersAt :=
  List.map_congr_left fun _ _ => Listing.page_all _

theorem pages_of_three_joint :
    ∃ pages t, Reads (askPage twoHomes default .all 3) 3 none twoApart pages t ∧
      pages.flatten = (twoApart.homes.map twoApart.routersAt).flatten := by
  have paged : twoApart.Paged twoHomes default .all 3 :=
    pages_joint (twoHomes_start (by decide)) ⟨0⟩ .calm _ twoApart_unique default .all 3 (by decide)
  have few : (twoApart.homes.map twoApart.routersAt).flatten.length < 3 := by decide +kernel
  have read := (paged.complete (.inl (twoApart_spread ▸ few))).2
  rwa [twoApart_spread] at read

/-- Asked for one router, two backends answer two, and no reading ends with each of them once. -/
theorem pages_of_one_overfull :
    (∃ page t, twoApart.askPage twoHomes default .all 1 none = (.ok page, t) ∧ page.length = 2) ∧
      ∀ pages t, Reads (askPage twoHomes default .all 1) 1 none twoApart pages t →
        ¬ pages.flatten.Perm (twoApart.homes.map twoApart.routersAt).flatten := by
  have start : Start twoHomes twoResources .inMemory twoBackends := twoHomes_start (by decide)
  have served : twoApart.Served twoHomes ⟨0⟩ := (start.served ⟨0⟩).operate .calm _ twoApart_unique
  have paged := served.paged default .all Nat.zero_lt_one
  have apart : ¬ Alone (twoApart.spread Query.all.unpaged) := by
    rw [twoApart_spread]
    decide +kernel
  constructor
  · obtain ⟨t, answer⟩ := paged.page [] none
    refine ⟨_, t, answer, ?_⟩
    rw [spread_paged, twoApart_spread]
    decide +kernel
  · intro pages t reads once
    rw [← twoApart_spread] at once
    rcases paged.only pages t reads once with few | one
    · change (twoApart.spread Query.all.unpaged).flatten.length < 1 at few
      rw [twoApart_spread] at few
      exact absurd few (by decide +kernel)
    · exact apart (served.alone_iff.2 one)

end State
end Brokerage
