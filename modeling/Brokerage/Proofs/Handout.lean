import Brokerage.Policy
import Brokerage.Proofs.Decoding
import Brokerage.Proofs.Pool

/-! # Handing out

Requests to a pool, one after the other. The history of the answers says which ids are out: those
that were handed out and not taken back since. The pool is at every time the one that it was made as,
with the entries marked whose ids are out (`Pool.serve_marks`); everything that it answers can be
read off that.
-/

namespace Brokerage

/-- What is asked of a policy. -/
inductive Policy.Request where
  | acquire (type : String)
  | release (id : String)
  deriving DecidableEq, Repr

/-- What a request is answered with when it is granted. -/
def Policy.Request.Answer : Policy.Request → Type
  | acquire _ => Resource
  | release _ => Unit

/-- A request and its answer. -/
structure Policy.Exchange where
  request : Policy.Request
  answer : Except Error request.Answer

namespace Policy

/-- The ids that are out after an exchange. -/
def Exchange.outAfter (out : List String) : Exchange → List String
  | ⟨.acquire _, .ok (r : Resource)⟩ => r.id :: out
  | ⟨.release id, .ok _⟩ => out.filter (· != id)
  | _ => out

/-- The ids that were handed out and not taken back since. -/
def outstanding (history : List Exchange) : List String := history.foldl Exchange.outAfter []

/-- An id stays out as long as it is not taken back. -/
theorem mem_foldl_outAfter {id : String} {history : List Exchange} {out : List String}
    (member : id ∈ out) (kept : ⟨.release id, .ok ()⟩ ∉ history) :
    id ∈ history.foldl Exchange.outAfter out := by
  induction history generalizing out with
  | nil => exact member
  | cons x rest ih =>
      simp only [List.mem_cons, not_or] at kept
      apply ih _ kept.2
      obtain ⟨request, answer⟩ := x
      cases request with
      | acquire type =>
          cases answer with
          | ok r => exact List.mem_cons_of_mem _ member
          | error e => exact member
      | release gone =>
          cases answer with
          | error e => exact member
          | ok _ =>
              have apart : id ≠ gone := by
                rintro rfl
                exact kept.1 rfl
              simp [Exchange.outAfter, member, apart]

/-- Answer requests in turn. -/
def serve {σ : Type} (answer : (request : Request) → σ → Except Error request.Answer × σ) :
    List Request → σ → List Exchange × σ
  | [], s => ([], s)
  | request :: rest, s =>
    let (reply, s) := answer request s
    let (history, s) := serve answer rest s
    (⟨request, reply⟩ :: history, s)

theorem serve_cons {σ : Type} (answer : (request : Request) → σ → Except Error request.Answer × σ)
    (request : Request) (rest : List Request) (s : σ) : serve answer (request :: rest) s =
      (⟨request, (answer request s).1⟩ :: (serve answer rest (answer request s).2).1,
        (serve answer rest (answer request s).2).2) := rfl

end Policy

namespace Pool

open Policy (Request Exchange outstanding)

variable {start p q : Pool} {r x : Resource} {id type : String} {out : List String}

/-- Answer a request; one that is refused changes nothing. -/
def answer (p : Pool) : (request : Request) → Except Error request.Answer × Pool
  | .acquire type =>
    match p.acquire type with
    | .ok (r, q) => (.ok r, q)
    | .error e => (.error e, p)
  | .release id =>
    match p.release id with
    | .ok q => (.ok (), q)
    | .error e => (.error e, p)

def serve (p : Pool) (requests : List Request) : List Exchange × Pool :=
  Policy.serve (fun request p => p.answer request) requests p

theorem serve_cons (p : Pool) (request : Request) (rest : List Request) :
    p.serve (request :: rest) = (⟨request, (p.answer request).1⟩ :: ((p.answer request).2.serve rest).1,
      ((p.answer request).2.serve rest).2) :=
  Policy.serve_cons _ request rest p

theorem answer_acquire (p : Pool) (type : String) :
    (Policy.localPool p).acquire type =
      ((p.answer (.acquire type)).1, .localPool (p.answer (.acquire type)).2) := by
  simp only [Policy.acquire, answer]
  cases p.acquire type <;> rfl

theorem answer_release (p : Pool) (id : String) :
    (Policy.localPool p).release id =
      ((p.answer (.release id)).1, .localPool (p.answer (.release id)).2) := by
  simp only [Policy.release, answer]
  cases p.release id <;> rfl

/-- Every exchange of a history is the answer of the pool that served all before it. -/
theorem serve_split {requests : List Request} {before after : List Exchange} {x : Exchange}
    (h : (p.serve requests).1 = before ++ x :: after) :
    ∃ first, (p.serve first).1 = before ∧ x = ⟨x.request, ((p.serve first).2.answer x.request).1⟩ := by
  induction before generalizing p requests with
  | nil =>
      cases requests with
      | nil => cases h
      | cons request rest =>
          simp only [serve_cons, List.nil_append, List.cons.injEq] at h
          obtain ⟨rfl, -⟩ := h
          exact ⟨[], rfl, rfl⟩
  | cons y before ih =>
      cases requests with
      | nil => cases h
      | cons request rest =>
          simp only [serve_cons, List.cons_append, List.cons.injEq] at h
          obtain ⟨rfl, later⟩ := h
          obtain ⟨first, same, answered⟩ := ih later
          refine ⟨request :: first, ?_, answered⟩
          rw [serve_cons, same]

/-! ## Marks -/

/-- The resource with the mark that its id is out or not. -/
def markIf (out : List String) (r : Resource) : Resource :=
  { r with allocated := decide (r.id ∈ out) }

/-- A pool is as it was made, with the entries marked whose ids are out. -/
def Marks (start : Pool) (out : List String) (p : Pool) : Prop :=
  p.entries = start.entries.map (markIf out)

theorem AllFree.marks (free : start.AllFree) : start.Marks [] start := by
  unfold Marks
  conv_lhs => rw [← List.map_id start.entries]
  apply List.map_congr_left
  intro r member
  simp [markIf, ← free r member]

theorem Marks.find?_isFree (h : start.Marks out p) : p.entries.find? (isFree type) =
    (start.entries.find? fun r => r.type = type && !decide (r.id ∈ out)).map (markIf out) := by
  rw [h, List.find?_map]
  congr 2
  funext r
  exact Bool.and_comm _ _

theorem Marks.ids (h : start.Marks out p) : p.entries.map (·.id) = start.entries.map (·.id) := by
  rw [h, List.map_map]
  rfl

theorem Marks.mark_true (h : start.Marks out p) : start.Marks (id :: out) (p.mark id true) := by
  have entries : p.entries = start.entries.map (markIf out) := h
  simp only [Marks, mark, entries, List.map_map]
  apply List.map_congr_left
  intro r _
  by_cases same : r.id = id <;> simp [markEntry, markIf, same]

theorem Marks.mark_false (h : start.Marks out p) :
    start.Marks (out.filter (· != id)) (p.mark id false) := by
  have entries : p.entries = start.entries.map (markIf out) := h
  simp only [Marks, mark, entries, List.map_map]
  apply List.map_congr_left
  intro r _
  by_cases same : r.id = id <;> simp [markEntry, markIf, same]

/-- A request is granted or refused, by what is out, and what is out afterwards is marked. -/
theorem Marks.acquire_cases (h : start.Marks out p) (type : String) :
    (∃ before r after, start.entries = before ++ r :: after ∧ r.type = type ∧ r.id ∉ out ∧
      (∀ x ∈ before, x.type = type → x.id ∈ out) ∧
      p.answer (.acquire type) = (.ok r.given, p.mark r.id true)) ∨
    ((∀ r ∈ start.entries, r.type = type → r.id ∈ out) ∧
      p.answer (.acquire type) = (.error (.noMoreResources type), p)) := by
  cases found : start.entries.find? fun r => r.type = type && !decide (r.id ∈ out) with
  | none =>
      right
      have refused : p.acquire type = .error (.noMoreResources type) := by
        simp [acquire, h.find?_isFree, found]
      simp only [answer, refused, and_true]
      intro r member
      simpa using List.find?_eq_none.1 found r member
  | some r =>
      left
      obtain ⟨fits, before, after, split, earlier⟩ := List.find?_eq_some_iff_append.1 found
      simp only [Bool.and_eq_true, decide_eq_true_eq, Bool.not_eq_true', decide_eq_false_iff_not]
        at fits
      have granted : p.acquire type = .ok (r.given, p.mark r.id true) := by
        simp [acquire, h.find?_isFree, found, markIf, Resource.given]
      refine ⟨before, r, after, split, fits.1, fits.2, ?_, ?_⟩
      · intro x member kind
        simpa [kind] using earlier x member
      · simp only [answer, granted]

theorem Marks.release_cases (h : start.Marks out p) (id : String) :
    (id ∈ start.entries.map (·.id) ∧ p.answer (.release id) = (.ok (), p.mark id false)) ∨
    (id ∉ start.entries.map (·.id) ∧
      p.answer (.release id) = (.error (.wrongResourceId id), p)) := by
  have known : (p.find? id).isSome ↔ _ := find?_isSome
  rw [h.ids] at known
  by_cases member : id ∈ start.entries.map (·.id)
  · left
    have granted : p.release id = .ok (p.mark id false) := by simp [release, known.2 member]
    exact ⟨member, by simp only [answer, granted]⟩
  · right
    have refused : p.release id = .error (.wrongResourceId id) := by
      rw [release, if_neg fun some => member (known.1 some)]
    exact ⟨member, by simp only [answer, refused]⟩

theorem Marks.answer (h : start.Marks out p) (request : Request) :
    start.Marks (Exchange.outAfter out ⟨request, (p.answer request).1⟩) (p.answer request).2 := by
  cases request with
  | acquire type =>
      rcases h.acquire_cases type with ⟨_, r, _, _, _, _, _, same⟩ | ⟨_, same⟩ <;> rw [same]
      · exact h.mark_true
      · exact h
  | release id =>
      rcases h.release_cases id with ⟨_, same⟩ | ⟨_, same⟩ <;> rw [same]
      · exact h.mark_false
      · exact h

theorem Marks.serve (h : start.Marks out p) (requests : List Request) :
    start.Marks ((p.serve requests).1.foldl Exchange.outAfter out) (p.serve requests).2 := by
  induction requests generalizing p out with
  | nil => exact h
  | cons request rest ih => exact ih (h.answer request)

theorem serve_marks (free : start.AllFree) (requests : List Request) :
    start.Marks (outstanding (start.serve requests).1) (start.serve requests).2 :=
  free.marks.serve requests

/-- Among the entries of a type those are available whose ids are not out. -/
theorem Marks.available (h : start.Marks out p) (type : String) :
    p.available type + start.entries.countP (fun r => r.type = type && decide (r.id ∈ out)) =
      start.entries.countP (·.type = type) := by
  unfold Pool.available
  rw [h, List.countP_map]
  induction start.entries with
  | nil => rfl
  | cons r rest ih =>
      by_cases kind : r.type = type <;> by_cases taken : r.id ∈ out <;>
        simp [isFree, markIf, kind, taken, Function.comp_def] at ih ⊢ <;> omega

theorem Marks.mark_idle (h : start.Marks out p) (idle : id ∉ out) : p.mark id false = p := by
  have entries : (p.mark id false).entries = p.entries := by
    have freed : start.Marks _ (p.mark id false) := h.mark_false
    have same : out.filter (· != id) = out := by
      rw [List.filter_eq_self]
      rintro other member
      simpa using fun same : other = id => idle (same ▸ member)
    rw [same] at freed
    rw [freed, h]
  cases p
  simpa [mark] using entries

/-! ## Pools as they are made -/

/-- The resources that seeds make in turn, and the ids that are left. -/
def makeAll {α : Type} (make : α → IdSupply → Resource × IdSupply) :
    List α → IdSupply → List Resource × IdSupply
  | [], ids => ([], ids)
  | seed :: rest, ids =>
    let (r, ids) := make seed ids
    let (resources, ids) := makeAll make rest ids
    (r :: resources, ids)

theorem add_entries (added : p.add r = .ok q) : q.entries = p.entries ++ [r] := by
  unfold add at added
  split at added
  · cases added
  · cases added
    rfl

theorem fill_entries {α : Type} {make : α → IdSupply → Resource × IdSupply} {seeds : List α}
    {ids ids' : IdSupply} (filled : fill make seeds p ids = .ok (q, ids')) :
    q.entries = p.entries ++ (makeAll make seeds ids).1 ∧ ids' = (makeAll make seeds ids).2 := by
  induction seeds generalizing p ids with
  | nil =>
      cases filled
      exact ⟨(List.append_nil _).symm, rfl⟩
  | cons seed rest ih =>
      obtain ⟨next, added, filled⟩ := bind_eq_ok.1 filled
      obtain ⟨entries, left⟩ := ih filled
      rw [add_entries added, List.append_assoc] at entries
      exact ⟨entries, left⟩

/-- The resources of some settings: those that are configured, then one for each instance. -/
def seeds (settings : PoolSettings) (ids : IdSupply) : List Resource :=
  let (configured, ids) := makeAll ofSeed settings.resources ids
  configured ++ (makeAll (fun (name, address) => ofInstance settings name address)
    settings.instances.entries ids).1

theorem build_entries {settings : PoolSettings} {ids ids' : IdSupply}
    (built : build settings ids = .ok (p, ids')) : p.entries = seeds settings ids := by
  obtain ⟨⟨configured, rest⟩, first, second⟩ := bind_eq_ok.1 built
  obtain ⟨entries, rfl⟩ := fill_entries first
  obtain ⟨more, -⟩ := fill_entries second
  rw [more, entries]
  rfl

theorem put_entries (new : r.id ∉ p.entries.map (·.id)) : (p.put r).entries = p.entries ++ [r] := by
  rw [put, dif_neg new]

theorem mem_put (member : x ∈ (p.put r).entries) : x = r ∨ x ∈ p.entries := by
  unfold put at member
  split at member
  · obtain ⟨old, inside, rfl⟩ := List.mem_map.1 member
    split
    · exact .inl rfl
    · exact .inr inside
  · rcases List.mem_append.1 member with inside | last
    · exact .inr inside
    · exact .inl (List.mem_singleton.1 last)

theorem foldl_put {resources : List Resource}
    (distinct : (p.entries.map (·.id) ++ resources.map (·.id)).Nodup) :
    (resources.foldl (fun p r => p.put { r with allocated := false }) p).entries =
      p.entries ++ resources.map fun r => { r with allocated := false } := by
  induction resources generalizing p with
  | nil => simp
  | cons r rest ih =>
      have new : r.id ∉ p.entries.map (·.id) := by
        intro inside
        exact (List.nodup_append.1 distinct).2.2 r.id inside r.id List.mem_cons_self rfl
      have entries := put_entries (p := p) (r := { r with allocated := false }) new
      rw [List.foldl_cons, ih, entries]
      · simp
      · rw [entries]
        simpa using distinct

theorem ofResources_entries {resources : List Resource} (distinct : (resources.map (·.id)).Nodup) :
    (ofResources resources).entries = resources.map fun r => { r with allocated := false } :=
  foldl_put distinct

/-- A pool as it is made, from settings or from resources. -/
inductive Made (p : Pool) : Prop where
  | settings {settings : PoolSettings} {ids ids' : IdSupply}
    (built : build settings ids = .ok (p, ids'))
  | resources {resources : List Resource} (given : p = ofResources resources)

theorem makeAll_free {α : Type} {make : α → IdSupply → Resource × IdSupply}
    (free : ∀ seed ids, (make seed ids).1.allocated = false) (seeds : List α) (ids : IdSupply) :
    ∀ r ∈ (makeAll make seeds ids).1, r.allocated = false := by
  induction seeds generalizing ids with
  | nil => simp [makeAll]
  | cons seed rest ih =>
      intro r member
      rcases List.mem_cons.1 member with rfl | later
      · exact free seed ids
      · exact ih _ r later

theorem Made.allFree (made : p.Made) : p.AllFree := by
  cases made with
  | settings built =>
      intro r member
      rw [build_entries built] at member
      rcases List.mem_append.1 member with configured | instances
      · refine makeAll_free (fun seed ids => ?_) _ _ r configured
        unfold ofSeed
        split <;> rfl
      · exact makeAll_free (fun _ _ => rfl) _ _ r instances
  | resources given =>
      subst given
      have kept : ∀ (resources : List Resource) (p : Pool), p.AllFree →
          (resources.foldl (fun p r => p.put { r with allocated := false }) p).AllFree := by
        intro resources
        induction resources with
        | nil => exact fun p free => free
        | cons r rest ih =>
            intro p free
            apply ih
            intro x member
            rcases mem_put member with rfl | old
            · rfl
            · exact free x old
      exact kept _ ∅ (List.forall_mem_nil _)

/-! ## What a pool answers -/

/-- What a pool is like after a history of exchanges, and what it answers next. -/
structure Exact (start : Pool) (history : List Exchange) (p : Pool) : Prop where
  /-- An id is handed out a second time only if it was taken back in between. -/
  exclusive : ∀ {before between after type again} {r x : Resource},
    history = before ++ ⟨.acquire type, .ok r⟩ :: between ++ ⟨.acquire again, .ok x⟩ :: after →
    r.id = x.id → ⟨.release r.id, .ok ()⟩ ∈ between
  /-- Ids, order, types, descriptors and metadata stay. -/
  kept : p.blank = start.entries
  marked : ∀ r ∈ p.entries, r.allocated = true ↔ r.id ∈ outstanding history
  available : ∀ type, p.available type +
      start.entries.countP (fun r => r.type = type && decide (r.id ∈ outstanding history)) =
    start.entries.countP (·.type = type)
  exhausted : ∀ type, p.answer (.acquire type) = (.error (.noMoreResources type), p) ↔
    ∀ r ∈ start.entries, r.type = type → r.id ∈ outstanding history
  /-- The earliest entry of the type that is not out is handed out, and its mark alone changes. -/
  granted : ∀ type, (∃ r ∈ start.entries, r.type = type ∧ r.id ∉ outstanding history) →
    ∃ before r after, start.entries = before ++ r :: after ∧ r.type = type ∧
      r.id ∉ outstanding history ∧
      (∀ x ∈ before, x.type = type → x.id ∈ outstanding history) ∧
      p.answer (.acquire type) = (.ok r.given, p.mark r.id true)
  unknown : ∀ id, p.answer (.release id) = (.error (.wrongResourceId id), p) ↔
    id ∉ start.entries.map (·.id)
  released : ∀ id ∈ start.entries.map (·.id), p.answer (.release id) = (.ok (), p.mark id false)
  /-- Taking back what is not out changes nothing. -/
  idle : ∀ id ∈ start.entries.map (·.id), id ∉ outstanding history →
    p.answer (.release id) = (.ok (), p)

theorem Marks.blank_eq (free : start.AllFree) (h : start.Marks out p) : p.blank = start.entries := by
  rw [← free.blank_eq, blank, h, List.map_map]
  rfl

/-- What was handed out is out until it is taken back, and what is out is not handed out. -/
theorem serve_exclusive (free : start.AllFree) {requests : List Request}
    {before between after : List Exchange} {again : String}
    (h : (start.serve requests).1 =
      before ++ ⟨.acquire type, .ok r⟩ :: between ++ ⟨.acquire again, .ok x⟩ :: after)
    (same : r.id = x.id) : ⟨.release r.id, .ok ()⟩ ∈ between := by
  obtain ⟨first, served, answered⟩ := serve_split h
  have marks := serve_marks free first
  rw [served] at marks
  by_contra kept
  have out : r.id ∈ outstanding (before ++ ⟨.acquire type, .ok r⟩ :: between) := by
    rw [outstanding, List.foldl_append, List.foldl_cons]
    exact Policy.mem_foldl_outAfter List.mem_cons_self kept
  simp only [Exchange.mk.injEq, heq_eq_eq, true_and] at answered
  rcases marks.acquire_cases again with ⟨_, y, _, _, _, apart, _, granted⟩ | ⟨_, refused⟩
  · rw [granted] at answered
    obtain rfl : x = y.given := Except.ok.inj answered
    exact apart (same ▸ out)
  · rw [refused] at answered
    cases answered

/-- Whatever is asked of a pool in whatever order, nothing is handed out twice, the earliest free
entry of a type is handed out, and only what is out is missing. -/
theorem handout_exact (made : start.Made) (requests : List Request) :
    Exact start (start.serve requests).1 (start.serve requests).2 := by
  have free := made.allFree
  have marks := serve_marks free requests
  constructor
  case exclusive =>
    intro before between after type again r x history same
    exact serve_exclusive free history same
  case kept => exact marks.blank_eq free
  case marked =>
    intro r member
    rw [marks] at member
    obtain ⟨old, _, rfl⟩ := List.mem_map.1 member
    simp [markIf]
  case available => exact marks.available
  case exhausted =>
    intro type
    rcases marks.acquire_cases type with ⟨_, r, _, split, kind, apart, _, granted⟩ | ⟨all, refused⟩
    · constructor
      · intro refused
        rw [granted] at refused
        cases refused
      · intro all
        exact absurd (all r (by simp [split]) kind) apart
    · simp only [refused, true_iff]
      exact all
  case granted =>
    rintro type ⟨r, member, kind, apart⟩
    rcases marks.acquire_cases type with found | ⟨all, _⟩
    · exact found
    · exact absurd (all r member kind) apart
  case unknown =>
    intro id
    rcases marks.release_cases id with ⟨member, granted⟩ | ⟨missing, refused⟩
    · simp [granted, member]
    · simp [refused, missing]
  case released =>
    intro id member
    rcases marks.release_cases id with ⟨_, granted⟩ | ⟨missing, _⟩
    · exact granted
    · exact absurd member missing
  case idle =>
    intro id member apart
    rcases marks.release_cases id with ⟨_, granted⟩ | ⟨missing, _⟩
    · rw [granted, marks.mark_idle apart]
    · exact absurd member missing

/-- Two routers and a link. -/
def mixed : Pool :=
  ofResources [⟨"r1", "router", true, "edge", ∅⟩, ⟨"l1", "link", false, "core", ∅⟩,
    ⟨"r2", "router", false, "core", ∅⟩]

/-- When both routers are out, a third request for one is refused, and the link can be taken back
without any change. -/
theorem routers_run_out :
    let served := mixed.serve [.acquire "router", .acquire "router"]
    outstanding served.1 = ["r2", "r1"] ∧ served.2.available "router" = 0 ∧
      served.2.answer (.acquire "router") = (.error (.noMoreResources "router"), served.2) ∧
      served.2.answer (.release "l1") = (.ok (), served.2) := by
  intro served
  have exact : Exact mixed served.1 served.2 := handout_exact (.resources rfl) _
  have out : outstanding served.1 = ["r2", "r1"] := by decide
  refine ⟨out, ?_, ?_, ?_⟩
  · have counted := exact.available "router"
    have both : mixed.entries.countP (fun r => r.type = "router" &&
        decide (r.id ∈ ["r2", "r1"])) = mixed.entries.countP (·.type = "router") := by decide
    rw [out, both] at counted
    exact Nat.add_eq_right.1 counted
  · rw [exact.exhausted, out]
    decide
  · apply exact.idle
    · decide
    · rw [out]
      decide

end Pool
end Brokerage
