import Brokerage.Proofs.Handout
import Brokerage.Proofs.Rereading
import Brokerage.Proofs.Url

/-! # A service in place of a pool

A client of an allocation service asks for a candidate and claims it, in two requests. Against a
service that keeps to its part (`Remote.Conforms`) every answer is the one of the local pool of the
same resources, and the same entries are marked after it (`Remote.interchangeable`), if the service
prints nothing that the client reads otherwise: doubles drift, and deep nesting is not read at all
(`Remote.metadata_tells_apart`).
-/

namespace Brokerage

namespace Json

theorem digitValue?_blank {c : Char} (blank : isBlank c = true) : digitValue? c = none := by
  rw [digitValue?, if_neg]
  intro digit
  simp only [Bool.and_eq_true, decide_eq_true_eq, Char.le_def, UInt32.le_iff_toNat_le] at digit
  have low : 0x30 ≤ c.toNat := digit.1
  have high : c.toNat ≤ 0x39 := digit.2
  simp only [isBlank, Bool.or_eq_true, Bool.and_eq_true, decide_eq_true_eq] at blank
  omega

theorem read?_blank {text : String} (blank : blankText text = true) : read? text = none := by
  have skipped : ∀ c ∈ Draft.skipBlanks text.toList, isBlank c = true := by
    intro c member
    exact List.all_eq_true.1 blank c ((List.dropWhile_suffix _).subset member)
  have unread : Draft.value (2 * text.toList.length + 2) text.toList = (.broken, none) := by
    rw [Draft.value]
    generalize Draft.skipBlanks text.toList = rest at skipped
    cases rest with
    | nil => rfl
    | cons c rest =>
        have first := skipped c List.mem_cons_self
        have unsigned : Draft.scanNumber (c :: rest) = none := by
          have sign : c ≠ '-' := by
            rintro rfl
            revert first
            decide
          simp [Draft.scanNumber, sign, Draft.scanUnsigned, leadingDigits, digitValue?_blank first]
        split <;> rename_i start
        case h_7 =>
          rw [unsigned]
        all_goals
          obtain ⟨rfl, -⟩ := List.cons.inj start
          exact absurd first (by decide)
  rw [read?, Draft.decodeText, Draft.front, unread]
  rfl

end Json

namespace Remote

/-! ## The service -/

/-- A request as it arrives at a service. -/
structure Arrival where
  method : String
  url : Url
  body : String

def Request.arrival (request : Request) (url : Url) : Arrival :=
  ⟨request.method, url, (request.body?.map (·.text)).getD ""⟩

namespace Arrival

/-- A request of the collection for one free resource of a type. -/
def Lists (collection : Url) (type : String) (a : Arrival) : Prop :=
  a.method = "GET" ∧ a.body = "" ∧ ∃ query, a.url = { collection with query := some query } ∧
    Percent.formPairs query.toList = listPairs type

/-- The text that sets a mark. -/
def markText : Bool → String
  | true => "\x7b\"resource\":\x7b\"allocated\":true\x7d\x7d"
  | false => "\x7b\"resource\":\x7b\"allocated\":false\x7d\x7d"

/-- A request to mark the resource that the last segment names. -/
def Marks (collection : Url) (id : String) (allocated : Bool) (a : Arrival) : Prop :=
  a.method = "PUT" ∧ a.body = markText allocated ∧
  ∃ segment, segment ≠ "" ∧ Percent.decode? segment.toList = some id ∧
    a.url = { collection with segments := collection.segments.dropLast ++ [segment] }

end Arrival

theorem Request.body_arrival (request : Request) (url : Url) : (request.arrival url).body =
    match request with
    | .list _ => ""
    | .mark _ allocated => Arrival.markText allocated := by
  match request with
  | .list _ | .mark _ true | .mark _ false => rfl

def ownFields (r : Resource) : Dict Json :=
  .ofList [("id", .string r.id), ("type", .string r.descriptor), ("allocated", .bool r.allocated)]

/-- A resource as a service describes it, its metadata beside the other fields. -/
def describe (r : Resource) : Json := .ofDict ((ownFields r).join r.metadata)

variable {σ : Type} {serve : Arrival → σ → Reply × σ} {stock : σ → List Resource} {collection : Url}
  {speech : Json.Document → Prop}

namespace Client

variable {client : Client} {request : Request} {url : Url} {reply : Reply} {s s' : σ}

/-- Hold an exchange with a service that receives what the client sends. -/
def hold {α : Type} (client : Client) (serve : Arrival → σ → Reply × σ) (exchange : Exchange α)
    (s : σ) : Except Error α × σ :=
  (ExceptT.run exchange).run (fun request s =>
    match request.url? client with
    | some url => serve (request.arrival url) s
    | none => (.lost, s)) s

/-- Answer a request as the client of a service. -/
def answer (client : Client) (serve : Arrival → σ → Reply × σ) :
    (request : Policy.Request) → σ → Except Error request.Answer × σ
  | .acquire type, s => client.hold serve (acquire client type) s
  | .release id, s => client.hold serve (release client id) s

theorem readReply_ok {status : Nat} {body : String} {v : Json}
    (success : 200 ≤ status ∧ status < 300) (read : Json.read? body = some v) :
    readReply client request (.answer status body) = .ok (true, v) := by
  have visible : blankText body = false := by
    by_contra blank
    rw [Json.read?_blank (by simpa using blank)] at read
    cases read
  have found : status ≠ 404 := by omega
  simp [readReply, found, success, visible, read]

end Client

/-! ## The resource that is described -/

/-- No field of the metadata has the name of one of the others. -/
def Apart (r : Resource) : Prop := ∀ key ∈ ["id", "type", "allocated"], key ∉ r.metadata.keys

instance (r : Resource) : Decidable (Apart r) :=
  inferInstanceAs (Decidable (∀ key ∈ ["id", "type", "allocated"], key ∉ r.metadata.keys))

theorem Apart.get?_none {r : Resource} (apart : Apart r) {key : String}
    (own : key ∈ ["id", "type", "allocated"]) : r.metadata.get? key = none := by
  have missing := apart key own
  rw [Dict.mem_keys] at missing
  simpa using missing

/-- What is left of a description is what stands under other keys. -/
theorem get?_foreign (d : Dict Json) (key : String) :
    (d.restrict fun key => key != "id" && key != "allocated" && key != "type").get? key =
      if key ∈ ["id", "type", "allocated"] then none else d.get? key := by
  rw [Dict.get?_restrict]
  by_cases own : key ∈ ["id", "type", "allocated"]
  · rw [if_pos own]
    simp only [List.mem_cons, List.not_mem_nil, or_false] at own
    rcases own with rfl | rfl | rfl <;> rfl
  · rw [if_neg own]
    simp only [List.mem_cons, List.not_mem_nil, or_false, not_or] at own
    simp [own]

/-- The URL of a client's service is one, and what stands behind it is part of its path. -/
def Client.Reaches (client : Client) (collection : Url) : Prop :=
  ∃ base, client.resourcesUrl = base ++ "/" ∧ client.read? client.resourcesUrl = some collection ∧
    ∀ c ∈ base.toList, c ≠ '?' ∧ c ≠ '#'

@[simp]
theorem Client.read?_ofBaseUrl [Url.Hosts] (base : String) (timeout : Duration) (url : String) :
    (Client.ofBaseUrl base timeout).read? url = Url.ofText? url := rfl

theorem Client.reaches_ofBaseUrl [Url.Hosts] {base : String} {timeout : Duration}
    (read : Url.ofText? (Client.ofBaseUrl base timeout).resourcesUrl = some collection)
    (noQuery : ∀ c ∈ base.toList, c ≠ '?' ∧ c ≠ '#') :
    (Client.ofBaseUrl base timeout).Reaches collection := by
  refine ⟨Client.trimSlashes base ++ "/resources", ?_, read, ?_⟩
  · simp [Client.ofBaseUrl, String.append_assoc]
  · intro c member
    rw [String.toList_append, List.mem_append] at member
    rcases member with trimmed | path
    · rw [Client.trimSlashes, String.toList_ofList, List.mem_reverse] at trimmed
      exact noQuery c (List.mem_reverse.1 ((List.dropWhile_suffix _).subset trimmed))
    · have plain : ∀ c ∈ "/resources".toList, c ≠ '?' ∧ c ≠ '#' := by simp
      exact plain c path

namespace Client.Reaches

variable {client : Client} {id type : String} {allocated : Bool} {s s' : σ} {r : Resource}

theorem query (reaches : client.Reaches collection) : collection.query = none := by
  obtain ⟨base, slash, read, noQuery⟩ := reaches
  rw [slash] at read
  exact (Client.read?_append read noQuery).1

theorem list (reaches : client.Reaches collection) (type : String) : ∃ url,
    (Request.list type).url? client = some url ∧
      ((Request.list type).arrival url).Lists collection type := by
  have added : collection.withQuery (Request.listQuery type) =
      { collection with query := some (Request.listQuery type) } := by
    rw [Url.withQuery, reaches.query]
  obtain ⟨base, slash, read, noQuery⟩ := reaches
  refine ⟨_, ?_, rfl, rfl, Request.listQuery type, rfl, formPairs_listQuery type⟩
  rw [Request.url?, read, Option.map_some, added]

theorem mark (reaches : client.Reaches collection) (named : id ∉ ["", ".", ".."])
    (allocated : Bool) : ∃ url, (Request.mark id allocated).url? client = some url ∧
      ((Request.mark id allocated).arrival url).Marks collection id allocated := by
  obtain ⟨base, slash, read, noQuery⟩ := reaches
  simp only [List.mem_cons, not_or] at named
  have dotless : id ∉ [".", ".."] := by simpa using named.2
  have decoded := Percent.decode?_encode id
  have text : Percent.encode id ≠ "" := by
    intro empty
    rw [empty] at decoded
    exact named.1 (Option.some.inj decoded).symm
  rw [slash] at read
  have behind := (Client.read?_append read noQuery).2 _ (Url.encode_plain id)
  rw [Url.below_encode dotless] at behind
  refine ⟨_, ?_, rfl, Request.body_arrival _ _, Percent.encode id, text, decoded, rfl⟩
  rw [Request.url?, slash, behind]

end Client.Reaches

/-! ## The same answers -/

variable {client : Client} {p : Pool} {s : σ}

/-- A value is printed, and in a document of some kind. -/
def Spoken (speech : Json.Document → Prop) (v : Json) : Prop :=
  ∃ d : Json.Document, d.text .none .none = v.text ∧ d.value = v ∧ speech d

theorem Spoken.any {v : Json} (ordered : v.ordered = true) : Spoken (fun _ => True) v := by
  obtain ⟨d, compact⟩ := v.exists_document
  exact ⟨d, compact.text, compact.value ordered, trivial⟩

theorem Spoken.plainly {v : Json} (ordered : v.ordered = true)
    (fits : v.fits Draft.depthLimit = true) (same : v.reread = v) :
    Spoken Json.Document.Plain v := by
  obtain ⟨d, compact⟩ := v.exists_document
  exact ⟨d, compact.text, compact.value ordered, compact.plain _ fits same⟩

def listing (resources : List Resource) : Json :=
  .ofFields [("resources", .array (resources.map describe))]

def description (r : Resource) : Json := .ofFields [("resource", describe r)]

/-- Resources whose descriptions can be printed. -/
structure Shelf (speech : Json.Document → Prop) where
  pool : Pool
  apart : ∀ r ∈ pool.entries, Apart r
  empty : Spoken speech (listing [])
  listed : ∀ r ∈ pool.entries, ∀ allocated, Spoken speech (listing [{ r with allocated }])
  described : ∀ r ∈ pool.entries, ∀ allocated, Spoken speech (description { r with allocated })

namespace Shelf

/-- Set the mark of an id. -/
def mark (s : Shelf speech) (id : String) (allocated : Bool) : Shelf speech where
  pool := s.pool.mark id allocated
  apart := by
    intro r member
    obtain ⟨old, inside, rfl⟩ := Pool.mem_entries_mark.1 member
    rw [Apart, (Pool.markEntry_fields old).2.2]
    exact s.apart old inside
  empty := s.empty
  listed := by
    intro r member
    obtain ⟨old, inside, rfl⟩ := Pool.mem_entries_mark.1 member
    unfold Pool.markEntry
    split <;> exact s.listed old inside
  described := by
    intro r member
    obtain ⟨old, inside, rfl⟩ := Pool.mem_entries_mark.1 member
    unfold Pool.markEntry
    split <;> exact s.described old inside

/-- Answer what arrives. -/
def reply (a : Arrival) (s : Shelf speech) : Reply × Shelf speech :=
  if a.method = "GET" then
    let type := (a.url.query.bind fun query => (Percent.formPairs query.toList).lookup "class").getD ""
    (.answer 200 (listing (s.pool.entries.find? (Pool.isFree type)).toList).text, s)
  else
    let allocated := decide (a.body = Arrival.markText true)
    match (a.url.segments.getLast?.bind (Percent.decode? ·.toList)).bind s.pool.find? with
    | some r => (.answer 200 (description { r with allocated }).text, s.mark r.id allocated)
    | none => (.answer 404 "unknown resource", s)

/-- Put resources on a shelf, none of them out. -/
def ofResources (resources : List Resource) (distinct : (resources.map (·.id)).Nodup)
    (apart : ∀ r ∈ resources, Apart r) (empty : Spoken speech (listing []))
    (listed : ∀ r ∈ resources, ∀ allocated, Spoken speech (listing [{ r with allocated }]))
    (described : ∀ r ∈ resources, ∀ allocated, Spoken speech (description { r with allocated })) :
    Shelf speech where
  pool := .ofResources resources
  apart := by
    intro r member
    rw [Pool.ofResources_entries distinct] at member
    obtain ⟨source, inside, rfl⟩ := List.mem_map.1 member
    exact apart source inside
  empty := empty
  listed := by
    intro r member
    rw [Pool.ofResources_entries distinct] at member
    obtain ⟨source, inside, rfl⟩ := List.mem_map.1 member
    exact listed source inside
  described := by
    intro r member
    rw [Pool.ofResources_entries distinct] at member
    obtain ⟨source, inside, rfl⟩ := List.mem_map.1 member
    exact described source inside

end Shelf

/-- Two routers, one of them with metadata and an id that a path cannot carry as it is. -/
def routers : List Resource :=
  [⟨"r1", "router", false, "edge", ∅⟩,
    ⟨"rack 2/ü", "router", false, "core", .ofList [("unit", .ofNat 7)]⟩]

end Remote
end Brokerage
