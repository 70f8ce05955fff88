import Brokerage.Proofs.Legibility
import Brokerage.Proofs.Replies

/-! # What a description is translated to

A service describes a resource by a JSON object. The fields that say what the resource is become
its parts, and all others become its metadata as they are. So the resource and the `id` that it was
given tell what its description was, but for one thing: a resource that is out may have been said to
be so, or nothing was said about it.
-/

namespace Brokerage

namespace Json

variable {v : Json} {key : String} {entries : List (String × Json)}

theorem ordered_of_read? {text : String} (h : read? text = some v) : v.ordered = true :=
  Draft.ordered_of_asJson _ (Draft.decodeText_ok (decoded_of_read? h))

theorem dict_of_field? (ordered : v.ordered = true) (found : v.field? key = some (.object entries)) :
    ∃ d : Dict Json, d.entries = entries := by
  cases v with
  | object fields =>
      obtain ⟨before, after, rfl, -⟩ := List.lookup_eq_some_iff.1 found
      have inner := orderedEntries_iff.1 (Bool.and_eq_true_iff.1 ordered).2
      have own : (Json.object entries).ordered = true := inner (key, .object entries) (by simp)
      exact ⟨⟨entries, of_decide_eq_true (Bool.and_eq_true_iff.1 own).1⟩, rfl⟩
  | _ => cases found

end Json

namespace Remote

variable {d other : Dict Json} {fallback type : String} {r r' : Resource}
  {entries : List (String × Json)}

/-- The fields of a description are those of a dictionary. -/
theorem Reply.Describes.dict {reply : Reply} (h : reply.Describes entries) :
    ∃ d : Dict Json, d.entries = entries := by
  obtain ⟨-, v, ⟨status, body, -, -, read⟩, held⟩ := h
  exact Json.dict_of_field? (Json.ordered_of_read? read) held

/-- The id of a resource by what its description has as `id`: a text as it is, a number as it is
written in JSON, and otherwise the id that the resource was claimed by. -/
inductive Names (fallback : String) : Option Json → String → Prop where
  | text (id : String) : Names fallback (some (.string id)) id
  | number (n : Number) : Names fallback (some (.number n)) (Json.number n).text
  | unnamed {held : Option Json} (noText : ∀ id, held ≠ some (.string id))
    (noNumber : ∀ n, held ≠ some (.number n)) : Names fallback held fallback

theorem names_idOf (fallback : String) (held : Option Json) :
    Names fallback held ((held.bind idOf).getD fallback) := by
  cases held with
  | none => exact .unnamed nofun nofun
  | some v =>
      cases v with
      | string id => exact .text id
      | number n => exact .number n
      | null | bool | array | object => exact .unnamed nofun nofun

theorem Names.unique {held : Option Json} {id id' : String} (h : Names fallback held id)
    (h' : Names fallback held id') : id = id' := by
  cases h with
  | text =>
      cases h' with
      | text => rfl
      | unnamed noText _ => exact absurd rfl (noText _)
  | number =>
      cases h' with
      | number => rfl
      | unnamed _ noNumber => exact absurd rfl (noNumber _)
  | unnamed noText noNumber =>
      cases h' with
      | text => exact absurd rfl (noText _)
      | number => exact absurd rfl (noNumber _)
      | unnamed => rfl

/-- Whether a resource is out by its description. One that was claimed is out unless the
description says otherwise. -/
def Marked (d : Dict Json) (allocated : Bool) : Prop :=
  d.get? "allocated" = some (.bool allocated) ∨ d.get? "allocated" = none ∧ allocated = true

theorem Marked.unique {allocated allocated' : Bool} (h : Marked d allocated)
    (h' : Marked d allocated') : allocated = allocated' := by
  rcases h with said | ⟨unsaid, rfl⟩
  · rcases h' with said' | ⟨unsaid, -⟩
    · simpa using said.symm.trans said'
    · cases said.symm.trans unsaid
  · rcases h' with said | ⟨-, rfl⟩
    · cases unsaid.symm.trans said
    · rfl

/-- The resource that a description stands for, if it was asked for by this type. -/
structure Translates (d : Dict Json) (fallback type : String) (r : Resource) : Prop where
  id : Names fallback (d.get? "id") r.id
  type : r.type = type
  descriptor : d.get? "type" = some (.string r.descriptor)
  allocated : Marked d r.allocated
  apart : Apart r
  rest : ∀ key ∉ ["id", "type", "allocated"], r.metadata.get? key = d.get? key

theorem resourceOf_parts (h : resourceOf entries fallback type = .ok r) :
    r.id = ((entries.lookup "id").bind idOf).getD fallback ∧ r.type = type ∧
      entries.lookup "type" = some (.string r.descriptor) ∧
      (entries.lookup "allocated" = some (.bool r.allocated) ∨
        entries.lookup "allocated" = none ∧ r.allocated = true) := by
  simp only [resourceOf, bind, Except.bind, pure, Except.pure] at h
  split at h
  · rename_i marked
    split at h
    · rename_i typed
      cases h
      exact ⟨rfl, rfl, typed, .inl marked⟩
    · cases h
  · cases h
  · rename_i marked
    split at h
    · rename_i typed
      cases h
      exact ⟨rfl, rfl, typed, .inr ⟨marked, rfl⟩⟩
    · cases h

theorem resourceOf_translates (h : resourceOf d.entries fallback type = .ok r) :
    Translates d fallback type r := by
  obtain ⟨id, same, typed, marked⟩ := resourceOf_parts h
  have metadata := resourceOf_metadata h
  rw [Dict.ofList_entries] at metadata
  constructor
  case id => exact id ▸ names_idOf fallback (d.get? "id")
  case type => exact same
  case descriptor => exact typed
  case allocated => exact marked
  case apart =>
    intro key own
    rw [Dict.mem_keys, metadata, get?_foreign, if_pos own]
    simp
  case rest =>
    intro key foreign
    rw [metadata, get?_foreign, if_neg foreign]

namespace Translates

theorem unique (h : Translates d fallback type r) (h' : Translates d fallback type r') : r = r' := by
  have id : r.id = r'.id := h.id.unique h'.id
  have kind : r.type = r'.type := h.type.trans h'.type.symm
  have descriptor : r.descriptor = r'.descriptor := by
    have both := h.descriptor.symm.trans h'.descriptor
    simpa using both
  have allocated : r.allocated = r'.allocated := h.allocated.unique h'.allocated
  have metadata : r.metadata = r'.metadata := by
    apply Dict.ext_get?
    intro key
    by_cases own : key ∈ ["id", "type", "allocated"]
    · rw [h.apart.get?_none own, h'.apart.get?_none own]
    · rw [h.rest key own, h'.rest key own]
  cases r
  cases r'
  rw [Resource.mk.injEq]
  exact ⟨id, kind, allocated, descriptor, metadata⟩

theorem sound (h : Translates d fallback type r) : ¬ Defective d.entries := by
  rintro (untyped | ⟨v, held, other⟩)
  · exact untyped _ h.descriptor
  · rcases h.allocated with said | ⟨unsaid, -⟩
    · cases held.symm.trans said
      exact other _ rfl
    · cases held.symm.trans unsaid

end Translates

theorem resourceOf_eq_ok :
    resourceOf d.entries fallback type = .ok r ↔ Translates d fallback type r := by
  refine ⟨resourceOf_translates, fun h => ?_⟩
  rcases resourceOf_cases d.entries fallback type with ⟨-, own, translated⟩ | ⟨defective, -⟩
  · rw [translated, h.unique (resourceOf_translates translated)]
  · exact absurd defective h.sound

/-! ## What is lost -/

/-- One description leaves out that its resource is out, the other one says so. -/
def Unsaid (d other : Dict Json) : Prop :=
  d.get? "allocated" = none ∧ other = d.insert "allocated" (.bool true)

namespace Translates

/-- Of descriptions of one resource only the mark can differ. -/
theorem agree (h : Translates d fallback type r) (h' : Translates other fallback type r)
    (ids : other.get? "id" = d.get? "id") {key : String} (unmarked : key ≠ "allocated") :
    other.get? key = d.get? key := by
  by_cases own : key ∈ ["id", "type", "allocated"]
  · simp only [List.mem_cons, List.not_mem_nil, or_false, unmarked] at own
    rcases own with rfl | rfl
    · exact ids
    · rw [h.descriptor, h'.descriptor]
  · rw [← h.rest key own, h'.rest key own]

theorem difference (h : Translates d fallback type r) (h' : Translates other fallback type r)
    (ids : other.get? "id" = d.get? "id") : other = d ∨ Unsaid d other ∨ Unsaid other d := by
  have elsewhere : ∀ key, key ≠ "allocated" → other.get? key = d.get? key :=
    fun _ unmarked => h.agree h' ids unmarked
  have equal (marks : other.get? "allocated" = d.get? "allocated") : other = d := by
    apply Dict.ext_get?
    intro key
    by_cases mark : key = "allocated"
    · rw [mark, marks]
    · exact elsewhere key mark
  rcases h.allocated with said | ⟨unsaid, out⟩
  · rcases h'.allocated with said' | ⟨unsaid', out'⟩
    · exact .inl (equal (said'.trans said.symm))
    · rw [out'] at said
      have back : ∀ key, key ≠ "allocated" → d.get? key = other.get? key :=
        fun key unmarked => (elsewhere key unmarked).symm
      exact .inr (.inr ⟨unsaid', Dict.eq_insert said back⟩)
  · rcases h'.allocated with said' | ⟨unsaid', -⟩
    · rw [out] at said'
      exact .inr (.inl ⟨unsaid, Dict.eq_insert said' elsewhere⟩)
    · exact .inl (equal (unsaid'.trans unsaid.symm))

theorem congr (h : Translates d fallback type r)
    (elsewhere : ∀ key, key ≠ "allocated" → other.get? key = d.get? key)
    (marked : Marked other r.allocated) : Translates other fallback type r where
  id := by
    rw [elsewhere "id" (by decide)]
    exact h.id
  type := h.type
  descriptor := by
    rw [elsewhere "type" (by decide)]
    exact h.descriptor
  allocated := marked
  apart := h.apart
  rest key foreign := by
    have unmarked : key ≠ "allocated" := by
      rintro rfl
      simp at foreign
    rw [h.rest key foreign, elsewhere key unmarked]

/-- What a description leaves unsaid makes no difference. -/
theorem unsaid_iff (h : Unsaid d other) :
    Translates other fallback type r ↔ Translates d fallback type r := by
  obtain ⟨unsaid, rfl⟩ := h
  have elsewhere : ∀ key, key ≠ "allocated" →
      (d.insert "allocated" (.bool true)).get? key = d.get? key :=
    fun key unmarked => by rw [Dict.get?_insert, if_neg unmarked]
  have said : (d.insert "allocated" (.bool true)).get? "allocated" = some (.bool true) := by
    rw [Dict.get?_insert, if_pos rfl]
  constructor
  · intro h
    have out : r.allocated = true := h.allocated.unique (.inl said)
    exact h.congr (fun key unmarked => (elsewhere key unmarked).symm) (.inr ⟨unsaid, out⟩)
  · intro h
    have out : r.allocated = true := h.allocated.unique (.inr ⟨unsaid, rfl⟩)
    exact h.congr elsewhere (.inl (by rw [said, out]))

end Translates

/-- A description is refused just if it is defective, and any other stands for one resource that
keeps what it says. Another description with the same `id` stands for the same resource only if it
is the same one, or if one of them leaves out what the other one says: that the resource is out. -/
theorem translation_lossless (d : Dict Json) (fallback type : String) :
    ((∃ e, resourceOf d.entries fallback type = .error e) ↔ Defective d.entries) ∧
      (∀ r, resourceOf d.entries fallback type = .ok r ↔ Translates d fallback type r) ∧
      (∀ other r, other.get? "id" = d.get? "id" → resourceOf d.entries fallback type = .ok r →
        (resourceOf other.entries fallback type = .ok r ↔
          other = d ∨ Unsaid d other ∨ Unsaid other d)) ∧
      ∀ reply entries, Reply.Describes reply entries → ∃ d : Dict Json, d.entries = entries := by
  refine ⟨defective_iff, fun _ => resourceOf_eq_ok, ?_, fun _ _ describes => describes.dict⟩
  intro other r ids translated
  have h := resourceOf_translates translated
  constructor
  · intro again
    exact h.difference (resourceOf_translates again) ids
  · rintro (rfl | unsaid | unsaid)
    · exact translated
    · exact resourceOf_eq_ok.2 ((Translates.unsaid_iff unsaid).2 h)
    · exact resourceOf_eq_ok.2 ((Translates.unsaid_iff unsaid).1 h)

/-- A description whose id is a number beyond the 64-bit integers. -/
theorem large_id_translated :
    let d : Dict Json := .ofList [("id", .number (.float ⟨false, 2 ^ 52, 1074 + 12, by decide⟩)),
      ("type", .string "edge"), ("ip", .string "10.0.0.5"), ("unit", .null)]
    let r : Resource := ⟨"1.8446744073709552e+19", "router", true, "edge",
      .ofList [("ip", .string "10.0.0.5"), ("unit", .null)]⟩
    let other := d.insert "allocated" (.bool true)
    (other.get? "id" = d.get? "id" ∧ resourceOf d.entries "r" "router" = .ok r) ∧
      resourceOf other.entries "r" "router" = .ok r := by
  intro d r other
  have unsaid : d.get? "allocated" = none := by decide +kernel
  have ids : other.get? "id" = d.get? "id" := by decide +kernel
  have translated : resourceOf d.entries "r" "router" = .ok r := by decide +kernel
  have lossless := (translation_lossless d "r" "router").2.2.1 other r ids translated
  exact ⟨⟨ids, translated⟩, lossless.2 (.inr (.inl ⟨unsaid, rfl⟩))⟩

end Remote
end Brokerage
