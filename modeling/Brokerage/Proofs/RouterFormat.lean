import Brokerage.Proofs.Paging
import Brokerage.Proofs.Rereading

/-! # The JSON objects of routers

A router's own fields and its attributes share one object. No attribute of a router stands under the
key of a field, so the object has every key once and says all that the router has: decoded, it is the
router again. What a decoder does not know is an attribute and stays one.
-/

namespace Brokerage

namespace Json

/-- A value as it is decoded: its integers have 64 bits, its containers fit into the room, and its
entries are in order. -/
def Proper (room : Nat) (v : Json) : Prop := v.fits room = true ∧ v.ordered = true

theorem proper_ofDict {room : Nat} {d : Dict Json} :
    (ofDict d).Proper (room + 1) ↔ ∀ key v, d.get? key = some v → v.Proper room := by
  have fits : (ofDict d).fits (room + 1) = fitsEntries room d.entries := rfl
  have ordered : (ofDict d).ordered = orderedEntries d.entries := by
    rw [ofDict, Json.ordered, decide_eq_true d.ascending, Bool.true_and]
  simp only [Proper, fits, ordered, fitsEntries_iff, orderedEntries_iff, ← Dict.mem_entries]
  constructor
  · intro h key v member
    exact ⟨h.1 _ member, h.2 _ member⟩
  · intro h
    exact ⟨fun e member => (h e.1 e.2 member).1, fun e member => (h e.1 e.2 member).2⟩

theorem ofDict_inj {d other : Dict Json} (h : ofDict d = ofDict other) : d = other := by
  cases d
  cases other
  cases Json.object.inj h
  rfl

theorem Proper.decode {room : Nat} {v : Json} (h : v.Proper room) :
    Draft.asJson room (Draft.ofJson v) = .ok v :=
  Draft.asJson_ordered v h.1 h.2

theorem proper_of_asJson {room : Nat} {d : Draft} {v : Json} (fits : d.Fits)
    (h : Draft.asJson room d = .ok v) : v.Proper room :=
  ⟨Draft.fits_of_asJson d fits h, Draft.ordered_of_asJson d h⟩

end Json

namespace Draft

variable {room : Nat} {d : Draft}

theorem asJson_of_asText {text : String} (h : asText room d = .ok text) :
    asJson room d = .ok (.string text) := by
  cases d with
  | string read =>
      cases read with
      | none => cases h
      | some read =>
          cases h
          rfl
  | _ => cases h

theorem asJson_of_asName {name : Option String} (h : asOption asText room d = .ok name) :
    asJson room d = .ok (.ofOption .string name) := by
  cases d with
  | null =>
      cases h
      rfl
  | string read =>
      cases read with
      | none => cases h
      | some read =>
          cases h
          rfl
  | _ => cases h

theorem asMetadata_ofDict {m : Metadata} (proper : (Json.ofDict m).Proper room) :
    ∃ read, asMetadata room (ofJson (.ofDict m)) = .ok read := by
  obtain ⟨inner, entered, h⟩ := bind_eq_ok.1 proper.decode
  obtain ⟨known, decoded, h⟩ := bind_eq_ok.1 h
  obtain ⟨_, closing, _⟩ := bind_eq_ok.1 h
  rw [← decodeEntries_asJson] at decoded
  exact ⟨known, bind_eq_ok.2 ⟨inner, entered, bind_eq_ok.2 ⟨known, decoded, rfl⟩⟩⟩

end Draft

theorem map_eq_ok {ε α β : Type} {x : Except ε α} {f : α → β} {b : β} :
    x.map f = .ok b ↔ ∃ a, x = .ok a ∧ f a = b := by
  cases x <;> simp [Except.map]

namespace Router

variable {withId : Bool} {room : Nat} {key : String} {d : Draft} {p q : Parts} {r : Router}

/-! ## Reading the parts -/

/-- Whether a field takes the entry of a key. -/
def isOwn (withId : Bool) (key : String) : Bool :=
  (withId && key = "id") || key = "name" || key = "metadata"

/-- What stands under a key in an object with these parts. -/
def Parts.field? (withId : Bool) (p : Parts) (key : String) : Option Json :=
  if withId && key = "id" then p.id.map .string
  else if key = "name" then p.name.map (.ofOption .string)
  else if key = "metadata" then p.metadata.map .ofDict
  else p.attributes.get? key

def takePart (withId : Bool) (room : Nat) (p : Parts) (key : String) (d : Draft) :
    Except Flaw Parts :=
  if withId && key = "id" then
    if p.id.isSome then .error .mismatch
    else (Draft.asText room d).map fun text => { p with id := some text }
  else if key = "name" then
    if p.name.isSome then .error .mismatch
    else (Draft.asOption Draft.asText room d).map fun name => { p with name := some name }
  else if key = "metadata" then
    if p.metadata.isSome then .error .mismatch
    else (Draft.asMetadata room d).map fun m => { p with metadata := some m }
  else
    (Draft.asJson room d).map fun v => { p with attributes := p.attributes.insert key v }

theorem decodeParts_cons (rest : List (Option String × Draft)) :
    decodeParts withId room p ((some key, d) :: rest) =
      takePart withId room p key d >>= fun q => decodeParts withId room q rest := by
  simp only [decodeParts, takePart, Draft.readKey, bind, Except.bind]
  split
  · cases p.id.isSome
    · cases Draft.asText room d <;> rfl
    · rfl
  split
  · cases p.name.isSome
    · cases Draft.asOption Draft.asText room d <;> rfl
    · rfl
  split
  · cases p.metadata.isSome
    · cases Draft.asMetadata room d <;> rfl
    · rfl
  · cases Draft.asJson room d <;> rfl

/-- An entry that is read is a value under its key; an own field does not go to the attributes. -/
theorem takePart_ok (h : takePart withId room p key d = .ok q) :
    ∃ v, Draft.asJson room d = .ok v ∧
      (∀ k, q.field? withId k = if k = key then some v else p.field? withId k) ∧
      ∀ k, isOwn withId k = true → q.attributes.get? k = p.attributes.get? k := by
  unfold takePart at h
  split at h
  · split at h
    · cases h
    obtain ⟨text, read, rfl⟩ := map_eq_ok.1 h
    refine ⟨_, Draft.asJson_of_asText read, fun k => ?_, fun _ _ => rfl⟩
    by_cases same : k = key <;> simp_all [Parts.field?]
  split at h
  · split at h
    · cases h
    obtain ⟨name, read, rfl⟩ := map_eq_ok.1 h
    refine ⟨_, Draft.asJson_of_asName read, fun k => ?_, fun _ _ => rfl⟩
    by_cases same : k = key <;> simp_all [Parts.field?]
  split at h
  · split at h
    · cases h
    obtain ⟨m, read, rfl⟩ := map_eq_ok.1 h
    refine ⟨_, Draft.asJson_of_asMetadata read, fun k => ?_, fun _ _ => rfl⟩
    by_cases same : k = key <;> simp_all [Parts.field?]
  · obtain ⟨v, read, rfl⟩ := map_eq_ok.1 h
    refine ⟨v, read, fun k => ?_, fun k own => ?_⟩
    · by_cases same : k = key <;> simp_all [Parts.field?]
    · have apart : k ≠ key := by
        rintro rfl
        simp_all [isOwn]
      simp [apart]

/-- The entries that are read are an object with these parts. -/
theorem decodeParts_ok {entries : List (Option String × Draft)} {known : Dict Json}
    (h : decodeParts withId room p entries = .ok q)
    (same : ∀ k, p.field? withId k = known.get? k) :
    ∃ all, Draft.asJsonEntries room known entries = .ok all ∧
      (∀ k, q.field? withId k = all.get? k) ∧
      ∀ k, isOwn withId k = true → q.attributes.get? k = p.attributes.get? k := by
  induction entries generalizing p known with
  | nil =>
      cases h
      exact ⟨known, rfl, same, fun _ _ => rfl⟩
  | cons e rest ih =>
      obtain ⟨key, d⟩ := e
      cases key with
      | none => cases h
      | some key =>
          rw [decodeParts_cons] at h
          obtain ⟨next, taken, h⟩ := bind_eq_ok.1 h
          obtain ⟨v, read, entered, kept⟩ := takePart_ok taken
          -- The parts read so far and the object read so far say the same.
          have later : ∀ k, next.field? withId k = (known.insert key v).get? k := by
            intro k
            rw [entered, same, Dict.get?_insert]
          obtain ⟨all, decoded, fields, own⟩ := ih h later
          refine ⟨all, ?_, fields, fun k hk => (own k hk).trans (kept k hk)⟩
          simp only [Draft.asJsonEntries, Draft.readKey, bind, Except.bind, read, decoded]

theorem field?_start (k : String) :
    Parts.field? withId ⟨none, none, none, ∅⟩ k = (∅ : Dict Json).get? k := by
  unfold Parts.field?
  split_ifs <;> rfl

/-- Whatever is read as parts is an object that says the same, key by key. -/
theorem partsDecoder_ok (h : partsDecoder withId room d = .ok p) :
    ∃ all : Dict Json, Draft.asJson room d = .ok (.ofDict all) ∧
      (∀ k, p.field? withId k = all.get? k) ∧
      ∀ k, isOwn withId k = true → p.attributes.get? k = none := by
  cases d with
  | object entries closed =>
      obtain ⟨inner, entered, h⟩ := bind_eq_ok.1 h
      obtain ⟨q, decoded, h⟩ := bind_eq_ok.1 h
      obtain ⟨_, closing, ⟨⟩⟩ := bind_eq_ok.1 h
      obtain ⟨all, read, fields, own⟩ := decodeParts_ok decoded field?_start
      refine ⟨all, ?_, fields, own⟩
      simp only [Draft.asJson, entered, read, closing, bind, Except.bind]
      rfl
  | _ => cases h

/-! ## Reading an object of parts -/

/-- A value that the field of its key takes, if one does. -/
def Suits (withId : Bool) (key : String) (v : Json) : Prop :=
  ((withId && key = "id") = true → ∃ text, v = .string text) ∧
    (key = "name" → ∃ name, v = .ofOption .string name) ∧
    (key = "metadata" → ∃ m, v = .ofDict m)

theorem takePart_suits {v : Json} (proper : v.Proper room) (suits : Suits withId key v)
    (new : p.field? withId key = none) :
    ∃ q, takePart withId room p key (Draft.ofJson v) = .ok q := by
  obtain ⟨id, name, metadata⟩ := suits
  unfold takePart
  unfold Parts.field? at new
  by_cases isId : (withId && key = "id") = true
  · obtain ⟨text, rfl⟩ := id isId
    rw [if_pos isId] at new ⊢
    exact ⟨{ p with id := some text }, by rw [Option.map_eq_none_iff.1 new]; rfl⟩
  rw [if_neg isId] at new ⊢
  by_cases isName : key = "name"
  · obtain ⟨given, rfl⟩ := name isName
    rw [if_pos isName] at new ⊢
    refine ⟨{ p with name := some given }, ?_⟩
    rw [Option.map_eq_none_iff.1 new]
    cases given <;> rfl
  rw [if_neg isName] at new ⊢
  by_cases isMetadata : key = "metadata"
  · obtain ⟨m, rfl⟩ := metadata isMetadata
    obtain ⟨read, decoded⟩ := Draft.asMetadata_ofDict proper
    rw [if_pos isMetadata] at new ⊢
    exact ⟨{ p with metadata := some read }, by rw [Option.map_eq_none_iff.1 new, decoded]; rfl⟩
  · rw [if_neg isMetadata, proper.decode]
    exact ⟨_, rfl⟩

theorem decodeParts_suits {entries : List (String × Json)} (distinct : (entries.map (·.1)).Nodup)
    (all : ∀ e ∈ entries, e.2.Proper room ∧ Suits withId e.1 e.2 ∧ p.field? withId e.1 = none) :
    ∃ q, decodeParts withId room p (Draft.ofEntries entries) = .ok q := by
  induction entries generalizing p with
  | nil => exact ⟨p, rfl⟩
  | cons e rest ih =>
      obtain ⟨key, v⟩ := e
      obtain ⟨first, distinct⟩ := List.nodup_cons.1 distinct
      obtain ⟨⟨proper, suits, new⟩, others⟩ := List.forall_mem_cons.1 all
      -- The key does not come again, so what the later entries need is still open.
      obtain ⟨next, taken⟩ := takePart_suits proper suits new
      obtain ⟨_, _, entered, _⟩ := takePart_ok taken
      obtain ⟨q, decoded⟩ := ih (p := next) distinct fun e member => by
        obtain ⟨proper, suits, new⟩ := others e member
        have apart : e.1 ≠ key := fun same => first (List.mem_map.2 ⟨e, member, same⟩)
        exact ⟨proper, suits, by rw [entered, if_neg apart, new]⟩
      exact ⟨q, by rw [Draft.ofEntries, decodeParts_cons, taken]; exact decoded⟩

/-- An object whose entries suit the fields is read as parts that say the same, key by key. -/
theorem partsDecoder_suits {all : Dict Json} (proper : (Json.ofDict all).Proper room)
    (suits : ∀ k v, all.get? k = some v → Suits withId k v) :
    ∃ p, partsDecoder withId room (Draft.ofJson (.ofDict all)) = .ok p := by
  cases room with
  | zero => cases proper.1
  | succ room =>
      obtain ⟨p, decoded⟩ : ∃ p, decodeParts withId room ⟨none, none, none, ∅⟩
          (Draft.ofEntries all.entries) = .ok p := by
        refine decodeParts_suits all.keys_nodup fun e member => ?_
        have found : all.get? e.1 = some e.2 := Dict.mem_entries.1 member
        exact ⟨Json.proper_ofDict.1 proper _ _ found, suits _ _ found, field?_start e.1⟩
      exact ⟨p, bind_eq_ok.2 ⟨room, rfl, bind_eq_ok.2 ⟨p, decoded, rfl⟩⟩⟩

/-! ## Routers that can be carried -/

theorem reserved_cases (h : isReserved key = true) : key = "id" ∨ key = "name" ∨ key = "metadata" := by
  simpa [isReserved, or_assoc] using h

/-- A router whose attributes leave the keys of its fields alone and whose values are proper. -/
structure Sound (r : Router) : Prop where
  free : ∀ k, isReserved k = true → r.attributes.get? k = none
  metadata : (Json.ofDict r.metadata).Proper 126
  attributes : (Json.ofDict r.attributes).Proper 127

/-- The entries of a router's object. -/
def object (r : Router) : Dict Json :=
  .ofList (("id", .string r.id) :: nameField r.name ++ ("metadata", .ofDict r.metadata) ::
    r.attributes.entries)

theorem toJson_eq (r : Router) : r.toJson = .ofDict r.object := rfl

theorem object_eq (r : Router) :
    r.object = (Dict.ofList (("id", .string r.id) :: nameField r.name ++
      [("metadata", .ofDict r.metadata)])).join r.attributes := by
  simp [object, Dict.ofList, Dict.join]

theorem Sound.object_get? (h : r.Sound) (k : String) :
    r.object.get? k =
      if k = "id" then some (.string r.id)
      else if k = "name" then r.name.map .string
      else if k = "metadata" then some (.ofDict r.metadata)
      else r.attributes.get? k := by
  rw [object_eq, Dict.get?_join]
  by_cases own : isReserved k = true
  · rw [h.free k own]
    rcases reserved_cases own with rfl | rfl | rfl <;>
      cases r.name <;> simp [Dict.ofList, nameField]
  · obtain ⟨⟨noId, noName⟩, noMetadata⟩ := by simpa [isReserved] using own
    cases r.name <;> simp [Dict.ofList, nameField, noId, noName, noMetadata]

theorem Sound.object_proper (h : r.Sound) : r.toJson.Proper 127 := by
  rw [toJson_eq, Json.proper_ofDict]
  intro k v found
  rw [h.object_get?] at found
  split_ifs at found
  · cases found
    exact ⟨rfl, rfl⟩
  · obtain ⟨name, _, rfl⟩ := Option.map_eq_some_iff.1 found
    exact ⟨rfl, rfl⟩
  · cases found
    exact h.metadata
  · exact Json.proper_ofDict.1 h.attributes k v found

theorem Sound.suits (h : r.Sound) (k : String) (v : Json) (found : r.object.get? k = some v) :
    Suits true k v := by
  rw [h.object_get?] at found
  refine ⟨fun isId => ?_, ?_, ?_⟩
  · obtain rfl : k = "id" := by simpa using isId
    cases found
    exact ⟨r.id, rfl⟩
  · rintro rfl
    obtain ⟨name, _, rfl⟩ := Option.map_eq_some_iff.1 found
    exact ⟨some name, rfl⟩
  · rintro rfl
    cases found
    exact ⟨r.metadata, rfl⟩

/-- The parts that a router's object says are the router's own. -/
theorem Sound.parts (h : r.Sound) (fields : ∀ k, p.field? true k = r.object.get? k)
    (own : ∀ k, isOwn true k = true → p.attributes.get? k = none) :
    p.id = some r.id ∧ p.name.getD none = r.name ∧ p.metadata = some r.metadata ∧
      p.attributes = r.attributes := by
  simp only [h.object_get?, Parts.field?] at fields
  have id : p.id.map Json.string = some (.string r.id) := fields "id"
  have name : p.name.map (Json.ofOption .string) = r.name.map .string := fields "name"
  have metadata : p.metadata.map Json.ofDict = some (.ofDict r.metadata) := fields "metadata"
  refine ⟨?_, ?_, ?_, Dict.ext_get? fun k => ?_⟩
  · obtain ⟨text, same, equal⟩ := Option.map_eq_some_iff.1 id
    rw [same, Json.string.inj equal]
  · cases given : r.name with
    | none =>
        rw [given] at name
        rw [Option.map_eq_none_iff.1 name]
        rfl
    | some text =>
        rw [given] at name
        obtain ⟨read, same, equal⟩ := Option.map_eq_some_iff.1 name
        rw [same]
        cases read with
        | none => cases equal
        | some read => rw [Json.string.inj equal]; rfl
  · obtain ⟨m, same, equal⟩ := Option.map_eq_some_iff.1 metadata
    rw [same, Json.ofDict_inj equal]
  · by_cases reserved : isReserved k = true
    · rw [h.free k reserved, own k reserved]
    · obtain ⟨⟨noId, noName⟩, noMetadata⟩ := by simpa [isReserved] using reserved
      simpa [noId, noName, noMetadata] using fields k

theorem Sound.decode (h : r.Sound) : Draft.decode decoder r.toJson = .ok r := by
  obtain ⟨p, read⟩ : ∃ p, partsDecoder true 127 (Draft.ofJson (.ofDict r.object)) = .ok p :=
    partsDecoder_suits h.object_proper h.suits
  obtain ⟨all, whole, fields, own⟩ := partsDecoder_ok read
  have proper : (Json.ofDict r.object).Proper 127 := h.object_proper
  -- The parts say what the object says that they were read from, and this is the router's own.
  obtain rfl : all = r.object := by
    rw [proper.decode] at whole
    exact (Json.ofDict_inj (Except.ok.inj whole)).symm
  obtain ⟨id, name, metadata, attributes⟩ := h.parts fields own
  refine bind_eq_ok.2 ⟨p, read, ?_⟩
  rw [id, name, metadata, attributes]
  rfl

theorem Sound.decode_text (h : r.Sound) (exact : r.toJson.exact = true) :
    Draft.decodeText decoder r.toJson.text = .ok r := by
  refine (Draft.decodeText_text _ h.object_proper.1).trans ?_
  rw [Json.reread_exact _ h.object_proper.1 exact]
  exact h.decode

theorem field?_attribute (h : isOwn withId key = false) :
    p.field? withId key = p.attributes.get? key := by
  simp only [isOwn, Bool.or_eq_false_iff, decide_eq_false_iff_not] at h
  obtain ⟨⟨id, name⟩, metadata⟩ := h
  simp [Parts.field?, id, name, metadata]

theorem field?_metadata : p.field? withId "metadata" = p.metadata.map .ofDict := by
  simp [Parts.field?]

theorem partsDecoder_proper (fits : d.Fits) (h : partsDecoder withId Draft.depthLimit d = .ok p) :
    (Json.ofDict (p.metadata.getD ∅)).Proper 126 ∧ (Json.ofDict p.attributes).Proper 127 := by
  obtain ⟨all, whole, fields, own⟩ := partsDecoder_ok h
  have proper := Json.proper_ofDict.1 (Json.proper_of_asJson fits whole)
  constructor
  · cases given : p.metadata with
    | none => exact ⟨rfl, rfl⟩
    | some m =>
        have found : all.get? "metadata" = some (.ofDict m) := by
          rw [← fields, field?_metadata, given]
          rfl
        exact proper _ _ found
  · refine Json.proper_ofDict.2 fun k v found => ?_
    cases mine : isOwn withId k with
    | true =>
        rw [own k mine] at found
        cases found
    | false =>
        rw [← field?_attribute mine, fields] at found
        exact proper k v found

/-- What is decoded as a router is sound, and everything beside its fields is kept. -/
theorem decoder_sound (fits : d.Fits) (h : decoder Draft.depthLimit d = .ok r) :
    r.Sound ∧ ∃ all : Dict Json, Draft.asJson Draft.depthLimit d = .ok (.ofDict all) ∧
      ∀ k, isReserved k = false → r.attributes.get? k = all.get? k := by
  obtain ⟨p, read, h⟩ := bind_eq_ok.1 h
  obtain ⟨all, whole, fields, own⟩ := partsDecoder_ok read
  obtain ⟨metadata, attributes⟩ := partsDecoder_proper fits read
  split at h
  · cases h
    refine ⟨⟨own, metadata, attributes⟩, all, whole, fun k free => ?_⟩
    have apart : isOwn true k = false := free
    rw [← fields, field?_attribute apart]
  · cases h

structure Request.Sound (request : Request) : Prop where
  metadata : (Json.ofDict request.metadata).Proper 126
  attributes : (Json.ofDict request.attributes).Proper 127

theorem Request.decoder_sound {request : Request} (fits : d.Fits)
    (h : Request.decoder Draft.depthLimit d = .ok request) : request.Sound := by
  obtain ⟨p, read, ⟨⟩⟩ := bind_eq_ok.1 h
  obtain ⟨metadata, attributes⟩ := partsDecoder_proper fits read
  exact ⟨metadata, attributes⟩

/-! ## What is done to routers keeps them sound -/

theorem freeAttributes_get? (attributes : Dict Json) (k : String) :
    (freeAttributes attributes).get? k = if isReserved k then none else attributes.get? k := by
  rw [freeAttributes, Dict.get?_restrict]
  cases isReserved k <;> rfl

theorem proper_join {room : Nat} {d other : Dict Json} (h : (Json.ofDict d).Proper (room + 1))
    (h' : (Json.ofDict other).Proper (room + 1)) : (Json.ofDict (d.join other)).Proper (room + 1) := by
  rw [Json.proper_ofDict] at *
  intro k v found
  rw [Dict.get?_join] at found
  cases given : other.get? k with
  | none =>
      rw [given] at found
      exact h k v found
  | some value =>
      rw [given] at found
      cases found
      exact h' k v given

theorem proper_restrict {room : Nat} {d : Dict Json} (h : (Json.ofDict d).Proper (room + 1))
    (keep : String → Bool) : (Json.ofDict (d.restrict keep)).Proper (room + 1) := by
  rw [Json.proper_ofDict] at *
  intro k v found
  rw [Dict.get?_restrict] at found
  split at found
  · exact h k v found
  · cases found

theorem Request.Sound.created {request : Request} (h : request.Sound) (id : String) :
    (ofRequest id request).Sound where
  free := by
    intro k reserved
    simp only [ofRequest, freeAttributes_get?, reserved, if_true]
  metadata := h.metadata
  attributes := proper_restrict h.attributes _

theorem Sound.update {request : Request} (h : r.Sound) (h' : request.Sound) :
    (r.update request).Sound where
  free := by
    intro k reserved
    simp only [Router.update, Dict.get?_join, freeAttributes_get?, reserved, if_true, h.free k reserved]
    rfl
  metadata := proper_join h.metadata h'.metadata
  attributes := proper_join h.attributes (proper_restrict h'.attributes _)

theorem Sound.project (h : r.Sound) (fields : Option (List String)) : (r.project fields).Sound := by
  cases fields with
  | none => exact h
  | some fields =>
      refine ⟨fun k reserved => ?_, ?_, proper_restrict h.attributes _⟩
      · simp only [Router.project, Dict.get?_restrict, h.free k reserved, ite_self]
      · simp only [Router.project]
        split
        · exact h.metadata
        · exact ⟨rfl, rfl⟩

/-- A router and its object say the same. -/
structure Carried (r : Router) : Prop where
  /-- No attribute stands under the key of a field. -/
  free : ∀ k, isReserved k = true → k ∉ r.attributes.keys
  /-- The object has the fields' keys, that of a name only if there is one, and the attributes' keys,
  each once. -/
  keys : ∃ entries, r.toJson = .object entries ∧ (entries.map (·.1)).Nodup ∧
    ∀ k, k ∈ entries.map (·.1) ↔
      k = "id" ∨ k = "name" ∧ r.name.isSome ∨ k = "metadata" ∨ k ∈ r.attributes.keys
  /-- Decoded, the object is the router. -/
  decoded : Draft.decode decoder r.toJson = .ok r
  /-- So is its text, if no number in it is a double. -/
  reread : r.toJson.exact = true → Draft.decodeText decoder r.toJson.text = .ok r

theorem Sound.carried (h : r.Sound) : r.Carried where
  free := by
    intro k reserved member
    rw [Dict.mem_keys, h.free k reserved] at member
    cases member
  keys := by
    refine ⟨r.object.entries, rfl, r.object.keys_nodup, fun k => ?_⟩
    change k ∈ r.object.keys ↔ _
    rw [Dict.mem_keys, Dict.mem_keys, h.object_get?]
    split_ifs with id name metadata
    · simp [id]
    · simp [name, h.free "name" rfl]
    · simp [metadata]
    · simp [id, name, metadata]
  decoded := h.decode
  reread := h.decode_text

end Router

namespace Backend

open Router (isReserved)

variable {b : Backend} {r : Router}

/-- A request that a call brings was decoded. -/
def Call.Decoded : Call → Prop
  | .create request | .update _ request =>
    ∃ d : Draft, d.Fits ∧ Router.Request.decoder Draft.depthLimit d = .ok request
  | _ => True

/-- Whatever is called with decoded requests, the routers stay sound. -/
theorem answer_sound (sound : ∀ r ∈ b.routers, r.Sound) (ids : IdSupply) {call : Call}
    (decoded : call.Decoded) : ∀ r ∈ (b.answer ids call).2.1.routers, r.Sound := by
  intro r member
  cases call with
  | create request =>
      obtain ⟨d, fits, read⟩ := decoded
      rcases mem_insert_routers member with rfl | old
      · exact (Router.Request.decoder_sound fits read).created _
      · exact sound r old
  | update id request =>
      obtain ⟨d, fits, read⟩ := decoded
      rcases b.answer_update ids id request with ⟨old, inside, _, b', answer, routers⟩ | ⟨_, answer⟩
      · rw [answer, routers] at member
        obtain ⟨x, hx, rfl⟩ := List.mem_map.1 member
        split
        · exact (sound old inside).update (Router.Request.decoder_sound fits read)
        · exact sound x hx
      · rw [answer] at member
        exact sound r member
  | delete id =>
      rcases b.answer_delete ids id with ⟨_, _, _, b', answer, _, routers⟩ | ⟨_, answer⟩
      · rw [answer, routers] at member
        exact sound r (List.mem_of_mem_filter member)
      · rw [answer] at member
        exact sound r member
  | get | list | addInterface | removeInterface | invoke =>
      rw [answer_gentle rfl] at member
      exact sound r member

theorem after_sound {s : Backend × IdSupply} (sound : ∀ r ∈ s.1.routers, r.Sound)
    {calls : List Call} (decoded : ∀ call ∈ calls, call.Decoded) :
    ∀ r ∈ (after s calls).1.routers, r.Sound := by
  induction calls generalizing s with
  | nil => exact sound
  | cons call rest ih =>
      obtain ⟨first, others⟩ := List.forall_mem_cons.1 decoded
      exact ih (answer_sound sound s.2 first) others

/-- Every router of a backend that was called with decoded requests, and every projection of it, is
carried by its object. So is every router that is decoded from an object, and its object says the same
as that one under every key that is not a field's. -/
theorem routers_carried (vacant : b.routers = []) (ids : IdSupply) {calls : List Call}
    (decoded : ∀ call ∈ calls, call.Decoded) :
    (∀ r ∈ (after (b, ids) calls).1.routers, ∀ fields, (r.project fields).Carried) ∧
      ∀ (d : Draft) (r : Router), d.Fits → Router.decoder Draft.depthLimit d = .ok r →
        r.Carried ∧ ∃ read, Draft.asJson Draft.depthLimit d = .ok read ∧
          ∀ k, isReserved k = false → r.toJson.field? k = read.field? k := by
  constructor
  · intro r member fields
    have start : ∀ r ∈ b.routers, r.Sound := by simp [vacant]
    exact ((after_sound (s := (b, ids)) start decoded r member).project fields).carried
  · intro d r fits read
    obtain ⟨sound, all, whole, kept⟩ := Router.decoder_sound fits read
    refine ⟨sound.carried, _, whole, fun k free => ?_⟩
    obtain ⟨⟨noId, noName⟩, noMetadata⟩ := by simpa [isReserved] using free
    change r.object.get? k = all.get? k
    rw [sound.object_get?, if_neg noId, if_neg noName, if_neg noMetadata, kept k free]

/-- A request with an id of its own. -/
def smuggling : Draft :=
  .object [(some "color", .string (some "red")), (some "id", .string (some "other"))] true

/-- It is created under another one. Decoded as a router, the same object has its own id. -/
theorem smuggled_id_dropped :
    let request : Router.Request := ⟨none, ∅, .ofList [("color", .string "red"), ("id", .string "other")]⟩
    let t := (after (.new "edge", ⟨0⟩) [.create request]).1
    let r : Router := ⟨"other", none, ∅, .ofList [("color", .string "red")]⟩
    Router.Request.decoder Draft.depthLimit smuggling = .ok request ∧
      (∀ r ∈ t.routers, r.Carried) ∧ t.routers.map (·.attributes.keys) = [["color"]] ∧
      Router.decoder Draft.depthLimit smuggling = .ok r ∧ r.Carried := by
  intro request t r
  have read : Router.Request.decoder Draft.depthLimit smuggling = .ok request := by decide +kernel
  have decoded : ∀ call ∈ [Call.create request], call.Decoded := by
    intro call member
    rw [List.mem_singleton.1 member]
    exact ⟨smuggling, ⟨trivial, trivial, trivial⟩, read⟩
  have same : Router.decoder Draft.depthLimit smuggling = .ok r := by decide +kernel
  obtain ⟨carried, reading⟩ := routers_carried (b := .new "edge") rfl ⟨0⟩ decoded
  exact ⟨read, fun r member => carried r member none, by decide +kernel, same,
    (reading smuggling r ⟨trivial, trivial, trivial⟩ same).1⟩

end Backend
end Brokerage
