import Brokerage.Ledger
import Brokerage.Proofs.Decoding
import Brokerage.Proofs.Dict
import Mathlib.Data.List.Nodup

/-! # Active rows of a ledger

Every operation of a ledger is described by what it does to the rows that count: adding appends
one, deleting drops the one of its object, updating changes the place of the one of its object.
-/

namespace Brokerage.Ledger

variable {l l' : Ledger} {row : Row} {objectId : String} {now : Timestamp} {b : Binding}

def actives (l : Ledger) : List Row := l.rows.filter (·.isActive)

/-- The resources of the rows that count. -/
def bound (l : Ledger) : List String := l.actives.map (·.resourceId)

/-- The row of an object that counts is its only one, and retiring it takes it out. -/
structure Sound (l : Ledger) : Prop where
  numbered : ∀ row ∈ l.rows, row.id ≠ 0
  single : (l.actives.map (·.objectId)).Nodup

theorem sound_empty : (∅ : Ledger).Sound := ⟨by simp [EmptyCollection.emptyCollection, empty], .nil⟩

theorem mem_actives : row ∈ l.actives ↔ row ∈ l.rows ∧ row.isActive = true := List.mem_filter

theorem active?_some (h : l.active? objectId = some row) :
    row ∈ l.actives ∧ row.objectId = objectId := by
  have found := List.find?_some h
  simp only [Row.isActiveOf, Bool.and_eq_true, decide_eq_true_eq] at found
  exact ⟨mem_actives.2 ⟨List.mem_of_find?_eq_some h, found.2⟩, found.1⟩

theorem active?_none : l.active? objectId = none ↔ ∀ row ∈ l.actives, row.objectId ≠ objectId := by
  simp only [active?, List.find?_eq_none, mem_actives, Row.isActiveOf, Bool.and_eq_true,
    decide_eq_true_eq]
  exact ⟨fun h row ⟨member, counts⟩ same => h row member ⟨same, counts⟩,
    fun h row member ⟨same, counts⟩ => h row ⟨member, counts⟩ same⟩

theorem Sound.active?_eq (sound : l.Sound) (member : row ∈ l.actives) :
    l.active? row.objectId = some row := by
  cases found : l.active? row.objectId with
  | none => exact absurd rfl (active?_none.1 found row member)
  | some other =>
      obtain ⟨inside, same⟩ := active?_some found
      rw [List.inj_on_of_nodup_map sound.single inside member same]

theorem mem_listByType {type descriptor : String} : descriptor ∈ l.listByType type ↔
    ∃ row ∈ l.actives, row.resourceType = type ∧ row.descriptor = descriptor := by
  simp only [listByType, Dict.mem_keys_ofList, List.mem_map, List.mem_filter, Bool.and_eq_true,
    decide_eq_true_eq, mem_actives]
  constructor
  · rintro ⟨_, ⟨row, ⟨inside, counts, kind⟩, rfl⟩, rfl⟩
    exact ⟨row, ⟨inside, counts⟩, kind, rfl⟩
  · rintro ⟨row, ⟨inside, counts⟩, kind, rfl⟩
    exact ⟨_, ⟨row, ⟨inside, counts, kind⟩, rfl⟩, rfl⟩

/-! ## Adding -/

def append (l : Ledger) (row : Row) : Ledger := ⟨l.rows ++ [row]⟩

theorem actives_append (counts : row.isActive = true) :
    (l.append row).actives = l.actives ++ [row] := by
  simp [append, actives, List.filter_append, counts]

theorem Sound.append (sound : l.Sound) (counts : row.isActive = true) (numbered : row.id ≠ 0)
    (new : l.active? row.objectId = none) : (l.append row).Sound where
  numbered := by
    intro x member
    rcases List.mem_append.1 member with member | member
    · exact sound.numbered x member
    · rw [List.mem_singleton.1 member]
      exact numbered
  single := by
    rw [actives_append counts, List.map_append, List.nodup_append]
    refine ⟨sound.single, by simp, ?_⟩
    intro a ha c hc same
    obtain ⟨x, hx, rfl⟩ := List.mem_map.1 ha
    exact active?_none.1 new x hx (by simpa [same] using hc)

/-- An object whose row does not count yet may get it from the row that was added. -/
theorem active?_append_eq (query : String) : (l.append row).active? query =
    (l.active? query).or (if row.isActiveOf query then some row else none) := by
  simp only [active?, append, List.find?_append, List.find?_singleton]

theorem active?_append (counts : row.isActive = true) :
    ((l.append row).active? row.objectId).isSome := by
  by_contra missing
  rw [Option.not_isSome_iff_eq_none, active?_none, actives_append counts] at missing
  exact missing row (by simp) rfl

theorem active?_append_of_some {other : Row} (found : l.active? objectId = some row) :
    (l.append other).active? objectId = some row := by
  unfold active? at found
  simp [active?, append, List.find?_append, found]

theorem active?_append_new (counts : row.isActive = true) (new : l.active? row.objectId = none) :
    (l.append row).active? row.objectId = some row := by
  unfold active? at new
  simp [active?, append, List.find?_append, new, Row.isActiveOf, counts]

theorem newRow_numbered (a : Assignment) : (l.newRow a now).id ≠ 0 := Nat.succ_ne_zero _

/-- Adding is refused and changes nothing, or it appends a row whose text may not be legible. -/
theorem add_cases (l : Ledger) (a : Assignment) (now : Timestamp) :
    ((l.active? a.objectId).isSome ∧ l.add a now = (.error (.duplicateBinding a.objectId), l)) ∨
    (l.active? a.objectId = none ∧
      l.add a now = ((l.newRow a now).toBinding, l.append (l.newRow a now))) := by
  unfold add
  cases l.active? a.objectId with
  | some row => exact .inl ⟨rfl, rfl⟩
  | none => exact .inr ⟨rfl, rfl⟩

/-! ## Reading -/

/-- Metadata whose text can be read again: it nests at most 127 deep, and its integers have 64
bits. -/
def Legible (metadata : Option Metadata) : Prop :=
  ∀ m ∈ metadata, (Json.ofDict m).fits Draft.depthLimit = true

instance (metadata : Option Metadata) : Decidable (Legible metadata) :=
  inferInstanceAs (Decidable (∀ m ∈ metadata, (Json.ofDict m).fits Draft.depthLimit = true))

theorem Legible.decode {metadata : Option Metadata} (h : Legible metadata) :
    ∃ read, decodeMetadata (encodeMetadata metadata) = .ok read := by
  cases metadata with
  | none => exact ⟨none, rfl⟩
  | some m =>
      obtain ⟨read, decoded⟩ := Draft.decodeText_asMetadata (h m rfl)
      refine ⟨some read, ?_⟩
      simp only [encodeMetadata, decodeMetadata, Option.map_some, decoded]

theorem legible_of_decode {text : Option String} {metadata : Option Metadata}
    (h : decodeMetadata text = .ok metadata) : Legible metadata := by
  rintro m ⟨⟩
  cases text with
  | none => cases h
  | some text =>
      simp only [decodeMetadata] at h
      split at h
      · rename_i decoded
        cases h
        exact Draft.fits_of_decodeText decoded
      · cases h
      · cases h

theorem toBinding_ok (h : row.toBinding = .ok b) :
    b.objectId = row.objectId ∧ b.placement.resourceType = row.resourceType ∧
      b.placement.resourceId = row.resourceId ∧ b.placement.descriptor = row.descriptor := by
  unfold Row.toBinding at h
  cases decoded : decodeMetadata row.metadata with
  | error e => simp [decoded, bind, Except.bind] at h
  | ok metadata =>
      simp only [decoded, bind, Except.bind, pure, Except.pure, Except.ok.injEq] at h
      subst h
      exact ⟨rfl, rfl, rfl, rfl⟩

theorem toBinding_metadata (h : row.toBinding = .ok b) :
    decodeMetadata row.metadata = .ok b.placement.metadata := by
  obtain ⟨_, decoded, ⟨⟩⟩ := bind_eq_ok.1 h
  exact decoded

theorem toBinding_isOk {metadata : Option Metadata} (h : decodeMetadata row.metadata = .ok metadata) :
    ∃ b, row.toBinding = .ok b := by
  unfold Row.toBinding
  rw [h]
  exact ⟨_, rfl⟩

theorem newRow_legible {a : Assignment} (h : Legible a.placement.metadata) :
    ∃ b, (l.newRow a now).toBinding = .ok b :=
  let ⟨_, decoded⟩ := h.decode
  toBinding_isOk decoded

theorem toBinding_legible (h : row.toBinding = .ok b) : Legible b.placement.metadata :=
  legible_of_decode (toBinding_metadata h)

theorem get_eq (l : Ledger) (objectId : String) :
    l.get objectId = match l.active? objectId with
      | some row => row.toBinding
      | none => .error (.wrongObjectId objectId) := by
  unfold get requireActive
  cases l.active? objectId <;> rfl

theorem get_ok (h : l.get objectId = .ok b) :
    ∃ row, l.active? objectId = some row ∧ row.toBinding = .ok b := by
  rw [get_eq] at h
  cases found : l.active? objectId with
  | none => simp [found] at h
  | some row => exact ⟨row, rfl, by simpa [found] using h⟩

/-! ## Deleting and updating -/

theorem delete_eq (l : Ledger) (objectId : String) (now : Timestamp) :
    l.delete objectId now = match l.active? objectId with
      | some _ => .ok (l.modifyActive objectId (·.retire now))
      | none => .error (.wrongObjectId objectId) := by
  unfold delete requireActive
  cases l.active? objectId <;> rfl

theorem mem_modifyActive {f : Row → Row} :
    row ∈ (l.modifyActive objectId f).rows ↔
      ∃ old ∈ l.rows, (if old.isActiveOf objectId then f old else old) = row := List.mem_map

theorem active?_modifyActive {other : String} {f : Row → Row} (apart : objectId ≠ other)
    (keeps : ∀ row, (f row).objectId = row.objectId) :
    (l.modifyActive objectId f).active? other = l.active? other := by
  simp only [active?, modifyActive]
  induction l.rows with
  | nil => rfl
  | cons row rest ih =>
      by_cases hit : row.isActiveOf objectId
      · have here : row.objectId = objectId := by
          simp only [Row.isActiveOf, Bool.and_eq_true, decide_eq_true_eq] at hit
          exact hit.1
        have missed : row.isActiveOf other = false := by simp [Row.isActiveOf, here, apart]
        have still : (f row).isActiveOf other = false := by
          simp [Row.isActiveOf, keeps, here, apart]
        simp [hit, missed, still, ih]
      · simp [hit, List.find?_cons, ih]

/-- Changing the active row of an object, and not whether it counts, changes what is found of it. -/
theorem active?_modifyActive_self {f : Row → Row} (keeps : ∀ row, (f row).objectId = row.objectId)
    (counts : ∀ row, (f row).isActive = row.isActive) :
    (l.modifyActive objectId f).active? objectId = (l.active? objectId).map f := by
  simp only [active?, modifyActive]
  induction l.rows with
  | nil => rfl
  | cons row rest ih =>
      have same : (f row).isActiveOf objectId = row.isActiveOf objectId := by
        simp [Row.isActiveOf, keeps, counts]
      by_cases hit : row.isActiveOf objectId
      · simp [hit, same]
      · simp [hit, ih]

theorem retire_isActive (numbered : row.id ≠ 0) : (row.retire now).isActive = false := by
  simp [Row.retire, Row.isActive, numbered]

theorem actives_retire (numbered : ∀ row ∈ l.rows, row.id ≠ 0) :
    (l.modifyActive objectId (·.retire now)).actives =
      l.actives.filter (·.objectId != objectId) := by
  simp only [actives, modifyActive]
  revert numbered
  induction l.rows with
  | nil => exact fun _ => rfl
  | cons row rest ih =>
      intro numbered
      have counts : (row.retire now).isActive = false :=
        retire_isActive (numbered row List.mem_cons_self)
      have tail := ih fun row member => numbered row (List.mem_cons_of_mem _ member)
      by_cases hit : row.isActiveOf objectId
      · obtain ⟨same, active⟩ := by simpa [Row.isActiveOf] using hit
        simp [hit, counts, active, same, tail]
      · have kept : row.isActive = true → row.objectId ≠ objectId :=
          fun active same => hit (by simp [Row.isActiveOf, active, same])
        by_cases active : row.isActive
        · simp [hit, active, kept active, tail]
        · simp [hit, active, tail]

theorem actives_move (placement : Placement) :
    (l.modifyActive objectId (·.move placement now)).actives =
      l.actives.map fun row => if row.objectId = objectId then row.move placement now else row := by
  simp only [actives, modifyActive]
  induction l.rows with
  | nil => rfl
  | cons row rest ih =>
      have moved : (row.move placement now).isActive = row.isActive := rfl
      by_cases active : row.isActive
      · by_cases same : row.objectId = objectId
        · have hit : row.isActiveOf objectId = true := by simp [Row.isActiveOf, active, same]
          simp [hit, active, same, moved, ih]
        · have hit : row.isActiveOf objectId = false := by simp [Row.isActiveOf, same]
          simp [hit, active, same, ih]
      · have hit : row.isActiveOf objectId = false := by simp [Row.isActiveOf, active]
        simp [hit, active, ih]

theorem Sound.retire (sound : l.Sound) : (l.modifyActive objectId (·.retire now)).Sound where
  numbered := by
    intro row member
    obtain ⟨old, inside, rfl⟩ := mem_modifyActive.1 member
    have := sound.numbered old inside
    split <;> exact this
  single := by
    rw [actives_retire sound.numbered]
    exact sound.single.sublist (List.filter_sublist.map _)

theorem Sound.move (sound : l.Sound) (placement : Placement) :
    (l.modifyActive objectId (·.move placement now)).Sound where
  numbered := by
    intro row member
    obtain ⟨old, inside, rfl⟩ := mem_modifyActive.1 member
    have := sound.numbered old inside
    split <;> exact this
  single := by
    have objects : (fun row : Row => row.objectId) ∘ (fun row =>
        if row.objectId = objectId then row.move placement now else row) = (·.objectId) := by
      funext row
      simp only [Function.comp_apply]
      split <;> rfl
    rw [actives_move, List.map_map, objects]
    exact sound.single

/-- The row of an object and the rows of the others are all that counts. -/
theorem Sound.actives_perm (sound : l.Sound) (found : l.active? objectId = some row) :
    l.actives.Perm (row :: l.actives.filter (·.objectId != objectId)) := by
  obtain ⟨member, same⟩ := active?_some found
  have nodup := List.Nodup.of_map _ sound.single
  rw [List.perm_ext_iff_of_nodup nodup
    (List.nodup_cons.2 ⟨by simp [same], nodup.sublist List.filter_sublist⟩)]
  intro x
  simp only [List.mem_cons, List.mem_filter, bne_iff_ne]
  constructor
  · intro inside
    by_cases other : x.objectId = objectId
    · exact .inl (List.inj_on_of_nodup_map sound.single inside member (other.trans same.symm))
    · exact .inr ⟨inside, other⟩
  · rintro (rfl | ⟨inside, _⟩)
    · exact member
    · exact inside

theorem active?_retire (numbered : ∀ row ∈ l.rows, row.id ≠ 0) :
    (l.modifyActive objectId (·.retire now)).active? objectId = none := by
  rw [active?_none, actives_retire numbered]
  intro row member
  simpa using (List.mem_filter.1 member).2

theorem update_cases (l : Ledger) (objectId : String) (c : Placement.Change) (now : Timestamp) :
    (∃ e, l.update objectId c now = .error e) ∨
    ∃ row b, l.active? objectId = some row ∧ row.toBinding = .ok b ∧
      l.update objectId c now = .ok ({ b.change c with updatedAt := some now },
        l.modifyActive objectId (·.move (b.change c).placement now)) := by
  unfold update
  cases read : l.get objectId with
  | error e => exact .inl ⟨e, rfl⟩
  | ok b =>
      obtain ⟨row, found, readable⟩ := get_ok read
      exact .inr ⟨row, b, found, readable, rfl⟩

/-! ## Bound resources -/

theorem bound_append (counts : row.isActive = true) :
    (l.append row).bound = l.bound ++ [row.resourceId] := by
  simp [bound, actives_append counts]

theorem Sound.bound_retire (sound : l.Sound) (found : l.active? objectId = some row) :
    l.bound.Perm (row.resourceId :: (l.modifyActive objectId (·.retire now)).bound) := by
  simpa [bound, actives_retire sound.numbered] using
    (sound.actives_perm found).map (·.resourceId)

/-- Rows that stay on their resource keep it bound. -/
theorem Sound.bound_move (sound : l.Sound) (found : l.active? objectId = some row)
    {placement : Placement} (stays : placement.resourceId = row.resourceId) :
    (l.modifyActive objectId (·.move placement now)).bound = l.bound := by
  simp only [bound, actives_move, List.map_map]
  apply List.map_congr_left
  intro other member
  by_cases same : other.objectId = objectId
  · obtain rfl : other = row := by
      have := sound.active?_eq member
      rw [same, found] at this
      cases this
      rfl
    simp [same, Row.move, stays]
  · simp [same]

end Brokerage.Ledger
