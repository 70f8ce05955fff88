import Brokerage.Resource
import Brokerage.Time.Timestamp

/-! # Bindings

A binding records on which resource, and so on which backend, an object lives.
-/

namespace Brokerage

/-- Where an object lives: the parts of a binding that may change. -/
structure Placement where
  resourceType : String
  resourceId : String
  metadata : Option Metadata
  descriptor : String
  deriving DecidableEq, Inhabited

/-- New values for some parts of a placement. -/
structure Placement.Change where
  metadata : Option Metadata
  descriptor : Option String
  resourceType : Option String
  resourceId : Option String
  deriving DecidableEq, Inhabited

/-- An object and the place it is to have. -/
structure Assignment where
  objectId : String
  placement : Placement
  deriving DecidableEq, Inhabited

/-- A recorded binding. -/
structure Binding where
  id : Int
  objectId : String
  placement : Placement
  createdAt : Timestamp
  updatedAt : Option Timestamp
  deletedAt : Option Timestamp
  /-- Zero while the binding is active, its own id afterwards. -/
  deleted : Int
  deriving DecidableEq, Inhabited

namespace Placement

def ofResource (r : Resource) : Placement :=
  ⟨r.type, r.id, some r.metadata, r.descriptor⟩

def toFields (p : Placement) : List (String × Json) := [
  ("resource_type", .string p.resourceType),
  ("resource_id", .string p.resourceId),
  ("resource_metadata", .ofOption .ofDict p.metadata),
  ("resource_descriptor", .string p.descriptor)]

def fieldNames : List String :=
  ["resource_type", "resource_id", "resource_metadata", "resource_descriptor"]

def ofRecord (r : Draft.Record) : Except Flaw Placement := do
  return {
    resourceType := ← r.required "resource_type" Draft.asText
    resourceId := ← r.required "resource_id" Draft.asText
    metadata := ← r.nullable "resource_metadata" Draft.asMetadata
    descriptor := ← r.required "resource_descriptor" Draft.asText }

namespace Change

def empty : Change := ⟨none, none, none, none⟩

def isEmpty (c : Change) : Bool :=
  c.metadata.isNone && c.descriptor.isNone && c.resourceType.isNone && c.resourceId.isNone

/-- Put the new values in; what the change leaves out stays. -/
def apply (c : Change) (p : Placement) : Placement where
  resourceType := c.resourceType.getD p.resourceType
  resourceId := c.resourceId.getD p.resourceId
  metadata := c.metadata <|> p.metadata
  descriptor := c.descriptor.getD p.descriptor

@[simp]
theorem apply_empty (p : Placement) : empty.apply p = p := rfl

def decoder : Decoder Change := fun room d => do
  let r ← Draft.asRecord
    ["resource_metadata", "resource_descriptor", "resource_type", "resource_id"] room d
  return {
    metadata := ← r.withDefault "resource_metadata" (Draft.asOption Draft.asMetadata) none
    descriptor := ← r.withDefault "resource_descriptor" (Draft.asOption Draft.asText) none
    resourceType := ← r.withDefault "resource_type" (Draft.asOption Draft.asText) none
    resourceId := ← r.withDefault "resource_id" (Draft.asOption Draft.asText) none }

def toJson (c : Change) : Json :=
  .ofFields [
    ("resource_metadata", .ofOption .ofDict c.metadata),
    ("resource_descriptor", .ofOption .string c.descriptor),
    ("resource_type", .ofOption .string c.resourceType),
    ("resource_id", .ofOption .string c.resourceId)]

end Change
end Placement

namespace Binding

/-- Whether a binding counts or only records what was. -/
inductive Status where
  | active
  | deleted
  deriving DecidableEq, Repr, Inhabited

def Status.name : Status → String
  | .active => "active"
  | .deleted => "deleted"

/-- A status is its name, or an object with that name and nothing in it. -/
def Status.decoder : Decoder Status := fun room d => do
  let name ←
    match d with
    | .object [(some name, .null)] true => .ok name
    | d => Draft.asText room d
  if name = "active" then return .active
  else if name = "deleted" then return .deleted
  else throw .mismatch

def status (b : Binding) : Status := if b.deleted = 0 then .active else .deleted

def isActive (b : Binding) : Bool := b.status = .active

def change (b : Binding) (c : Placement.Change) : Binding :=
  { b with placement := c.apply b.placement }

/-- A point in time as text. -/
def asTimestamp : Decoder Timestamp := fun room d => do
  match Timestamp.read? (← Draft.asText room d) with
  | some t => .ok t
  | none => .error .mismatch

/-- The integers of 64 bits. -/
def asInt64 : Decoder Int := Draft.asInt (-2 ^ 63) (2 ^ 63 - 1)

def toJson (b : Binding) : Json :=
  let time (t : Timestamp) : Json := .string t.text
  .ofFields ([
    ("id", .ofInt b.id),
    ("object_id", .string b.objectId),
    ("created_at", time b.createdAt),
    ("updated_at", .ofOption time b.updatedAt),
    ("deleted_at", .ofOption time b.deletedAt),
    ("deleted", .ofInt b.deleted)] ++ b.placement.toFields)

def decoder : Decoder Binding := fun room d => do
  let r ← Draft.asRecord
    ("id" :: "object_id" :: Placement.fieldNames ++
      ["created_at", "updated_at", "deleted_at", "deleted"]) room d
  return {
    id := ← r.required "id" asInt64
    objectId := ← r.required "object_id" Draft.asText
    placement := ← Placement.ofRecord r
    createdAt := ← r.required "created_at" asTimestamp
    updatedAt := ← r.nullable "updated_at" asTimestamp
    deletedAt := ← r.nullable "deleted_at" asTimestamp
    deleted := ← r.required "deleted" asInt64 }

end Binding

namespace Assignment

/-- Place an object on a resource. -/
def ofResource (objectId : String) (r : Resource) : Assignment := ⟨objectId, .ofResource r⟩

def ofBinding (b : Binding) : Assignment := ⟨b.objectId, b.placement⟩

def toJson (a : Assignment) : Json :=
  .ofFields (("object_id", .string a.objectId) :: a.placement.toFields)

def decoder : Decoder Assignment := fun room d => do
  let r ← Draft.asRecord ("object_id" :: Placement.fieldNames) room d
  return ⟨← r.required "object_id" Draft.asText, ← Placement.ofRecord r⟩

end Assignment

end Brokerage
