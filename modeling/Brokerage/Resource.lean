import Brokerage.Json.Decode

/-! # Resources

The units that an allocation policy hands out, and the settings that a pool of them starts from.
-/

namespace Brokerage

structure Resource where
  id : String
  type : String
  /-- Whether the policy counts the resource as taken. -/
  allocated : Bool
  /-- The backend that serves objects living on this resource. -/
  descriptor : String
  metadata : Metadata
  deriving DecidableEq

namespace Resource

instance : Inhabited Resource := ⟨"", "", false, "", ∅⟩

def toJson (r : Resource) : Json :=
  .ofFields [
    ("resource_id", .string r.id),
    ("resource_type", .string r.type),
    ("allocated", .bool r.allocated),
    ("resource_descriptor", .string r.descriptor),
    ("resource_metadata", .ofDict r.metadata)]

def decoder : Decoder Resource := fun room d => do
  let r ← Draft.asRecord
    ["resource_id", "resource_type", "allocated", "resource_descriptor", "resource_metadata"] room d
  return {
    id := ← r.required "resource_id" Draft.asText
    type := ← r.required "resource_type" Draft.asText
    allocated := ← r.required "allocated" Draft.asBool
    descriptor := ← r.required "resource_descriptor" Draft.asText
    metadata := ← r.withDefault "resource_metadata" Draft.asMetadata ∅ }

def routerType : String := "router"

/-- A resource as it is configured; without an id it gets a generated one. -/
structure Seed where
  id : Option String
  type : String
  descriptor : String
  metadata : Metadata
  deriving DecidableEq

namespace Seed

def toJson (s : Seed) : Json :=
  .ofFields [
    ("resource_id", .ofOption .string s.id),
    ("resource_type", .string s.type),
    ("resource_descriptor", .string s.descriptor),
    ("resource_metadata", .ofDict s.metadata)]

def decoder : Decoder Seed := fun room d => do
  let r ← Draft.asRecord
    ["resource_id", "resource_type", "resource_descriptor", "resource_metadata"] room d
  return {
    id := ← r.withDefault "resource_id" (Draft.asOption Draft.asText) none
    type := ← r.required "resource_type" Draft.asText
    descriptor := ← r.required "resource_descriptor" Draft.asText
    metadata := ← r.withDefault "resource_metadata" Draft.asMetadata ∅ }

end Seed
end Resource

/-- What a local pool is filled with: resources as given, then one per router instance. -/
structure PoolSettings where
  resources : List Resource.Seed
  /-- The address of each router instance. -/
  instances : Dict String
  instanceType : String
  instanceDescriptor : String
  deriving DecidableEq

namespace PoolSettings

def defaultInstanceType : String := Resource.routerType

def defaultInstanceDescriptor : String := "com.vyatta.vm"

def empty : PoolSettings := ⟨[], ∅, defaultInstanceType, defaultInstanceDescriptor⟩

instance : Inhabited PoolSettings := ⟨empty⟩

/-- The fields of a JSON object. -/
def toFields (s : PoolSettings) : List (String × Json) := [
  ("resources", .array (s.resources.map (·.toJson))),
  ("instances", .ofDict (s.instances.map .string)),
  ("instance_resource_type", .string s.instanceType),
  ("instance_descriptor", .string s.instanceDescriptor)]

def toJson (s : PoolSettings) : Json := .ofFields s.toFields

def decoder : Decoder PoolSettings := fun room d => do
  let r ← Draft.asRecord
    ["resources", "instances", "instance_resource_type", "instance_descriptor"] room d
  return {
    resources := ← r.withDefault "resources" (Draft.asList Resource.Seed.decoder) []
    instances := ← r.withDefault "instances" (Draft.asDict Draft.asText) ∅
    instanceType := ← r.withDefault "instance_resource_type" Draft.asText defaultInstanceType
    instanceDescriptor :=
      ← r.withDefault "instance_descriptor" Draft.asText defaultInstanceDescriptor }

end PoolSettings
end Brokerage
