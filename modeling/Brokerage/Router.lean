import Brokerage.Json.Decode

/-! # Routers

The objects that backends hold. Attributes that a router has beside its id, name and metadata
stand next to these in its JSON object.
-/

namespace Brokerage

structure Router where
  id : String
  name : Option String
  metadata : Metadata
  attributes : Dict Json
  deriving DecidableEq

/-- What a router is to be created with, or which of its parts are to change. -/
structure Router.Request where
  name : Option String
  metadata : Metadata
  attributes : Dict Json
  deriving DecidableEq

namespace Router

instance : Inhabited Router := ⟨"", none, ∅, ∅⟩

/-- The parts of a router's object that its own fields take. -/
structure Parts where
  id : Option String
  name : Option (Option String)
  metadata : Option Metadata
  attributes : Dict Json

/-- Read the entries of an object in order. A field must not repeat; of attributes the last one of
a key counts. -/
def decodeParts (withId : Bool) (room : Nat) :
    Parts → List (Option String × Draft) → Except Flaw Parts
  | parts, [] => .ok parts
  | parts, (key, d) :: rest => do
    let key ← Draft.readKey key
    if withId && key = "id" then
      if parts.id.isSome then throw .mismatch
      decodeParts withId room { parts with id := some (← Draft.asText room d) } rest
    else if key = "name" then
      if parts.name.isSome then throw .mismatch
      let name ← Draft.asOption Draft.asText room d
      decodeParts withId room { parts with name := some name } rest
    else if key = "metadata" then
      if parts.metadata.isSome then throw .mismatch
      decodeParts withId room { parts with metadata := some (← Draft.asMetadata room d) } rest
    else
      let value ← Draft.asJson room d
      decodeParts withId room { parts with attributes := parts.attributes.insert key value } rest

/-- Read an object as the parts of a router. -/
def partsDecoder (withId : Bool) : Decoder Parts := fun room d =>
  match d with
  | .object entries closed => do
    let room ← Draft.enter room
    let parts ← decodeParts withId room ⟨none, none, none, ∅⟩ entries
    Draft.ended closed
    return parts
  | d => .error d.refusal

def decoder : Decoder Router := fun room d => do
  let parts ← partsDecoder true room d
  match parts.id with
  | some id => return ⟨id, parts.name.getD none, parts.metadata.getD ∅, parts.attributes⟩
  | none => throw .mismatch

/-- The field of a name that is there. -/
def nameField : Option String → List (String × Json)
  | some name => [("name", .string name)]
  | none => []

def toJson (r : Router) : Json :=
  .ofFields (("id", .string r.id) :: nameField r.name ++ ("metadata", .ofDict r.metadata) ::
    r.attributes.entries)

namespace Request

def empty : Request := ⟨none, ∅, ∅⟩

instance : Inhabited Request := ⟨empty⟩

def decoder : Decoder Request := fun room d => do
  let parts ← partsDecoder false room d
  return ⟨parts.name.getD none, parts.metadata.getD ∅, parts.attributes⟩

def toJson (r : Request) : Json :=
  .ofFields (nameField r.name ++ ("metadata", .ofDict r.metadata) :: r.attributes.entries)

end Request

/-- The keys that a router's own fields take. -/
def isReserved (key : String) : Bool := key = "id" || key = "name" || key = "metadata"

/-- The attributes that do not collide with a router's own fields. -/
def freeAttributes (attributes : Dict Json) : Dict Json :=
  attributes.restrict fun key => !isReserved key

/-- The router that a request asks for. -/
def ofRequest (id : String) (request : Request) : Router :=
  ⟨id, request.name, request.metadata, freeAttributes request.attributes⟩

/-- Change a router: a given name replaces the old one, entries are put over the old ones. -/
def update (r : Router) (request : Request) : Router where
  id := r.id
  name := request.name <|> r.name
  metadata := r.metadata.join request.metadata
  attributes := r.attributes.join (freeAttributes request.attributes)

/-- Keep the wanted fields and the id. -/
def project (r : Router) : Option (List String) → Router
  | none => r
  | some fields =>
    { id := r.id
      name := if fields.contains "name" then r.name else none
      metadata := if fields.contains "metadata" then r.metadata else ∅
      attributes := r.attributes.restrict fields.contains }

/-- The value that filters and sort keys see. -/
def attribute? (r : Router) (key : String) : Option Json :=
  if key = "id" then some (.string r.id)
  else if key = "name" then r.name.map .string
  else r.attributes.get? key

end Router
end Brokerage
