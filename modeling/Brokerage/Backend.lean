import Brokerage.Error
import Brokerage.Identity
import Brokerage.Listing.Page

/-! # Backends

A backend holds routers in creation order and the interfaces that are attached to each of them.
-/

namespace Brokerage

/-- A router and its interfaces, oldest first. -/
structure Backend.Entry where
  router : Router
  interfaces : List Json
  deriving DecidableEq, Inhabited

structure Backend where
  name : String
  /-- Whether the backend knows operations beyond those on routers. -/
  extended : Bool
  entries : List Backend.Entry
  deriving DecidableEq, Inhabited

namespace Backend

/-- What a backend is asked to do. -/
inductive Call where
  | create (request : Router.Request)
  | update (id : String) (request : Router.Request)
  | get (id : String) (fields : Option (List String))
  | delete (id : String)
  | list (query : Listing.Query)
  | addInterface (id : String) (info : Json)
  | removeInterface (id : String) (info : Json)
  | invoke (operation : String) (args : Json)
  deriving DecidableEq

namespace Call

/-- What a call answers when it succeeds. -/
def Answer : Call → Type
  | .create _ | .update .. | .get .. => Router
  | .delete _ => Unit
  | .list _ => List Router
  | .addInterface .. | .removeInterface .. | .invoke .. => Json

/-- The name of a call. -/
def method : Call → String
  | .create _ => "create_router"
  | .update .. => "update_router"
  | .get .. => "get_router"
  | .delete _ => "delete_router"
  | .list _ => "get_routers"
  | .addInterface .. => "add_router_interface"
  | .removeInterface .. => "remove_router_interface"
  | .invoke .. => "invoke"

/-- The arguments of a call. -/
def arguments : Call → List Json
  | .create request => [request.toJson]
  | .update id request => [.string id, request.toJson]
  | .get id fields => [.string id, .ofOption .ofTexts fields]
  | .delete id => [.string id]
  | .list query => [query.toJson]
  | .addInterface id info | .removeInterface id info => [.string id, info]
  | .invoke operation args => [.string operation, args]

end Call

def new (name : String) : Backend := ⟨name, true, []⟩

def find? (b : Backend) (id : String) : Option Entry := b.entries.find? (·.router.id = id)

/-- The entry of a router, which must be there. -/
def require (b : Backend) (id : String) : Except Error Entry :=
  match b.find? id with
  | some entry => .ok entry
  | none => .error (.routerNotFound b.name id)

def routers (b : Backend) : List Router := b.entries.map (·.router)

/-- A call that is of no use to this backend. -/
def refuse (b : Backend) (operation reason : String) : Error :=
  .backendFailed b.name operation reason

/-- Hold a router, without interfaces, in the place of one with the same id or as the newest. -/
def insert (b : Backend) (r : Router) : Backend :=
  if (b.find? r.id).isSome then
    { b with entries := b.entries.map fun e => if e.router.id = r.id then ⟨r, []⟩ else e }
  else { b with entries := b.entries ++ [⟨r, []⟩] }

def modify (b : Backend) (id : String) (f : Entry → Entry) : Backend :=
  { b with entries := b.entries.map fun e => if e.router.id = id then f e else e }

/-- Create a router under a new id. -/
def create (b : Backend) (ids : IdSupply) (request : Router.Request) :
    Router × Backend × IdSupply :=
  let (id, ids) := ids.take
  let router := Router.ofRequest id request
  (router, b.insert router, ids)

def update (b : Backend) (id : String) (request : Router.Request) :
    Except Error (Router × Backend) := do
  let entry ← b.require id
  let router := entry.router.update request
  return (router, b.modify id fun e => { e with router })

def get (b : Backend) (id : String) (fields : Option (List String)) : Except Error Router := do
  return (← b.require id).router.project fields

def delete (b : Backend) (id : String) : Except Error Backend := do
  let _ ← b.require id
  return { b with entries := b.entries.filter (·.router.id != id) }

def list (b : Backend) (query : Listing.Query) : List Router := Listing.page query b.routers

/-! ## Interfaces -/

def portKey : String := "port_id"

def subnetKey : String := "subnet_id"

/-- Attach an interface: it gets a port if it names none, and the router's id. -/
def addInterface (b : Backend) (ids : IdSupply) (id : String) (info : Json) :
    Except Error (Json × Backend × IdSupply) :=
  match info with
  | .object entries => do
    let _ ← b.require id
    let info : Dict Json := .ofList entries
    let (info, ids) :=
      if info.contains portKey then (info, ids)
      else
        let (port, ids) := ids.take
        (info.insert portKey (.string port), ids)
    let interface := Json.ofDict (info.insert "id" (.string id))
    let attach (e : Entry) : Entry := { e with interfaces := e.interfaces ++ [interface] }
    return (interface, b.modify id attach, ids)
  | _ => .error (b.refuse "add_router_interface" "interface info must be an object")

/-- The value by which an interface is chosen; `null` chooses nothing. -/
def selector (info : Json) (key : String) : Option Json :=
  (info.field? key).filter fun value => !value.isNull

/-- Whether an interface has the chosen value for a key, if one is chosen. -/
def agrees (key : String) (chosen : Option Json) (interface : Json) : Bool :=
  match chosen with
  | none => true
  | some value =>
    match interface.field? key with
    | some own => own.same value
    | none => false

/-- Detach the oldest interface that has the chosen port and the chosen subnet. -/
def removeInterface (b : Backend) (id : String) (info : Json) : Except Error (Json × Backend) := do
  let entry ← b.require id
  let port := selector info portKey
  let subnet := selector info subnetKey
  if port.isNone && subnet.isNone then
    throw (b.refuse "remove_router_interface" "either port_id or subnet_id is required")
  let chosen := fun interface =>
    agrees portKey port interface && agrees subnetKey subnet interface
  match entry.interfaces.find? chosen with
  | some interface =>
    return (interface, b.modify id fun e => { e with interfaces := e.interfaces.eraseP chosen })
  | none =>
    throw (b.refuse "remove_router_interface" ("no matching interface on router " ++ id))

def interfaces (b : Backend) (id : String) : Except Error (List Json) := do
  return (← b.require id).interfaces

/-- Run an operation beyond those on routers. -/
def invoke (b : Backend) (operation : String) (args : Json) : Except Error Json :=
  if !b.extended then .error (.unsupportedOperation b.name operation)
  else if operation = "get_router_interfaces" then
    match (args.field? "router_id").bind (·.text?) with
    | some id => (b.interfaces id).map .array
    | none => .error (b.refuse operation "router_id is required")
  else if operation = "get_backend_info" then
    .ok (.ofFields [("backend", .string b.name), ("routers", .ofNat b.entries.length)])
  else .error (.unsupportedOperation b.name operation)

/-- Answer a call. -/
def answer (b : Backend) (ids : IdSupply) :
    (call : Call) → Except Error call.Answer × Backend × IdSupply
  | .create request =>
    let (router, b, ids) := b.create ids request
    (.ok router, b, ids)
  | .update id request =>
    match b.update id request with
    | .ok (router, b) => (.ok router, b, ids)
    | .error e => (.error e, b, ids)
  | .get id fields => (b.get id fields, b, ids)
  | .delete id =>
    match b.delete id with
    | .ok b => (.ok (), b, ids)
    | .error e => (.error e, b, ids)
  | .list query => (.ok (b.list query), b, ids)
  | .addInterface id info =>
    match b.addInterface ids id info with
    | .ok (interface, b, ids) => (.ok interface, b, ids)
    | .error e => (.error e, b, ids)
  | .removeInterface id info =>
    match b.removeInterface id info with
    | .ok (interface, b) => (.ok interface, b, ids)
    | .error e => (.error e, b, ids)
  | .invoke operation args => (b.invoke operation args, b, ids)

end Backend
end Brokerage
