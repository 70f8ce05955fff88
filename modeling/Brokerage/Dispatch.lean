import Brokerage.Broker

/-! # Dispatch

One router interface over many backends. A new router goes to the backend of the resource it is
allocated on; every later call finds the backend through the router's binding; listings ask every
backend that has a bound router.
-/

namespace Brokerage.Dispatch

/-- The descriptor of the backend that owns an object. -/
def ownerOf (registry : Registry) (objectId : String) : Procedure String := do
  let binding ← .getBinding objectId
  let _ ← Procedure.ofExcept (registry.get binding.placement.descriptor)
  return binding.placement.descriptor

/-- Call the backend that owns an object. -/
def callOwner (registry : Registry) (ctx : Context) (objectId : String) (call : Backend.Call) :
    Procedure call.Answer := do
  let descriptor ← ownerOf registry objectId
  .callBackend descriptor call ctx

/-- The request as it is passed on for a resource: the resource's metadata goes over its own. -/
def onResource (request : Router.Request) (r : Resource) : Router.Request :=
  { request with metadata := request.metadata.join r.metadata }

/-- Create a router on a newly allocated resource. -/
def create (registry : Registry) (ctx : Context) (request : Router.Request) : Procedure Router := do
  let (router, _) ← Broker.allocate ctx Resource.routerType fun pending => do
    let descriptor := pending.resource.descriptor
    let _ ← Procedure.ofExcept (registry.get descriptor)
    let router : Router ←
      .callBackend descriptor (.create (onResource request pending.resource)) ctx
    return (pending.bindObject router.id, router)
  return router

def update (registry : Registry) (ctx : Context) (id : String) (request : Router.Request) :
    Procedure Router :=
  callOwner registry ctx id (.update id request)

def get (registry : Registry) (ctx : Context) (id : String) (fields : Option (List String)) :
    Procedure Router :=
  callOwner registry ctx id (.get id fields)

/-- Delete a router on its backend, then free its resource. -/
def delete (registry : Registry) (ctx : Context) (id : String) : Procedure Unit :=
  Broker.deallocate ctx id fun binding => do
    let descriptor := binding.placement.descriptor
    let _ ← Procedure.ofExcept (registry.get descriptor)
    .callBackend descriptor (.delete id) ctx

/-- The first router of every id. -/
def firstOfEachId : List Router → List Router
  | [] => []
  | r :: rest => r :: (firstOfEachId rest).filter (·.id != r.id)

/-- Put one query to several backends, one after the other, up to the first that fails. What this
leaves out is that they may be asked at the same time: then those behind a failing one have been asked
too, and of several failures the first to come in is the answer. -/
def gather (ctx : Context) (query : Listing.Query) : List String → Procedure (List Router)
  | [] => return []
  | descriptor :: rest => do
    let routers : List Router ← .callBackend descriptor (.list query) ctx
    return routers ++ (← gather ctx query rest)

/-- The routers of every backend that has a bound router; of two with one id the first counts. -/
def list (registry : Registry) (ctx : Context) (query : Listing.Query) :
    Procedure (List Router) := do
  let descriptors ← .listDescriptors Resource.routerType
  let _ ← Procedure.ofExcept (descriptors.mapM registry.get)
  return firstOfEachId (← gather ctx query descriptors)

/-- How many routers the filters accept. -/
def count (registry : Registry) (ctx : Context) (filters : Dict (List String)) : Procedure Nat := do
  return (← list registry ctx { Listing.Query.all with filters }).length

def addInterface (registry : Registry) (ctx : Context) (id : String) (info : Json) :
    Procedure Json :=
  callOwner registry ctx id (.addInterface id info)

def removeInterface (registry : Registry) (ctx : Context) (id : String) (info : Json) :
    Procedure Json :=
  callOwner registry ctx id (.removeInterface id info)

/-- Pass an operation on to the default backend. -/
def passthrough (registry : Registry) (ctx : Context) (operation : String) (args : Json) :
    Procedure Json :=
  .callBackend registry.default (.invoke operation args) ctx

end Brokerage.Dispatch
