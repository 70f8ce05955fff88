import Brokerage.Procedure

/-! # The broker

Allocating couples a resource with the object that is made on it: a scope runs between acquiring
the resource and recording the binding, and whatever goes wrong there hands the resource back.
Deallocating runs a scope on the binding, removes it, and then frees the resource; if that fails,
the binding is recorded anew.
-/

namespace Brokerage

/-- An acquired resource that waits for its object. -/
structure Pending where
  resource : Resource
  objectId : Option String
  deriving DecidableEq, Inhabited

namespace Pending

def ofResource (r : Resource) : Pending := ⟨r, none⟩

/-- Name the object; the last one named counts. -/
def bindObject (p : Pending) (objectId : String) : Pending := { p with objectId := some objectId }

end Pending

namespace Broker

variable {α : Type}

/-- Hand a resource back after a failed allocation. -/
def rollback (ctx : Context) (resourceId : String) : Procedure Unit := do
  .count (.allocation .failure)
  .count .rollback
  (Procedure.release ctx resourceId).ignoreError

/-- Acquire a resource, run the scope on it, and record the object that the scope named. -/
def allocate (ctx : Context) (resourceType : String)
    (scope : Pending → Procedure (Pending × α)) : Procedure (α × Binding) := do
  let resource ← (Procedure.acquire ctx resourceType).onError (.count (.allocation .failure))
  let undo := rollback ctx resource.id
  let (pending, value) ← (scope (.ofResource resource)).onFailure undo
  match pending.objectId with
  | none => do
    undo
    .fail (.missingObjectId resource.id)
  | some objectId => do
    let binding ← (Procedure.addBinding (.ofResource objectId pending.resource)).onError undo
    .count (.allocation .success)
    return (value, binding)

/-- Run the scope on the binding of an object, remove the binding and free its resource. -/
def withdraw (ctx : Context) (objectId : String) (scope : Binding → Procedure α) : Procedure α := do
  let binding ← .getBinding objectId
  let value ← scope binding
  .deleteBinding objectId
  (Procedure.release ctx binding.placement.resourceId).onError
    (Procedure.addBinding (.ofBinding binding)).ignoreError
  return value

/-- Free the resource of an object, and count how that went. -/
def deallocate (ctx : Context) (objectId : String) (scope : Binding → Procedure α) :
    Procedure α := do
  let value ← (withdraw ctx objectId scope).onError (.count (.deallocation .failure))
  .count (.deallocation .success)
  return value

end Broker
end Brokerage
