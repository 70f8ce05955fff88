import Brokerage.Dispatch
import Brokerage.Proofs.Backend
import Brokerage.Proofs.Keeping

/-! # Operations of a dispatcher

What can be asked of one router interface over many backends, each operation as the procedure that
it runs. Only creating and deleting touch the pool and the bindings.
-/

namespace Brokerage

namespace Effect

/-- Effects that leave the pool and the bindings as they are. -/
def isQuiet : Effect → Bool
  | acquire .. | release .. | store (.add _) | store (.update ..) | store (.delete _) => false
  | store (.get _) | store (.list _) | store .health => true
  | backend .. | count _ | readCounters => true

/-- Quiet effects that leave the routers as they are, too. -/
def isGentle : Effect → Bool
  | backend _ call _ => call.isGentle
  | e => e.isQuiet

theorem ledger_of_isQuiet {op : Store.Op} (h : (store op).isQuiet = true) (now : Timestamp)
    (l : Ledger) : (Store.runOp now l op).2 = l := by
  cases op with
  | add | update | delete => cases h
  | get | list | health => rfl

end Effect

namespace Procedure

variable {α β : Type} {asks : Effect → Bool}

/-- A procedure that asks for some effects alone. -/
def Asks (asks : Effect → Bool) (p : Procedure α) : Prop := p.Within (asks · = true) fun _ => True

/-- A procedure that asks for quiet effects alone. -/
abbrev Quiet (p : Procedure α) : Prop := p.Asks Effect.isQuiet

namespace Asks

theorem pure {a : α} : Asks asks (Pure.pure a) := Within.pure trivial

theorem perform {e : Effect} (h : asks e = true) : Asks asks (Procedure.perform e) :=
  Within.perform h fun _ => trivial

theorem ofExcept {r : Except Error α} : Asks asks (Procedure.ofExcept r) :=
  Within.ofExcept (fun _ _ => trivial) fun _ => trivial

theorem bind {p : Procedure β} {f : β → Procedure α} (h : p.Asks asks)
    (next : ∀ a, (f a).Asks asks) : (p >>= f).Asks asks :=
  Within.bind h (fun a _ => next a) fun _ _ => trivial

theorem throw {failure : Failure} : Asks asks (MonadExcept.throw failure : Procedure α) := trivial

theorem outcome {p : Procedure α} (h : p.Asks asks) : p.outcome.Asks asks :=
  Dialogue.Within.bind (Dialogue.Within.mono h fun _ _ => trivial)

theorem onError {p : Procedure α} {cleanUp : Procedure Unit} (h : p.Asks asks)
    (cleaned : cleanUp.Asks asks) : (p.onError cleanUp).Asks asks := by
  refine .bind (.outcome h) fun r => ?_
  match r with
  | .ok _ => exact .pure
  | .error (.error _) => exact .bind cleaned fun _ => .throw
  | .error (.panic _) => exact .throw

theorem onFailure {p : Procedure α} {cleanUp : Procedure Unit} (h : p.Asks asks)
    (cleaned : cleanUp.Asks asks) : (p.onFailure cleanUp).Asks asks := by
  refine .bind (.outcome h) fun r => ?_
  match r with
  | .ok _ => exact .pure
  | .error _ => exact .bind cleaned fun _ => .throw

theorem ignoreError {p : Procedure α} (h : p.Asks asks) : p.ignoreError.Asks asks := by
  refine .bind (.outcome h) fun r => ?_
  match r with
  | .ok _ | .error (.error _) => exact .pure
  | .error (.panic _) => exact .throw

end Asks
end Procedure

namespace Dispatch

/-- What a creation does between acquiring a resource and recording the binding. -/
def creation (registry : Registry) (ctx : Context) (request : Router.Request) (pending : Pending) :
    Procedure (Pending × Router) := do
  let descriptor := pending.resource.descriptor
  let _ ← Procedure.ofExcept (registry.get descriptor)
  let router : Router ←
    .callBackend descriptor (.create (onResource request pending.resource)) ctx
  return (pending.bindObject router.id, router)

/-- What a deletion does before the binding is removed. -/
def deletion (registry : Registry) (ctx : Context) (id : String) (binding : Binding) :
    Procedure Unit := do
  let descriptor := binding.placement.descriptor
  let _ ← Procedure.ofExcept (registry.get descriptor)
  .callBackend descriptor (.delete id) ctx

inductive Operation where
  | create (request : Router.Request)
  | get (id : String) (fields : Option (List String))
  | update (id : String) (request : Router.Request)
  | delete (id : String)
  | list (query : Listing.Query)
  | count (filters : Dict (List String))
  | addInterface (id : String) (info : Json)
  | removeInterface (id : String) (info : Json)
  | passthrough (operation : String) (args : Json)
  deriving DecidableEq

namespace Operation

/-- What an operation answers when it succeeds. -/
def Answer : Operation → Type
  | create _ | get .. | update .. => Router
  | delete _ => Unit
  | list _ => List Router
  | count _ => Nat
  | addInterface .. | removeInterface .. | passthrough .. => Json

def procedure (registry : Registry) (ctx : Context) : (op : Operation) → Procedure op.Answer
  | create request => Dispatch.create registry ctx request
  | get id fields => Dispatch.get registry ctx id fields
  | update id request => Dispatch.update registry ctx id request
  | delete id => Dispatch.delete registry ctx id
  | list query => Dispatch.list registry ctx query
  | count filters => Dispatch.count registry ctx filters
  | addInterface id info => Dispatch.addInterface registry ctx id info
  | removeInterface id info => Dispatch.removeInterface registry ctx id info
  | passthrough operation args => Dispatch.passthrough registry ctx operation args

end Operation

variable {registry : Registry} {ctx : Context} {asks : Effect → Bool} {id : String}

theorem ownerOf_asks (get : asks (.store (.get id)) = true) : (ownerOf registry id).Asks asks :=
  .bind (.perform get) fun _ => .bind .ofExcept fun _ => .pure

theorem callOwner_asks {call : Backend.Call} (get : asks (.store (.get id)) = true)
    (sends : ∀ descriptor, asks (.backend descriptor call ctx) = true) :
    (callOwner registry ctx id call).Asks asks :=
  .bind (ownerOf_asks get) fun descriptor => .perform (sends descriptor)

theorem gather_asks {query : Listing.Query} {descriptors : List String}
    (sends : ∀ descriptor, asks (.backend descriptor (.list query) ctx) = true) :
    (gather ctx query descriptors).Asks asks := by
  induction descriptors with
  | nil => exact .pure
  | cons descriptor rest ih => exact .bind (.perform (sends descriptor)) fun _ => .bind ih fun _ => .pure

theorem list_asks {query : Listing.Query}
    (list : asks (.store (.list Resource.routerType)) = true)
    (sends : ∀ descriptor, asks (.backend descriptor (.list query) ctx) = true) :
    (Dispatch.list registry ctx query).Asks asks :=
  .bind (.perform list) fun _ => .bind .ofExcept fun _ => .bind (gather_asks sends) fun _ => .pure

namespace Operation

/-- Whether an operation leaves the pool and the bindings as they are. -/
def isQuiet : Operation → Bool
  | create _ | delete _ => false
  | _ => true

/-- Whether an operation leaves the routers as they are, too. -/
def isGentle : Operation → Bool
  | create _ | update .. | delete _ => false
  | _ => true

/-- Such an operation reads bindings and calls backends, and asks for nothing else. -/
theorem procedure_asks {op : Operation} (h : op.isQuiet = true)
    (get : ∀ id, asks (.store (.get id)) = true) (list : ∀ type, asks (.store (.list type)) = true)
    (sends : ∀ descriptor call, asks (.backend descriptor call ctx) = true) :
    (op.procedure registry ctx).Asks asks := by
  cases op with
  | create | delete => cases h
  | get id | update id | addInterface id | removeInterface id =>
      exact callOwner_asks (get id) fun descriptor => sends descriptor _
  | list query => exact list_asks (list _) fun descriptor => sends descriptor _
  | count filters =>
      exact .bind (list_asks (list _) fun descriptor => sends descriptor _) fun _ => .pure
  | passthrough operation args => exact .perform (sends _ _)

theorem procedure_quiet {op : Operation} (h : op.isQuiet = true) :
    (op.procedure registry ctx).Quiet :=
  procedure_asks h (fun _ => rfl) (fun _ => rfl) fun _ _ => rfl

theorem procedure_gentle {op : Operation} (h : op.isGentle = true) :
    (op.procedure registry ctx).Asks Effect.isGentle := by
  cases op with
  | create | update | delete => cases h
  | get | addInterface | removeInterface => exact callOwner_asks rfl fun _ => rfl
  | list query => exact list_asks rfl fun _ => rfl
  | count filters => exact .bind (list_asks rfl fun _ => rfl) fun _ => .pure
  | passthrough operation args => exact .perform rfl

end Operation
end Dispatch
end Brokerage
