import Brokerage.Context
import Brokerage.Counters
import Brokerage.Dialogue
import Brokerage.Registry
import Brokerage.Store

/-! # Procedures

A procedure is a dialogue about effects: it acquires and releases resources, uses the store, calls
backends and counts. It ends with a result, an error, or a panic.
-/

namespace Brokerage

/-- What a procedure asks of the world. -/
inductive Effect where
  | acquire (ctx : Context) (resourceType : String)
  | release (ctx : Context) (resourceId : String)
  | store (op : Store.Op)
  | backend (descriptor : String) (call : Backend.Call) (ctx : Context)
  | count (event : Counters.Event)
  | readCounters
  deriving DecidableEq

namespace Effect

/-- What the world answers when an effect happens. -/
def Answer : Effect → Type
  | .acquire .. => Resource
  | .release .. => Unit
  | .store op => op.Answer
  | .backend _ call _ => call.Answer
  | .count _ => Unit
  | .readCounters => Counters

/-- An effect happens, or it fails. -/
abbrev Outcome (e : Effect) : Type := Except Failure e.Answer

end Effect

/-- A dialogue about effects that may fail. -/
abbrev Procedure (α : Type) : Type := ExceptT Failure (Dialogue Effect Effect.Outcome) α

namespace Procedure

variable {α : Type}

/-- Ask for an effect; its failure is the failure of the procedure. -/
def perform (e : Effect) : Procedure e.Answer := ExceptT.mk (Dialogue.request e)

def fail (e : Error) : Procedure α := throw (.error e)

def panic (message : String) : Procedure α := throw (.panic message)

/-- Go on with a result or end with its error. -/
def ofExcept : Except Error α → Procedure α
  | .ok value => pure value
  | .error e => fail e

/-- How a procedure ends, as its result. -/
def outcome (p : Procedure α) : Procedure (Except Failure α) :=
  ExceptT.mk ((ExceptT.run p).bind fun result => .done (.ok result))

/-- Run a clean-up when a procedure ends with an error, and end with that error. A panic passes. -/
def onError (p : Procedure α) (cleanUp : Procedure Unit) : Procedure α := do
  match ← p.outcome with
  | .ok value => return value
  | .error (.error e) => do
    cleanUp
    fail e
  | .error failure => throw failure

/-- Run a clean-up when a procedure ends with an error or in a panic, and end the same way. -/
def onFailure (p : Procedure α) (cleanUp : Procedure Unit) : Procedure α := do
  match ← p.outcome with
  | .ok value => return value
  | .error failure => do
    cleanUp
    throw failure

/-- Run a procedure for its effects; its error is forgotten, a panic passes. -/
def ignoreError (p : Procedure α) : Procedure Unit := do
  match ← p.outcome with
  | .error (.panic message) => panic message
  | _ => return

/-! ## Single effects -/

def acquire (ctx : Context) (resourceType : String) : Procedure Resource :=
  perform (.acquire ctx resourceType)

def release (ctx : Context) (resourceId : String) : Procedure Unit :=
  perform (.release ctx resourceId)

def addBinding (binding : Assignment) : Procedure Binding := perform (.store (.add binding))

def getBinding (objectId : String) : Procedure Binding := perform (.store (.get objectId))

def updateBinding (objectId : String) (change : Placement.Change) : Procedure Binding :=
  perform (.store (.update objectId change))

def deleteBinding (objectId : String) : Procedure Unit := perform (.store (.delete objectId))

def listDescriptors (resourceType : String) : Procedure (List String) :=
  perform (.store (.list resourceType))

def checkStore : Procedure Unit := perform (.store .health)

def callBackend (descriptor : String) (call : Backend.Call) (ctx : Context) :
    Procedure call.Answer :=
  perform (.backend descriptor call ctx)

def count (event : Counters.Event) : Procedure Unit := perform (.count event)

def readCounters : Procedure Counters := perform .readCounters

end Procedure
end Brokerage
