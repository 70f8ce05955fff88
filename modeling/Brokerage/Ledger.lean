import Brokerage.Binding
import Brokerage.Error
import Brokerage.Json.Printer

/-! # The ledger of bindings

A table that only grows: deleting a binding marks its row with the row's own id, so that an object
has at most one active row and all its former ones. Metadata is kept as JSON text.
-/

namespace Brokerage

/-- A row of the table. -/
structure Ledger.Row where
  id : Nat
  objectId : String
  resourceType : String
  resourceId : String
  metadata : Option String
  descriptor : String
  createdAt : Timestamp
  updatedAt : Option Timestamp
  deletedAt : Option Timestamp
  deleted : Nat
  deriving DecidableEq, Inhabited

structure Ledger where
  /-- The rows, oldest first. -/
  rows : List Ledger.Row
  deriving DecidableEq, Inhabited

namespace Ledger

def empty : Ledger := ⟨[]⟩

instance : EmptyCollection Ledger := ⟨empty⟩

/-- The text that metadata is kept as. -/
def encodeMetadata (metadata : Option Metadata) : Option String :=
  metadata.map fun m => (Json.ofDict m).text

/-- The metadata that a text holds. -/
def decodeMetadata : Option String → Except Error (Option Metadata)
  | none => .ok none
  | some text =>
    match Draft.decodeText Draft.asMetadata text with
    | .ok metadata => .ok (some metadata)
    | .error .malformed => .error (.jsonParse "expected an object of JSON values")
    | .error .mismatch => .error (.jsonParse "invalid type: expected a map")

namespace Row

def isActive (row : Row) : Bool := row.deleted = 0

def isActiveOf (objectId : String) (row : Row) : Bool :=
  row.objectId = objectId && row.isActive

/-- The binding of a row; its metadata may not be readable. -/
def toBinding (row : Row) : Except Error Binding := do
  let metadata ← decodeMetadata row.metadata
  return {
    id := row.id
    objectId := row.objectId
    placement := ⟨row.resourceType, row.resourceId, metadata, row.descriptor⟩
    createdAt := row.createdAt
    updatedAt := row.updatedAt
    deletedAt := row.deletedAt
    deleted := row.deleted }

/-- A row with the place of a binding. -/
def move (row : Row) (placement : Placement) (now : Timestamp) : Row :=
  { row with
    resourceType := placement.resourceType
    resourceId := placement.resourceId
    metadata := encodeMetadata placement.metadata
    descriptor := placement.descriptor
    updatedAt := some now }

/-- A row that no longer counts. -/
def retire (row : Row) (now : Timestamp) : Row :=
  { row with deleted := row.id, deletedAt := some now, updatedAt := some now }

end Row

def nextId (l : Ledger) : Nat := l.rows.length + 1

def active? (l : Ledger) (objectId : String) : Option Row :=
  l.rows.find? (Row.isActiveOf objectId)

/-- The active row of an object, which must be there. -/
def requireActive (l : Ledger) (objectId : String) : Except Error Row :=
  match l.active? objectId with
  | some row => .ok row
  | none => .error (.wrongObjectId objectId)

def modifyActive (l : Ledger) (objectId : String) (f : Row → Row) : Ledger :=
  ⟨l.rows.map fun row => if row.isActiveOf objectId then f row else row⟩

/-- The row that a new binding gets. -/
def newRow (l : Ledger) (a : Assignment) (now : Timestamp) : Row where
  id := l.nextId
  objectId := a.objectId
  resourceType := a.placement.resourceType
  resourceId := a.placement.resourceId
  metadata := encodeMetadata a.placement.metadata
  descriptor := a.placement.descriptor
  createdAt := now
  updatedAt := none
  deletedAt := none
  deleted := 0

/-- Record a new active binding. The row stays even if its metadata cannot be read back. -/
def add (l : Ledger) (a : Assignment) (now : Timestamp) : Except Error Binding × Ledger :=
  match l.active? a.objectId with
  | some _ => (.error (.duplicateBinding a.objectId), l)
  | none =>
    let row := l.newRow a now
    (row.toBinding, ⟨l.rows ++ [row]⟩)

def get (l : Ledger) (objectId : String) : Except Error Binding := do
  (← l.requireActive objectId).toBinding

/-- Change the place of the active binding of an object. -/
def update (l : Ledger) (objectId : String) (c : Placement.Change) (now : Timestamp) :
    Except Error (Binding × Ledger) := do
  let binding ← l.get objectId
  let changed := { binding.change c with updatedAt := some now }
  return (changed, l.modifyActive objectId (·.move changed.placement now))

/-- Retire the active binding of an object. -/
def delete (l : Ledger) (objectId : String) (now : Timestamp) : Except Error Ledger := do
  let _ ← l.requireActive objectId
  return l.modifyActive objectId (·.retire now)

/-- The descriptors of a type's active bindings, each once, in ascending order. -/
def listByType (l : Ledger) (resourceType : String) : List String :=
  let rows := l.rows.filter fun row => row.isActive && row.resourceType = resourceType
  (Dict.ofList (rows.map fun row => (row.descriptor, ()))).keys

/-- Every binding that an object ever had, oldest first. -/
def history (l : Ledger) (objectId : String) : Except Error (List Binding) :=
  (l.rows.filter (·.objectId = objectId)).mapM (·.toBinding)

/-- Write raw text over the metadata of all rows of an object. -/
def overwriteMetadata (l : Ledger) (objectId : String) (text : Option String) : Ledger :=
  ⟨l.rows.map fun row => if row.objectId = objectId then { row with metadata := text } else row⟩

def countRows (l : Ledger) (objectId : String) : Nat := l.rows.countP (·.objectId = objectId)

end Ledger
end Brokerage
