import Brokerage.Ledger
import Brokerage.Text.Percent

/-! # The binding store

A ledger behind a connection that can be closed or kept waiting by a lock. Every operation has the
same time limit; an operation that has to wait for the lock longer than that reports a timeout.
-/

namespace Brokerage

/-- How to connect to a store. -/
structure Store.Settings where
  databaseUrl : String
  maxConnections : Nat
  queryTimeoutSecs : Nat
  deriving DecidableEq

namespace Store.Settings

/-- A private store in memory. -/
def standard : Settings := ⟨"sqlite::memory:", 1, 10⟩

instance : Inhabited Settings := ⟨standard⟩

def toJson (s : Settings) : Json :=
  .ofFields [
    ("database_url", .string s.databaseUrl),
    ("max_connections", .ofNat s.maxConnections),
    ("query_timeout_secs", .ofNat s.queryTimeoutSecs)]

def decoder : Decoder Settings := fun room d => do
  let r ← Draft.asRecord ["database_url", "max_connections", "query_timeout_secs"] room d
  return {
    databaseUrl := ← r.withDefault "database_url" Draft.asText standard.databaseUrl
    maxConnections :=
      ← r.withDefault "max_connections" (Draft.asNat (2 ^ 32)) standard.maxConnections
    queryTimeoutSecs :=
      ← r.withDefault "query_timeout_secs" (Draft.asNat (2 ^ 64)) standard.queryTimeoutSecs }

end Store.Settings

namespace Store

/-- Where the rows of a store are kept. -/
inductive Location where
  | memory
  | file (path : String)
  deriving DecidableEq, Repr, Inhabited

/-- What the operations of a store are asked to do. -/
inductive Op where
  | add (binding : Assignment)
  | get (objectId : String)
  | update (objectId : String) (change : Placement.Change)
  | delete (objectId : String)
  | list (resourceType : String)
  | health
  deriving DecidableEq

namespace Op

/-- What an operation answers when it succeeds. -/
def Answer : Op → Type
  | .add _ | .get _ | .update .. => Binding
  | .delete _ | .health => Unit
  | .list _ => List String

/-- The name of an operation in a timeout. -/
def name : Op → String
  | .add _ => "binding_add"
  | .get _ => "binding_get"
  | .update .. => "binding_update"
  | .delete _ => "binding_delete"
  | .list _ => "binding_list_by_type"
  | .health => "health_check"

end Op

namespace Location

/-- Drop a word from the front as often as it stands there. -/
def dropAll (word : List Char) : Nat → List Char → List Char
  | 0, text => text
  | fuel + 1, text =>
    if word.isPrefixOf text then dropAll word fuel (text.drop word.length) else text

/-- One parameter of a URL, with the location as it is so far. -/
def withParameter (location : Location) (key value : String) : Option Location :=
  match key, value with
  | "mode", "memory" => some .memory
  | "mode", "ro" | "mode", "rw" | "mode", "rwc" => some location
  | "cache", "private" | "cache", "shared" => some location
  | "immutable", "true" | "immutable", "1" | "immutable", "false" | "immutable", "0" =>
    some location
  | "vfs", _ => some location
  | _, _ => none

/-- The location that a URL names; none if it has a parameter of no meaning. -/
def ofUrl? (url : String) : Option Location := do
  let text := url.toList
  let text := dropAll "sqlite://".toList text.length text
  let text := dropAll "sqlite:".toList text.length text
  let database := text.takeWhile (· != '?')
  let query := (text.dropWhile (· != '?')).drop 1
  let location ←
    if database = ":memory:".toList then some .memory
    else (Percent.decode? database).map .file
  (Percent.formPairs query).foldlM
    (fun location (key, value) => withParameter location key value) location

end Location
end Store

structure Store where
  ledger : Ledger
  location : Store.Location
  queryTimeout : Duration
  isOpen : Bool
  /-- Whether somebody else holds the lock. -/
  locked : Bool
  deriving DecidableEq, Inhabited

namespace Store

def closedError : Error := .database "attempted to acquire a connection on a closed pool"

/-- A new store in memory with the standard time limit. -/
def inMemory : Store :=
  ⟨∅, .memory, .ofSeconds Settings.standard.queryTimeoutSecs, true, false⟩

/-- Open the store that some settings name; a file opens only where the test allows it. -/
def connect (settings : Settings) (canOpen : String → Bool) : Except Error Store :=
  match Location.ofUrl? settings.databaseUrl with
  | none => .error (.database "error with configuration")
  | some location =>
    let opens :=
      match location with
      | .memory => true
      | .file path => canOpen path
    if opens then .ok ⟨∅, location, .ofSeconds settings.queryTimeoutSecs, true, false⟩
    else .error (.database "unable to open database file")

/-- Close the store; a closed store can be closed again. -/
def close (s : Store) : Store := { s with isOpen := false }

/-- Close the store and open it again; only a file keeps its rows. -/
def reopen (s : Store) : Store :=
  match s.location with
  | .memory => { s with ledger := ∅, isOpen := true }
  | .file _ => { s with isOpen := true }

/-- Why no operation of a name can run now, if so. -/
def obstacle? (s : Store) (name : String) : Option Error :=
  if !s.isOpen then some closedError
  else if s.locked then some (.timeout name s.queryTimeout)
  else none

/-- Run an operation on a ledger that nothing keeps it from. -/
def runOp (now : Timestamp) (l : Ledger) : (op : Op) → Except Error op.Answer × Ledger
  | .add binding => l.add binding now
  | .get objectId => (l.get objectId, l)
  | .update objectId change =>
    match l.update objectId change now with
    | .ok (binding, l) => (.ok binding, l)
    | .error e => (.error e, l)
  | .delete objectId =>
    match l.delete objectId now with
    | .ok l => (.ok (), l)
    | .error e => (.error e, l)
  | .list resourceType => (.ok (l.listByType resourceType), l)
  | .health => (.ok (), l)

/-- Run an operation. -/
def run (s : Store) (now : Timestamp) (op : Op) : Except Error op.Answer × Store :=
  match s.obstacle? op.name with
  | some e => (.error e, s)
  | none =>
    let (answer, ledger) := runOp now s.ledger op
    (answer, { s with ledger })

/-- Every binding that an object ever had, oldest first. -/
def history (s : Store) (objectId : String) : Except Error (List Binding) :=
  match s.obstacle? "binding_history" with
  | some e => .error e
  | none => s.ledger.history objectId

/-- Create the table if it is missing; a store that is open has it. -/
def migrate (s : Store) : Except Error Unit :=
  if !s.isOpen then .error closedError
  else if s.locked then .error (.database "database is locked")
  else .ok ()

end Store
end Brokerage
