import Brokerage.Pool
import Brokerage.Remote.Service

/-! # Allocation policies

Who hands out resources: the local pool, or a remote service.
-/

namespace Brokerage

/-- The choice of a policy and its settings. -/
inductive Policy.Settings where
  | localPool (settings : PoolSettings)
  | remote (settings : Remote.Settings)
  deriving DecidableEq

namespace Policy.Settings

/-- An empty local pool. -/
def standard : Settings := .localPool .empty

instance : Inhabited Settings := ⟨standard⟩

def tagKey : String := "driver"

/-- The settings' own fields stand beside the name of the policy. -/
def toJson : Settings → Json
  | .localPool s => .ofFields ((tagKey, .string "local_pool") :: s.toFields)
  | .remote s => .ofFields ((tagKey, .string "remote") :: s.toFields)

/-- The entries of the tag, and all others. -/
def splitTag (entries : List (Option String × Draft)) :
    List Draft × List (Option String × Draft) :=
  ((entries.filter (·.1 = some tagKey)).map (·.2), entries.filter (·.1 != some tagKey))

/-- Settings by the name of their policy. -/
def ofTag (tag : String) (room : Nat) (fields : Draft) : Except Flaw Settings :=
  if tag = "local_pool" then (PoolSettings.decoder room fields).map .localPool
  else if tag = "remote" then (Remote.Settings.decoder room fields).map .remote
  else .error .mismatch

/-- The tag stands among the fields, or before them in an array. Everything is read before the
policy is chosen, so no field is skipped unread. -/
def decoder : Decoder Settings := fun room d => do
  let _ ← Draft.asJson room d
  match d with
  | .object entries closed =>
    match splitTag entries with
    | ([tag], fields) => ofTag (← Draft.asText room tag) room (.object fields closed)
    | _ => throw .mismatch
  | .array (tag :: items) closed => ofTag (← Draft.asText room tag) room (.array items closed)
  | d => throw d.refusal

/-- The name of the policy. -/
def driverName : Settings → String
  | .localPool _ => "local_pool"
  | .remote _ => "remote"

end Policy.Settings

inductive Policy where
  | localPool (pool : Pool)
  | remote (client : Remote.Client) (service : Remote.Service)

namespace Policy

instance : Inhabited Policy := ⟨.localPool ∅⟩

def driverName : Policy → String
  | .localPool _ => "local_pool"
  | .remote .. => "remote"

/-- Take a free resource of a type. -/
def acquire (p : Policy) (resourceType : String) : Except Error Resource × Policy :=
  match p with
  | .localPool pool =>
    match pool.acquire resourceType with
    | .ok (resource, pool) => (.ok resource, .localPool pool)
    | .error e => (.error e, .localPool pool)
  | .remote client service =>
    let (result, service) := service.serve (Remote.acquire client resourceType)
    (result, .remote client service)

/-- Give a resource back. -/
def release (p : Policy) (resourceId : String) : Except Error Unit × Policy :=
  match p with
  | .localPool pool =>
    match pool.release resourceId with
    | .ok pool => (.ok (), .localPool pool)
    | .error e => (.error e, .localPool pool)
  | .remote client service =>
    let (result, service) := service.serve (Remote.release client resourceId)
    (result, .remote client service)

/-- The policy that some settings choose; a remote service is reached through the network. -/
def build (s : Settings) (network : Remote.Service) (ids : IdSupply) :
    Except Error (Policy × IdSupply) := do
  match s with
  | .localPool s =>
    let (pool, ids) ← Pool.build s ids
    return (.localPool pool, ids)
  | .remote s => return (.remote (.ofSettings s) network, ids)

end Policy
end Brokerage
