import Brokerage.Json.Decode

/-! # Call contexts

On whose behalf a call is made.
-/

namespace Brokerage

structure Context where
  /-- Names the call in logs. -/
  requestId : String
  tenantId : Option String
  isAdmin : Bool
  deriving DecidableEq, Repr, Inhabited

namespace Context

def new (requestId : String) : Context := ⟨requestId, none, false⟩

/-- A context with administrative rights. -/
def admin (requestId : String) : Context := ⟨requestId, none, true⟩

def withTenant (ctx : Context) (tenantId : String) : Context :=
  { ctx with tenantId := some tenantId }

def toJson (ctx : Context) : Json :=
  .ofFields [
    ("request_id", .string ctx.requestId),
    ("tenant_id", .ofOption .string ctx.tenantId),
    ("is_admin", .bool ctx.isAdmin)]

def decoder : Decoder Context := fun room d => do
  let r ← Draft.asRecord ["request_id", "tenant_id", "is_admin"] room d
  return {
    requestId := ← r.required "request_id" Draft.asText
    tenantId := ← r.nullable "tenant_id" Draft.asText
    isAdmin := ← r.required "is_admin" Draft.asBool }

end Context
end Brokerage
