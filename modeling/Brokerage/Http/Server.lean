import Brokerage.Http.Api
import Brokerage.Net.Address
import Brokerage.Timeline

/-! # Serving requests

A request that takes longer than the time limit is answered with status 408. Creating and deleting
routers goes on behind that answer; everything else is dropped where it stands.
-/

namespace Brokerage.Http

/-- The settings of the web interface. -/
structure Settings where
  bindAddr : String
  requestTimeoutSecs : Nat
  deriving DecidableEq

namespace Settings

/-- Every address of this host. -/
def standard : Settings := ⟨"0.0.0.0:8090", 30⟩

instance : Inhabited Settings := ⟨standard⟩

def toJson (s : Settings) : Json :=
  .ofFields [
    ("bind_addr", .string s.bindAddr),
    ("request_timeout_secs", .ofNat s.requestTimeoutSecs)]

def decoder : Decoder Settings := fun room d => do
  let r ← Draft.asRecord ["bind_addr", "request_timeout_secs"] room d
  return {
    bindAddr := ← r.withDefault "bind_addr" Draft.asText standard.bindAddr
    requestTimeoutSecs :=
      ← r.withDefault "request_timeout_secs" (Draft.asNat (2 ^ 64)) standard.requestTimeoutSecs }

def requestTimeout (s : Settings) : Duration := .ofSeconds s.requestTimeoutSecs

/-- The address to listen on. -/
def socketAddress (s : Settings) : Except Error Net.Address :=
  match Net.Address.ofText? s.bindAddr with
  | some address => .ok address
  | none => .error (.configuration
    ("Invalid API address " ++ s.bindAddr ++ ": invalid socket address syntax"))

end Settings

/-- Answer a request within a time limit, if there is one. -/
def Api.Handler.serve (h : Api.Handler) (limit : Option Duration) (t : Timeline) :
    Except Failure Response × Timeline :=
  let deadline := limit.map fun d => t.clock + d.milliseconds
  match t.run deadline h.procedure with
  | (.finished result, t) => (result, t)
  | (.left rest, t) => (.ok (.bare 408), if h.detached then t.detach rest else t)

end Brokerage.Http
