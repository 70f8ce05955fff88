import Brokerage.Json.Decode
import Brokerage.Json.Printer
import Brokerage.Time.Duration

/-! # Where the allocation service is
-/

namespace Brokerage.Remote

structure Settings where
  scheme : String
  host : String
  port : Nat
  /-- The first segment of every path. -/
  version : String
  requestTimeoutSecs : Nat
  deriving DecidableEq

namespace Settings

/-- A service on this host. -/
def standard : Settings := ⟨"http", "localhost", 8080, "v1", 30⟩

instance : Inhabited Settings := ⟨standard⟩

def baseUrl (s : Settings) : String :=
  s.scheme ++ "://" ++ s.host ++ ":" ++ String.ofList (decimalDigits s.port) ++ "/" ++ s.version

def toFields (s : Settings) : List (String × Json) := [
  ("scheme", .string s.scheme),
  ("host", .string s.host),
  ("port", .ofNat s.port),
  ("version", .string s.version),
  ("request_timeout_secs", .ofNat s.requestTimeoutSecs)]

def toJson (s : Settings) : Json := .ofFields s.toFields

def decoder : Decoder Settings := fun room d => do
  let r ← Draft.asRecord ["scheme", "host", "port", "version", "request_timeout_secs"] room d
  return {
    scheme := ← r.withDefault "scheme" Draft.asText standard.scheme
    host := ← r.withDefault "host" Draft.asText standard.host
    port := ← r.withDefault "port" (Draft.asNat (2 ^ 16)) standard.port
    version := ← r.withDefault "version" Draft.asText standard.version
    requestTimeoutSecs :=
      ← r.withDefault "request_timeout_secs" (Draft.asNat (2 ^ 64)) standard.requestTimeoutSecs }

end Settings
end Brokerage.Remote
