import Brokerage.Backend

/-! # The registry of backends

Which descriptors have a backend, and which one of them serves what no binding can route.
-/

namespace Brokerage

/-- Which provider makes the backend of each descriptor. -/
structure Registry.Settings where
  default : String
  providers : Dict String
  deriving DecidableEq

namespace Registry.Settings

/-- Two backends in memory. -/
def standard : Settings where
  default := "linuxbridge"
  providers := .ofList [("linuxbridge", "memory"), ("com.vyatta.vm", "memory")]

instance : Inhabited Settings := ⟨standard⟩

def toJson (s : Settings) : Json :=
  .ofFields [("default", .string s.default), ("providers", .ofDict (s.providers.map .string))]

def decoder : Decoder Settings := fun room d => do
  let r ← Draft.asRecord ["default", "providers"] room d
  return {
    default := ← r.withDefault "default" Draft.asText standard.default
    providers := ← r.withDefault "providers" (Draft.asDict Draft.asText) standard.providers }

end Registry.Settings

/-- The names of the registered backends; the default is one of them. -/
structure Registry where
  names : Dict String
  default : String
  /-- The default is registered. -/
  known : names.contains default = true
  deriving DecidableEq

namespace Registry

/-- Register backends by descriptor. -/
def new (names : Dict String) (default : String) : Except Error Registry :=
  if h : names.contains default = true then .ok ⟨names, default, h⟩
  else .error
    (.configuration ("default plugin descriptor '" ++ default ++ "' is not configured"))

def contains (r : Registry) (descriptor : String) : Bool := r.names.contains descriptor

def descriptors (r : Registry) : List String := r.names.keys

/-- The name of the backend of a descriptor. -/
def get (r : Registry) (descriptor : String) : Except Error String :=
  match r.names.get? descriptor with
  | some name => .ok name
  | none => .error (.unknownDescriptor descriptor)

/-- The backend that a provider makes for a descriptor. -/
def provide (provider descriptor : String) : Except Error Backend :=
  let kind := provider.map Char.toLower
  if kind = "memory" || kind = "in_memory" then .ok (.new descriptor)
  else .error (.configuration
    ("unknown plugin provider '" ++ provider ++ "' for descriptor '" ++ descriptor ++ "'"))

/-- The registry of some settings and its backends. -/
def build (s : Settings) : Except Error (Registry × Dict Backend) := do
  let backends ← s.providers.entries.mapM fun (descriptor, provider) => do
    return (descriptor, ← provide provider descriptor)
  let backends := Dict.ofList backends
  return (← new (backends.map (·.name)) s.default, backends)

end Registry
end Brokerage
