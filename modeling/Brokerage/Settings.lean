import Brokerage.Http.Server
import Brokerage.Policy
import Brokerage.Yaml.Value

/-! # Settings

All settings of a broker, read from YAML or JSON, and what they must satisfy together.
-/

namespace Brokerage

structure Settings where
  policy : Policy.Settings
  plugins : Registry.Settings
  store : Store.Settings
  api : Http.Settings
  deriving DecidableEq

namespace Settings

def standard : Settings := ⟨.standard, .standard, .standard, .standard⟩

instance : Inhabited Settings := ⟨standard⟩

def toJson (s : Settings) : Json :=
  .ofFields [
    ("policy", s.policy.toJson),
    ("plugins", s.plugins.toJson),
    ("store", s.store.toJson),
    ("api", s.api.toJson)]

def decoder : Decoder Settings := fun room d => do
  let r ← Draft.asRecord ["policy", "plugins", "store", "api"] room d
  return {
    policy := ← r.withDefault "policy" Policy.Settings.decoder .standard
    plugins := ← r.withDefault "plugins" Registry.Settings.decoder .standard
    store := ← r.withDefault "store" Store.Settings.decoder .standard
    api := ← r.withDefault "api" Http.Settings.decoder .standard }

/-! ## YAML -/

open Yaml (Node)

/-- The policy is read as a value of any kind before its fields are. -/
def policyOfNode (node : Node) : Option Policy.Settings :=
  (Policy.Settings.decoder Draft.depthLimit node.toDraft).toOption

def pluginsOfNode (node : Node) : Option Registry.Settings := do
  let f ← node.fields? ["default", "providers"]
  let standard := Registry.Settings.standard
  return {
    default := ← Node.withDefault f "default" Node.asText standard.default
    providers := ← Node.withDefault f "providers" (Node.asDict Node.asText) standard.providers }

def storeOfNode (node : Node) : Option Store.Settings := do
  let f ← node.fields? ["database_url", "max_connections", "query_timeout_secs"]
  let standard := Store.Settings.standard
  return {
    databaseUrl := ← Node.withDefault f "database_url" Node.asText standard.databaseUrl
    maxConnections :=
      ← Node.withDefault f "max_connections" (Node.asNat (2 ^ 32)) standard.maxConnections
    queryTimeoutSecs :=
      ← Node.withDefault f "query_timeout_secs" (Node.asNat (2 ^ 64)) standard.queryTimeoutSecs }

def apiOfNode (node : Node) : Option Http.Settings := do
  let f ← node.fields? ["bind_addr", "request_timeout_secs"]
  let standard := Http.Settings.standard
  return {
    bindAddr := ← Node.withDefault f "bind_addr" Node.asText standard.bindAddr
    requestTimeoutSecs :=
      ← Node.withDefault f "request_timeout_secs" (Node.asNat (2 ^ 64))
        standard.requestTimeoutSecs }

def ofNode (node : Node) : Option Settings := do
  let f ← node.fields? ["policy", "plugins", "store", "api"]
  return {
    policy := ← Node.withDefault f "policy" policyOfNode .standard
    plugins := ← Node.withDefault f "plugins" pluginsOfNode .standard
    store := ← Node.withDefault f "store" storeOfNode .standard
    api := ← Node.withDefault f "api" apiOfNode .standard }

/-! ## Checks -/

/-- Check what must hold of the settings together. -/
def validate (s : Settings) : Except Error Unit := do
  if !s.plugins.providers.contains s.plugins.default then
    throw (.configuration
      ("default plugin descriptor '" ++ s.plugins.default ++ "' has no provider"))
  if blankText s.store.databaseUrl then
    throw (.configuration "store.database_url is empty")
  if s.store.queryTimeoutSecs = 0 then
    throw (.configuration "store.query_timeout_secs must be positive")
  if let .remote r := s.policy then
    if blankText r.host || r.port = 0 then
      throw (.configuration ("invalid remote allocation endpoint " ++ r.host ++ ":" ++
        String.ofList (decimalDigits r.port)))
  let _ ← s.api.socketAddress

/-- Read settings from YAML and check them. -/
def ofYaml (text : String) : Except Error Settings := do
  match (Node.ofText? text).bind ofNode with
  | none => throw (.yamlParse "the settings cannot be read")
  | some s => do
    s.validate
    return s

end Settings

/-- Read the settings of a policy from YAML. -/
def Policy.Settings.ofYaml? (text : String) : Option Policy.Settings :=
  (Yaml.Node.ofText? text).bind Brokerage.Settings.policyOfNode

end Brokerage
