import Brokerage.Time.Duration

/-! # Errors

Why a call fails: one constructor per cause, and one place for the wording.
-/

namespace Brokerage

inductive Error where
  | internal (reason : String)
  | configuration (reason : String)
  /-- The policy has no free resource of this type. -/
  | noMoreResources (resourceType : String)
  | wrongResourceId (resourceId : String)
  /-- No active binding has this object. -/
  | wrongObjectId (objectId : String)
  /-- An allocation named no object for its resource. -/
  | missingObjectId (resourceId : String)
  | duplicateBinding (objectId : String)
  | database (detail : String)
  | unknownDescriptor (descriptor : String)
  | unsupportedOperation (backend operation : String)
  | routerNotFound (backend routerId : String)
  | backendFailed (backend operation reason : String)
  | http (detail : String)
  | remoteService (status : Nat) (reason : String)
  | malformedResponse (reason : String)
  | timeout (operation : String) (limit : Duration)
  | jsonParse (detail : String)
  | yamlParse (detail : String)
  | io (reason : String)
  deriving DecidableEq, Repr, Inhabited

namespace Error

/-- The kinds that callers tell apart. -/
inductive Kind where
  | notFound
  | conflict
  | exhausted
  | connectivity
  | invalidRequest
  | internal
  deriving DecidableEq, Repr

def kind : Error → Kind
  | .wrongObjectId _ | .wrongResourceId _ | .unknownDescriptor _ | .routerNotFound .. => .notFound
  | .duplicateBinding _ => .conflict
  | .noMoreResources _ => .exhausted
  | .http _ | .remoteService .. | .malformedResponse _ | .timeout .. | .database _
  | .backendFailed .. => .connectivity
  | .unsupportedOperation .. | .missingObjectId _ | .jsonParse _ => .invalidRequest
  | .internal _ | .configuration _ | .yamlParse _ | .io _ => .internal

/-- Whether the error came from a network, a database or a backend. -/
def isConnectivity (e : Error) : Bool := e.kind = .connectivity

/-- A short name for programs. -/
def code : Error → String
  | .internal _ => "internal"
  | .configuration _ => "configuration"
  | .noMoreResources _ => "no_more_resources"
  | .wrongResourceId _ => "wrong_resource_id"
  | .wrongObjectId _ => "wrong_object_id"
  | .missingObjectId _ => "missing_object_id"
  | .duplicateBinding _ => "duplicate_binding"
  | .database _ => "database"
  | .unknownDescriptor _ => "unknown_descriptor"
  | .unsupportedOperation .. => "unsupported_operation"
  | .routerNotFound .. => "router_not_found"
  | .backendFailed .. => "backend_failed"
  | .http _ => "http"
  | .remoteService .. => "remote_service"
  | .malformedResponse _ => "malformed_response"
  | .timeout .. => "timeout"
  | .jsonParse _ => "json_parse"
  | .yamlParse _ => "yaml_parse"
  | .io _ => "io"

/-- The sentence for people. -/
def message : Error → String
  | .internal reason => "Internal error: " ++ reason
  | .configuration reason => "Configuration error: " ++ reason
  | .noMoreResources resourceType => "No more resources of type " ++ resourceType
  | .wrongResourceId resourceId => "Wrong resource id: " ++ resourceId
  | .wrongObjectId objectId => "Wrong object id: " ++ objectId
  | .missingObjectId resourceId => "Object id was not bound to resource " ++ resourceId
  | .duplicateBinding objectId => "Binding already exists for object " ++ objectId
  | .database detail => "Database error: " ++ detail
  | .unknownDescriptor descriptor => "Unknown backend descriptor: " ++ descriptor
  | .unsupportedOperation backend operation =>
    "Operation " ++ operation ++ " is not supported by backend " ++ backend
  | .routerNotFound backend routerId =>
    "Router " ++ routerId ++ " not found on backend " ++ backend
  | .backendFailed backend operation reason =>
    "Backend operation failed: " ++ backend ++ " - " ++ operation ++ ": " ++ reason
  | .http detail => "HTTP connection error: " ++ detail
  | .remoteService status reason =>
    "Remote service returned " ++ String.ofList (decimalDigits status) ++ ": " ++ reason
  | .malformedResponse reason => "Malformed response from remote service: " ++ reason
  | .timeout operation limit => "Operation " ++ operation ++ " timed out after " ++ limit.text
  | .jsonParse detail => "JSON parse error: " ++ detail
  | .yamlParse detail => "YAML parse error: " ++ detail
  | .io reason => "IO error: " ++ reason

end Error

/-- How a call ends without a result: with an error it reports, or in a panic that unwinds it. -/
inductive Failure where
  | error (cause : Error)
  | panic (message : String)
  deriving DecidableEq, Repr, Inhabited

end Brokerage
