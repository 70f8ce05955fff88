import Brokerage.Dialogue
import Brokerage.Error
import Brokerage.Remote.Settings
import Brokerage.Remote.Url
import Brokerage.Resource
import Brokerage.Text.Blank

/-! # Exchanges with an allocation service

The service lists free resources and marks them as taken or free. Acquiring asks for one candidate
and claims it; if the service's description of the claimed resource is unusable, the claim is
given up again.
-/

namespace Brokerage.Remote

/-- What is asked of the service. -/
inductive Request where
  /-- At most one free resource of a type. -/
  | list (resourceType : String)
  /-- Set the mark of a resource. -/
  | mark (resourceId : String) (allocated : Bool)
  deriving DecidableEq, Repr, Inhabited

/-- What comes back. -/
inductive Reply where
  | answer (status : Nat) (body : String)
  /-- No connection, or none that held until the answer. -/
  | lost
  /-- No answer in time. -/
  | silence
  deriving DecidableEq, Repr, Inhabited

/-- A dialogue with the service that may fail. -/
abbrev Exchange (α : Type) : Type := ExceptT Error (Dialogue Request fun _ => Reply) α

/-- How the service is reached. -/
structure Client where
  /-- The collection of resources, ending with a slash. -/
  resourcesUrl : String
  timeout : Duration
  /-- How it reads the hosts of its URLs. -/
  [hosts : Url.Hosts]

namespace Client

def trimSlashes (url : String) : String :=
  String.ofList (url.toList.reverse.dropWhile (· = '/')).reverse

def ofBaseUrl [Url.Hosts] (url : String) (timeout : Duration) : Client :=
  ⟨trimSlashes url ++ "/resources/", timeout⟩

/-- Read a URL as the client does. -/
def read? (client : Client) (url : String) : Option Url := @Url.ofText? client.hosts url

def ofSettings (s : Settings) : Client :=
  ofBaseUrl s.baseUrl (.ofSeconds s.requestTimeoutSecs)

end Client

namespace Request

/-- The name of a request in errors. -/
def operation : Request → String
  | .list _ => "list_resources"
  | .mark .. => "update_resource"

def method : Request → String
  | .list _ => "GET"
  | .mark .. => "PUT"

def listQuery (resourceType : String) : String :=
  "limit=1&class=" ++ Percent.encodeForm resourceType ++ "&processing=false&unused=true"

/-- The URL of a request; none if the client's URL is not one. -/
def url? (client : Client) : Request → Option Url
  | .list resourceType =>
    (client.read? client.resourcesUrl).map (·.withQuery (listQuery resourceType))
  | .mark resourceId _ => client.read? (client.resourcesUrl ++ Percent.encode resourceId)

/-- The body of a request. -/
def body? : Request → Option Json
  | .list _ => none
  | .mark _ allocated => some (.ofFields [("resource", .ofFields [("allocated", .bool allocated)])])

end Request

/-- The body of a reply, with whether the thing asked for is there at all. A blank body says
nothing. Of a body that is not JSON the error has one text behind the operation's name, in place of
the reader's own account of what is wrong with it. -/
def readReply (client : Client) (request : Request) : Reply → Except Error (Bool × Json)
  | .lost => .error (.http "error sending request")
  | .silence => .error (.timeout request.operation client.timeout)
  | .answer status body =>
    if status = 404 then .ok (false, .object [])
    else if !(200 ≤ status && status < 300) then .error (.remoteService status body)
    else if blankText body then .ok (true, .object [])
    else
      match Json.read? body with
      | some value => .ok (true, value)
      | none => .error (.malformedResponse (request.operation ++ ": body is not JSON"))

/-- Send a request, if its URL is one. -/
def send (client : Client) (request : Request) : Exchange (Bool × Json) := do
  match request.url? client with
  | none => throw (.http "builder error: relative URL without a base")
  | some _ =>
    let reply ← ExceptT.lift (Dialogue.request request)
    match readReply client request reply with
    | .ok result => return result
    | .error e => throw e

/-- An id may be a text or a number. -/
def idOf : Json → Option String
  | .string text => some text
  | .number value => some (String.ofList value.chars)
  | _ => none

/-- The free candidates of a type. -/
def listCandidates (client : Client) (resourceType : String) : Exchange (List Json) := do
  let (_, body) ← send client (.list resourceType)
  match body.field? "resources" with
  | some (.array resources) => return resources
  | some .null | none => throw (.malformedResponse "list response has no 'resources' field")
  | some other => throw (.malformedResponse ("'resources' is not a list: " ++ other.text))

/-- Set the mark of a resource; none if the service does not describe the resource in turn. -/
def mark (client : Client) (resourceId : String) (allocated : Bool) :
    Exchange (Option (List (String × Json))) := do
  let (found, body) ← send client (.mark resourceId allocated)
  if !found then return none
  match body.field? "resource" with
  | some (.object []) => return none
  | some (.object entries) => return some entries
  | _ => return none

/-- The resource that the service describes. The fields that say what it is do not count as its
metadata. -/
def resourceOf (entries : List (String × Json)) (fallbackId resourceType : String) :
    Except Error Resource := do
  let id := ((entries.lookup "id").bind idOf).getD fallbackId
  let allocated ←
    match entries.lookup "allocated" with
    | some (.bool allocated) => .ok allocated
    | some other => .error (.malformedResponse ("'allocated' is not a boolean: " ++ other.text))
    | none => .ok true
  let descriptor ←
    match entries.lookup "type" with
    | some (.string descriptor) => .ok descriptor
    | _ => .error (.malformedResponse ("resource " ++ id ++ " has no 'type'"))
  let metadata := (Dict.ofList entries).restrict fun key =>
    key != "id" && key != "allocated" && key != "type"
  return ⟨id, resourceType, allocated, descriptor, metadata⟩

/-- Give a claim up; it does not matter how that goes. -/
def giveUp (client : Client) (resourceId : String) : Exchange Unit :=
  ExceptT.mk ((ExceptT.run (mark client resourceId false)).bind fun _ => .done (.ok ()))

/-- Claim the first free resource of a type. -/
def acquire (client : Client) (resourceType : String) : Exchange Resource := do
  match ← listCandidates client resourceType with
  | [] => throw (.noMoreResources resourceType)
  | candidate :: _ =>
    match (candidate.field? "id").bind idOf with
    | none => throw (.malformedResponse "candidate resource has no 'id'")
    | some id =>
      match ← mark client id true with
      | none => throw (.wrongResourceId id)
      | some entries =>
        match resourceOf entries id resourceType with
        | .ok resource => return resource
        | .error e => do
          giveUp client id
          throw e

/-- Free a resource. -/
def release (client : Client) (resourceId : String) : Exchange Unit := do
  match ← mark client resourceId false with
  | some _ => return
  | none => throw (.wrongResourceId resourceId)

end Brokerage.Remote
