import Brokerage.Dispatch
import Brokerage.Http.MediaType
import Brokerage.Http.Message
import Brokerage.Http.Target

/-! # The web interface

Which request does what. A request is checked in a fixed order before anything happens: its path,
its method, the text of its path parameter, the type of its body, the body itself, its query.
-/

namespace Brokerage.Http

/-- What the paths name. -/
inductive Route where
  | routers
  | routerCount
  | router (id : List Char)
  | attach (id : List Char)
  | detach (id : List Char)
  | passthrough (operation : List Char)
  | health
  | ready
  | metrics
  deriving DecidableEq, Repr, Inhabited

namespace Route

/-- The route of a path; parameters are not empty. -/
def ofSegments? (segments : List (List Char)) : Option Route :=
  match segments.map String.ofList, segments with
  | ["v1", "routers"], _ => some .routers
  | ["v1", "routers", "count"], _ => some .routerCount
  | ["v1", "routers", _], [_, _, id] => if id = [] then none else some (.router id)
  | ["v1", "routers", _, "add_router_interface"], [_, _, id, _] =>
    if id = [] then none else some (.attach id)
  | ["v1", "routers", _, "remove_router_interface"], [_, _, id, _] =>
    if id = [] then none else some (.detach id)
  | ["v1", "passthrough", _], [_, _, operation] =>
    if operation = [] then none else some (.passthrough operation)
  | ["health"], _ => some .health
  | ["ready"], _ => some .ready
  | ["metrics"], _ => some .metrics
  | _, _ => none

/-- The parameter in the path. -/
def parameter? : Route → Option (List Char)
  | .router id | .attach id | .detach id => some id
  | .passthrough operation => some operation
  | _ => none

end Route

/-- What a request asks for, and everything it brings along. -/
inductive Command where
  | create (request : Router.Request)
  | list (query : List (String × String))
  | count (query : List (String × String))
  | get (id : String) (query : List (String × String))
  | update (id : String) (request : Router.Request)
  | delete (id : String)
  | addInterface (id : String) (info : Json)
  | removeInterface (id : String) (info : Json)
  | passthrough (operation : String) (args : Json)
  | health
  | ready
  | metrics

namespace Command

/-- Decode the body of a request, which has to be declared as JSON. -/
def readBody {α : Type} (r : Request) (item : Decoder α) : Except Response α :=
  if ((r.header? "content-type").bind MediaType.ofText?).any (·.isJson) then
    match Draft.decodeFront item r.body with
    | .ok value => .ok value
    | .error .malformed => .error (.text 400 "Failed to parse the request body as JSON")
    | .error .mismatch =>
      .error (.text 422 "Failed to deserialize the JSON body into the target type")
  else .error (.text 415 "Expected request with a JSON content type")

/-- The command of a method on a route. -/
def ofRoute (r : Request) (target : Target) (route : Route) (method : String) :
    Except Response Command := do
  let parameter ←
    match route.parameter?.map Percent.decode? with
    | some none => .error (Response.text 400 "Invalid UTF-8 in a path parameter")
    | some (some text) => .ok text
    | none => .ok ""
  match route, method with
  | .routers, "POST" => return .create (← readBody r Router.Request.decoder)
  | .routers, "GET" => return .list target.pairs
  | .routerCount, "GET" => return .count target.pairs
  | .router _, "GET" => return .get parameter target.pairs
  | .router _, "PUT" => return .update parameter (← readBody r Router.Request.decoder)
  | .router _, "DELETE" => return .delete parameter
  | .attach _, "PUT" => return .addInterface parameter (← readBody r Draft.asJson)
  | .detach _, "PUT" => return .removeInterface parameter (← readBody r Draft.asJson)
  | .passthrough _, "POST" => return .passthrough parameter (← readBody r Draft.asJson)
  | .health, "GET" => return .health
  | .ready, "GET" => return .ready
  | .metrics, "GET" => return .metrics
  | _, _ => throw (.bare 405)

/-- The methods that a route knows. -/
def methods : Route → List String
  | .routers => ["POST", "GET"]
  | .routerCount => ["GET"]
  | .router _ => ["GET", "PUT", "DELETE"]
  | .attach _ | .detach _ => ["PUT"]
  | .passthrough _ => ["POST"]
  | .health | .ready | .metrics => ["GET"]

/-- The command of a request, or the answer that refuses it. A request for the head alone asks for
what a request for the whole would. -/
def ofRequest (r : Request) (target : Target) : Except Response Command := do
  let route ←
    match Route.ofSegments? target.segments with
    | some route => .ok route
    | none => .error (Response.bare 404)
  let method := if r.method = "HEAD" then "GET" else r.method
  if !(methods route).contains method then throw (.bare 405)
  ofRoute r target route method

/-- Whether a command goes on when nobody waits for its answer any more. -/
def isDetached : Command → Bool
  | .create _ | .delete _ => true
  | _ => false

end Command

namespace Api

def requestIdHeader : String := "x-request-id"

def tenantIdHeader : String := "x-tenant-id"

/-- On whose behalf a request is made; without an id it gets a new one. -/
def contextOf (r : Request) (newId : String) : Context where
  requestId := (r.plainHeader? requestIdHeader).getD ("req-" ++ newId)
  tenantId := r.plainHeader? tenantIdHeader
  isAdmin := false

/-- The answer to a procedure: what its result is shown as, or its error. A panic passes. -/
def answerTo {α : Type} (p : Procedure α) (answer : α → Response) : Procedure Response := do
  match ← p.outcome with
  | .ok value => return answer value
  | .error (.error e) => return .ofError e
  | .error (.panic message) => .panic message

/-- A procedure that runs by itself: its panic is an error of whoever waits for it. -/
def byItself {α : Type} (p : Procedure α) : Procedure α := do
  match ← p.outcome with
  | .ok value => return value
  | .error (.error e) => .fail e
  | .error (.panic message) =>
    .fail (.internal ("router task failed: task panicked with message " ++ message))

/-- Go on with a query, or refuse its pairs. -/
def withQuery (pairs : List (String × String)) (next : Listing.Query → Procedure Response) :
    Procedure Response :=
  match Listing.Query.ofPairs pairs with
  | .ok query => next query
  | .error refusal => return .problem 400 "invalid_query" refusal.message

/-- Carry out a command. -/
def carryOut (registry : Registry) (ctx : Context) : Command → Procedure Response
  | .create request =>
    answerTo (byItself (Dispatch.create registry ctx request)) fun router =>
      .json 201 router.toJson
  | .list pairs =>
    withQuery pairs fun query =>
      answerTo (Dispatch.list registry ctx query) fun routers =>
        .json 200 (.array (routers.map (·.toJson)))
  | .count pairs =>
    withQuery pairs fun query =>
      answerTo (Dispatch.count registry ctx query.filters) fun count =>
        .json 200 (CountReport.toJson ⟨count⟩)
  | .get id pairs =>
    withQuery pairs fun query =>
      answerTo (Dispatch.get registry ctx id query.fields) fun router => .json 200 router.toJson
  | .update id request =>
    answerTo (Dispatch.update registry ctx id request) fun router => .json 200 router.toJson
  | .delete id =>
    answerTo (byItself (Dispatch.delete registry ctx id)) fun () => .bare 204
  | .addInterface id info =>
    answerTo (Dispatch.addInterface registry ctx id info) (.json 200)
  | .removeInterface id info =>
    answerTo (Dispatch.removeInterface registry ctx id info) (.json 200)
  | .passthrough operation args =>
    answerTo (Dispatch.passthrough registry ctx operation args) (.json 200)
  | .health => return .text 200 "ok"
  | .ready => do
    match ← Procedure.checkStore.outcome with
    | .ok () => return .text 200 "ready"
    | .error (.error _) => return .text 503 "binding store unavailable"
    | .error (.panic message) => .panic message
  | .metrics => do
    let counters ← Procedure.readCounters
    return ⟨200, some Counters.contentType, .text counters.text⟩

/-- A procedure that answers a request, and whether it goes on unattended. -/
structure Handler where
  detached : Bool
  procedure : Procedure Response

/-- The handler of a request. -/
def handle (registry : Registry) (newId : String) (r : Request) (target : Target) : Handler :=
  let trim (response : Response) := if r.method = "HEAD" then response.withoutBody else response
  match Command.ofRequest r target with
  | .error response => ⟨false, return trim response⟩
  | .ok command =>
    ⟨command.isDetached, trim <$> carryOut registry (contextOf r newId) command⟩

end Api
end Brokerage.Http
