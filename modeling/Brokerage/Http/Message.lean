import Brokerage.Error
import Brokerage.Json.Decode
import Brokerage.Json.Printer

/-! # HTTP messages

Requests as they arrive and responses as they leave.
-/

namespace Brokerage

/-- The status of the answer that reports an error. -/
def Error.status (e : Error) : Nat :=
  match e.kind with
  | .notFound => 404
  | .conflict => 409
  | .exhausted => 503
  | .connectivity =>
    match e with
    | .timeout .. => 504
    | _ => 502
  | .invalidRequest => 400
  | .internal => 500

namespace Http

structure Request where
  method : String
  /-- Path and query as they were sent. -/
  target : String
  headers : List (String × String)
  body : String
  deriving DecidableEq, Repr, Inhabited

inductive Body where
  | empty
  | text (content : String)
  | json (value : Json)
  deriving DecidableEq, Inhabited

structure Response where
  status : Nat
  contentType : Option String
  body : Body
  deriving DecidableEq, Inhabited

/-- The text that a body is sent as. -/
def Body.content : Body → String
  | .empty => ""
  | .text content => content
  | .json value => value.text

/-- The first value of a header; names are compared without case. -/
def Request.header? (r : Request) (name : String) : Option String :=
  (r.headers.find? fun h => h.1.map Char.toLower = name).map (·.2)

/-- The value of a header, unless it is empty or holds other characters than visible ASCII ones,
blanks and tabs. -/
def Request.plainHeader? (r : Request) (name : String) : Option String :=
  (r.header? name).filter fun value =>
    value != "" && value.toList.all fun c => c = '\t' || (0x20 ≤ c.toNat && c.toNat < 0x7F)

namespace Response

def jsonType : String := "application/json"

def textType : String := "text/plain; charset=utf-8"

def bare (status : Nat) : Response := ⟨status, none, .empty⟩

def text (status : Nat) (content : String) : Response := ⟨status, some textType, .text content⟩

def json (status : Nat) (value : Json) : Response := ⟨status, some jsonType, .json value⟩

def problem (status : Nat) (code message : String) : Response :=
  json status (.ofFields [("error", .string code), ("message", .string message)])

def ofError (e : Error) : Response := problem e.status e.code e.message

def withoutBody (r : Response) : Response := { r with body := .empty }

end Response

/-! ## Answers as other programs read them -/

/-- The number of routers. -/
structure CountReport where
  count : Nat
  deriving DecidableEq, Repr, Inhabited

namespace CountReport

def toJson (r : CountReport) : Json := .ofFields [("count", .ofNat r.count)]

def decoder : Decoder CountReport := fun room d => do
  let r ← Draft.asRecord ["count"] room d
  return ⟨← r.required "count" (Draft.asNat (2 ^ 64))⟩

end CountReport

/-- A problem as its object names it. -/
structure ProblemReport where
  error : String
  message : String
  details : Option String
  deriving DecidableEq, Repr, Inhabited

namespace ProblemReport

def toJson (r : ProblemReport) : Json :=
  .ofFields ([("error", .string r.error), ("message", .string r.message)] ++
    match r.details with
    | some details => [("details", .string details)]
    | none => [])

def decoder : Decoder ProblemReport := fun room d => do
  let r ← Draft.asRecord ["error", "message", "details"] room d
  return {
    error := ← r.required "error" Draft.asText
    message := ← r.required "message" Draft.asText
    details := ← r.nullable "details" Draft.asText }

end ProblemReport
end Http
end Brokerage
