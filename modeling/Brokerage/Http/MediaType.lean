/-! # Media types

What a `content-type` header says, as far as it tells whether a body is JSON.
-/

namespace Brokerage.Http

structure MediaType where
  type : String
  subtype : String
  /-- What follows the last plus sign of the subtype. -/
  suffix : Option String
  deriving DecidableEq, Repr, Inhabited

namespace MediaType

def isToken (c : Char) : Bool :=
  c.isAlphanum || "!#$%&'+-.^_`|~".toList.contains c

def isQuotable (c : Char) : Bool := 0x1F < c.toNat && c.toNat != 0x7F

/-- The rest after a quoted value, which holds at least one character. -/
def dropQuoted : List Char → Option (List Char)
  | '\\' :: c :: rest => if isQuotable c then dropQuoted rest else none
  | '"' :: rest => some rest
  | c :: rest => if isQuotable c then dropQuoted rest else none
  | [] => none

/-- Whether a text is a list of parameters, each a name and a value. -/
def areParameters : Nat → List Char → Bool
  | 0, text => text = []
  | _, [] => true
  | fuel + 1, ' ' :: rest => areParameters fuel rest
  | fuel + 1, text =>
    let name := text.takeWhile isToken
    match name, text.drop name.length with
    | _ :: _, '=' :: '"' :: c :: rest =>
      match (if isQuotable c && c != '\\' then dropQuoted rest else dropQuoted (c :: rest)) with
      | none => false
      | some rest =>
        match rest.dropWhile (· = ' ') with
        | [] => true
        | ';' :: rest => areParameters fuel rest
        | _ => false
    | _ :: _, '=' :: rest =>
      let value := rest.takeWhile isToken
      match value, rest.drop value.length with
      | _, [] => true
      | _ :: _, ';' :: rest => areParameters fuel rest
      | _, _ => false
    | _, _ => false

/-- Split a subtype at its last plus sign, which must not be its first character. -/
def splitSuffix (subtype : List Char) : List Char × Option (List Char) :=
  let suffix := (subtype.reverse.takeWhile (· != '+')).reverse
  if suffix.length + 1 < subtype.length then
    (subtype.take (subtype.length - suffix.length - 1), some suffix)
  else (subtype, none)

/-- Read a media type; letters count without case. -/
def ofText? (text : String) : Option MediaType :=
  let text := text.toList
  let type := text.takeWhile isToken
  match type, text.drop type.length with
  | _ :: _, '/' :: rest =>
    let subtype := rest.takeWhile isToken
    let after := rest.drop subtype.length
    let (main, suffix) := splitSuffix subtype
    let lower (cs : List Char) := (String.ofList cs).map Char.toLower
    let result : MediaType := ⟨lower type, lower main, suffix.map lower⟩
    match subtype, after with
    | _, [] => some result
    | _ :: _, ';' :: parameters =>
      if areParameters parameters.length parameters then some result else none
    | _, _ => none
  | _, _ => none

def isJson (m : MediaType) : Bool :=
  m.type = "application" && (m.subtype = "json" || m.suffix = some "json")

end MediaType
end Brokerage.Http
