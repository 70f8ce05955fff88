import Brokerage.Text.Percent

/-! # URLs of web services

A URL as a client sends it: characters that a path cannot carry are percent-encoded, and the
segments `.` and `..` are resolved, also where their dots are written as `%2e`.
-/

namespace Brokerage.Remote

structure Url where
  scheme : String
  authority : String
  segments : List String
  query : Option String
  deriving DecidableEq, Repr, Inhabited

namespace Url

/-- Whether a segment stands for this place, in any spelling. -/
def isDot (segment : String) : Bool := segment = "." || segment.map Char.toLower = "%2e"

/-- Whether a segment stands for the place above, in any spelling. -/
def isDoubleDot (segment : String) : Bool :=
  let lower := segment.map Char.toLower
  lower = ".." || lower = ".%2e" || lower = "%2e." || lower = "%2e%2e"

/-- Resolve the dots of segments after those that were read already, newest first. A dot at the
end leaves an empty segment. -/
def resolve : List String → List String → List String
  | done, [] => done.reverse
  | done, [last] =>
    if isDoubleDot last then ("" :: done.drop 1).reverse
    else if isDot last then ("" :: done).reverse
    else (last :: done).reverse
  | done, segment :: rest =>
    if isDoubleDot segment then resolve (done.drop 1) rest
    else if isDot segment then resolve done rest
    else resolve (segment :: done) rest

/-- Whether a path carries a character as it is. -/
def isPathChar (c : Char) : Bool :=
  0x20 < c.toNat && c.toNat < 0x7F && !"\"#<>?`\x7b\x7d".toList.contains c

/-- Whether a query carries a character as it is. -/
def isQueryChar (c : Char) : Bool :=
  0x20 < c.toNat && c.toNat < 0x7F && !"\"#<>'".toList.contains c

/-- A reader of what stands between the scheme and the path of a URL: a host, perhaps with a user and
a port. It gives that as URLs keep it, or none if it names no host. -/
class Hosts where
  read? (scheme : String) (text : List Char) : Option String
  /-- Without a host there is no URL of a web service. -/
  read?_nil (scheme : String) : read? scheme [] = none

/-- Whether a text names a host and a port plainly: the host of letters, digits and `-_.~`, the port
a number of 16 bits. -/
def isPlainHost (text : List Char) : Bool :=
  let host := text.takeWhile (· != ':')
  let port := (text.dropWhile (· != ':')).drop 1
  host != [] && (host.all fun c => Percent.isUnreserved c) &&
    (port.all fun c => (digitValue? c).isSome) && ofDigits (port.filterMap digitValue?) < 65536

/-- Plain hosts, kept as they are written. Other hosts that URLs can have are not read: addresses in
brackets, and names with users, percent signs or letters of other scripts. Nor are four numbers looked
into, so that `256.256.256.256` is a host here. -/
instance Hosts.plain : Hosts where
  read? _ text := if isPlainHost text then some (String.ofList text) else none
  read?_nil _ := rfl

/-- Turn the slashes of a URL forward, as far as its query. -/
def forward : List Char → List Char
  | [] => []
  | c :: rest =>
    if c = '?' || c = '#' then c :: rest
    else (if c = '\\' then '/' else c) :: forward rest

/-- Read a URL of a web service. -/
def ofText? [Hosts] (text : String) : Option Url := do
  let text := text.toList.filter fun c => c != '\t' && c != '\n' && c != '\r'
  let text := (text.dropWhile (·.toNat ≤ 0x20)).reverse.dropWhile (·.toNat ≤ 0x20)
  let text := forward text.reverse
  let scheme := (String.ofList (text.takeWhile (· != ':'))).map Char.toLower
  if scheme != "http" && scheme != "https" then none
  let rest := ((text.dropWhile (· != ':')).drop 1).dropWhile (· = '/')
  let isEnd (c : Char) := c = '/' || c = '?' || c = '#'
  let authority ← Hosts.read? scheme (rest.takeWhile fun c => !isEnd c)
  let rest := (rest.dropWhile fun c => !isEnd c).takeWhile (· != '#')
  let path := rest.takeWhile (· != '?')
  let query := rest.dropWhile (· != '?')
  let encoded := (path.drop 1).splitOn '/'
  let segments := encoded.map fun s => String.ofList (Percent.encodeWith isPathChar s)
  return {
    scheme
    authority
    segments := resolve [] segments
    query :=
      match query with
      | [] => none
      | _ :: query => some (String.ofList (Percent.encodeWith isQueryChar query)) }

def path (u : Url) : String := String.join (u.segments.map fun s => "/" ++ s)

/-- Add a query behind the one that is there. -/
def withQuery (u : Url) (query : String) : Url :=
  match u.query with
  | some old => if old = "" then { u with query := some query }
    else { u with query := some (old ++ "&" ++ query) }
  | none => { u with query := some query }

/-- Path and query, as a request names them. -/
def target (u : Url) : String :=
  match u.query with
  | some query => u.path ++ "?" ++ query
  | none => u.path

end Url
end Brokerage.Remote
