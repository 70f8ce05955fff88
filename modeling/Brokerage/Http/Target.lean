import Brokerage.Text.Percent

/-! # Request targets

The path and the query of a request, and the characters that may stand in them.
-/

namespace Brokerage.Http

structure Target where
  /-- The path as it was sent. -/
  path : List Char
  /-- The query as it was sent, empty if there is none. -/
  query : List Char
  deriving DecidableEq, Repr, Inhabited

namespace Target

/-- Whether a character may stand in a path. -/
def isPathChar (c : Char) : Bool :=
  let n := c.toNat
  n = 0x21 || n = 0x22 || 0x24 ≤ n && n ≤ 0x3B || n = 0x3D || 0x40 ≤ n && n ≤ 0x5F ||
    0x61 ≤ n

/-- Whether a character may stand in a query. -/
def isQueryChar (c : Char) : Bool :=
  let n := c.toNat
  n = 0x21 || 0x24 ≤ n && n ≤ 0x3B || n = 0x3D || 0x3F ≤ n

/-- Whether a character ends the authority of a URL. -/
def endsAuthority (c : Char) : Bool := c = '/' || c = '?' || c = '#'

/-- What follows the scheme and the authority of a whole URL, if a text begins with these. -/
def afterOrigin? (text : List Char) : Option (List Char) :=
  let scheme := text.takeWhile fun c => c.isAlphanum || c = '+' || c = '-' || c = '.'
  match text.drop scheme.length with
  | ':' :: '/' :: '/' :: rest =>
    if scheme = [] || rest.takeWhile (!endsAuthority ·) = [] then none
    else some (rest.dropWhile (!endsAuthority ·))
  | _ => none

/-- The path and what follows it. The path of a whole URL is at least a slash; a text without any
path names an authority. -/
def pathForm? (text : List Char) : Option (List Char) :=
  match text with
  | [] => none
  | '/' :: _ | ['*'] => some text
  | _ =>
    match afterOrigin? text with
    | some ('/' :: rest) => some ('/' :: rest)
    | some rest => some ('/' :: rest)
    | none => if text.any endsAuthority then none else some []

/-- Read a target. What follows a number sign does not belong to it. -/
def ofText? (text : String) : Option Target := do
  let form := (← pathForm? text.toList).takeWhile (· != '#')
  let path := form.takeWhile (· != '?')
  let query := (form.dropWhile (· != '?')).drop 1
  if path.all isPathChar && query.all isQueryChar then return ⟨path, query⟩ else none

/-- The segments of the path; none if it does not begin with a slash. -/
def segments (t : Target) : List (List Char) :=
  match t.path with
  | '/' :: rest => rest.splitOn '/'
  | _ => []

def pairs (t : Target) : List (String × String) := Percent.formPairs t.query

end Target
end Brokerage.Http
