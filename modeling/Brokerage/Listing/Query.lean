import Brokerage.Json.Decode
import Brokerage.Json.Printer

/-! # Listing queries

What a listing of routers is to hold: which routers, in which order, from where on, how many of
them and which of their fields. A query is read from the pairs of a query string.
-/

namespace Brokerage.Listing

/-- A sort key and its direction. -/
structure SortKey where
  key : String
  ascending : Bool
  deriving DecidableEq, Repr, Inhabited

structure Query where
  /-- The accepted texts of each attribute. -/
  filters : Dict (List String)
  fields : Option (List String)
  sorts : List SortKey
  limit : Option Nat
  /-- The id of the router that the listing continues after. -/
  marker : Option String
  pageReverse : Bool
  deriving DecidableEq

namespace SortKey

def toJson (s : SortKey) : Json :=
  .ofFields [("key", .string s.key), ("ascending", .bool s.ascending)]

def decoder : Decoder SortKey := fun room d => do
  let r ← Draft.asRecord ["key", "ascending"] room d
  return ⟨← r.required "key" Draft.asText, ← r.required "ascending" Draft.asBool⟩

end SortKey

namespace Query

def all : Query := ⟨∅, none, [], none, none, false⟩

instance : Inhabited Query := ⟨all⟩

def toJson (q : Query) : Json :=
  .ofFields [
    ("filters", .ofDict (q.filters.map .ofTexts)),
    ("fields", .ofOption .ofTexts q.fields),
    ("sorts", .array (q.sorts.map (·.toJson))),
    ("limit", .ofOption .ofNat q.limit),
    ("marker", .ofOption .string q.marker),
    ("page_reverse", .bool q.pageReverse)]

/-- How many routers a limit may allow. -/
def limitBound : Nat := 2 ^ 64

def decoder : Decoder Query := fun room d => do
  let r ← Draft.asRecord ["filters", "fields", "sorts", "limit", "marker", "page_reverse"] room d
  let texts := Draft.asList Draft.asText
  return {
    filters := ← r.withDefault "filters" (Draft.asDict texts) ∅
    fields := ← r.withDefault "fields" (Draft.asOption texts) none
    sorts := ← r.withDefault "sorts" (Draft.asList SortKey.decoder) []
    limit := ← r.withDefault "limit" (Draft.asOption (Draft.asNat limitBound)) none
    marker := ← r.withDefault "marker" (Draft.asOption Draft.asText) none
    pageReverse := ← r.withDefault "page_reverse" Draft.asBool false }

/-! ## Pairs -/

/-- What a query refuses. -/
inductive Refusal where
  | sortDir (value : String)
  | limit (value : String)
  | pageReverse (value : String)
  | unpairedSorts
  deriving DecidableEq, Repr, Inhabited

def Refusal.message : Refusal → String
  | .sortDir value => "invalid sort_dir: " ++ value
  | .limit value => "invalid limit: " ++ value
  | .pageReverse value => "invalid page_reverse: " ++ value
  | .unpairedSorts => "sort_key and sort_dir must be given in pairs"

def readDirection (value : String) : Except Refusal Bool :=
  if value = "asc" then .ok true
  else if value = "desc" then .ok false
  else .error (.sortDir value)

/-- A limit is a natural number of 64 bits, which a plus sign may precede. -/
def readLimit (value : String) : Except Refusal Nat :=
  let digits :=
    match value.toList with
    | '+' :: rest => rest
    | rest => rest
  let (numbers, rest) := leadingDigits digits
  if numbers = [] || rest != [] || limitBound ≤ ofDigits numbers then .error (.limit value)
  else .ok (ofDigits numbers)

def readReverse (value : String) : Except Refusal Bool :=
  if value = "true" then .ok true
  else if value = "false" then .ok false
  else .error (.pageReverse value)

/-- A query as far as its pairs were read, with the sort keys apart from their directions. -/
structure Partial where
  query : Query
  keys : List String
  directions : List Bool

/-- One more pair. A key of no other meaning is a filter. -/
def addPair (p : Partial) (key value : String) : Except Refusal Partial :=
  match key with
  | "fields" =>
    .ok { p with query.fields := some (p.query.fields.getD [] ++ [value]) }
  | "sort_key" => .ok { p with keys := p.keys ++ [value] }
  | "sort_dir" => do return { p with directions := p.directions ++ [← readDirection value] }
  | "limit" => do return { p with query.limit := some (← readLimit value) }
  | "marker" => .ok { p with query.marker := some value }
  | "page_reverse" => do return { p with query.pageReverse := ← readReverse value }
  | _ =>
    let known := (p.query.filters.get? key).getD []
    .ok { p with query.filters := p.query.filters.insert key (known ++ [value]) }

/-- Sort keys and their directions; without directions every key ascends. -/
def pairSorts (keys : List String) (directions : List Bool) : Except Refusal (List SortKey) :=
  if directions = [] then .ok (keys.map (⟨·, true⟩))
  else if directions.length = keys.length then .ok (List.zipWith SortKey.mk keys directions)
  else .error .unpairedSorts

/-- Read a query from pairs; the first pair that cannot be read refuses it. -/
def ofPairs (pairs : List (String × String)) : Except Refusal Query := do
  let p ← pairs.foldlM (fun p (key, value) => addPair p key value) ⟨all, [], []⟩
  return { p.query with sorts := ← pairSorts p.keys p.directions }

end Query
end Brokerage.Listing
