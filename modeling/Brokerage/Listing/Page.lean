import Brokerage.Listing.Query
import Brokerage.Router

/-! # Pages of a listing

Filter, sort, reverse, cut to a page, and keep the wanted fields.
-/

namespace Brokerage.Listing

/-- The text of an attribute: strings as they are, other values as JSON. -/
def attributeText : Json → String
  | .string text => text
  | value => value.text

/-- The text that a router has for a key. -/
def textOf (r : Router) (key : String) : Option String := (r.attribute? key).map attributeText

/-- Whether a router has an accepted text for every filter. -/
def accepts (filters : Dict (List String)) (r : Router) : Bool :=
  filters.entries.all fun (key, accepted) =>
    match textOf r key with
    | some text => accepted.contains text
    | none => false

/-- A missing text stands before every text that is there. -/
def compareText : Option String → Option String → Ordering
  | none, none => .eq
  | none, some _ => .lt
  | some _, none => .gt
  | some a, some b => compare a b

/-- Compare two routers by one key. -/
def compareBy (sort : SortKey) (a b : Router) : Ordering :=
  if sort.ascending then compareText (textOf a sort.key) (textOf b sort.key)
  else compareText (textOf b sort.key) (textOf a sort.key)

/-- Compare two routers by the first key that tells them apart. -/
def compareAll (sorts : List SortKey) (a b : Router) : Ordering :=
  match sorts with
  | [] => .eq
  | sort :: rest => (compareBy sort a b).then (compareAll rest a b)

/-- The accepted routers in the order of the query. -/
def select (q : Query) (routers : List Router) : List Router :=
  let sorted := (routers.filter (accepts q.filters)).mergeSort
    fun a b => (compareAll q.sorts a b).isLE
  if q.pageReverse then sorted.reverse else sorted

/-- What follows the marker; everything, if no router has it as its id. -/
def afterMarker (marker : Option String) (routers : List Router) : List Router :=
  match marker with
  | none => routers
  | some id =>
    match routers.findIdx? (·.id = id) with
    | some position => routers.drop (position + 1)
    | none => routers

/-- At most as many as the limit says. -/
def upToLimit (limit : Option Nat) (routers : List Router) : List Router :=
  match limit with
  | some limit => routers.take limit
  | none => routers

def page (q : Query) (routers : List Router) : List Router :=
  (upToLimit q.limit (afterMarker q.marker (select q routers))).map (·.project q.fields)

end Brokerage.Listing
