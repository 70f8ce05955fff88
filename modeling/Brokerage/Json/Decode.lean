import Brokerage.Json.Draft

/-! # Decoding drafts

A decoder turns a draft into a value of a type, or names the flaw that stops it. Flaws are found
in the order of the text. At most 127 containers may stand inside one another; a container that is
skipped unread does not count.
-/

namespace Brokerage

/-- Why a text does not decode: it is not JSON, or it is JSON of another shape. -/
inductive Flaw where
  | malformed
  | mismatch
  deriving DecidableEq, Repr, Inhabited

/-- A decoder knows how many containers may still open. -/
abbrev Decoder (α : Type) := Nat → Draft → Except Flaw α

namespace Draft

/-- How many containers may stand inside one another. -/
def depthLimit : Nat := 127

/-- The flaw of a draft that is not of the wanted kind; a scalar is read before it is refused. -/
def refusal : Draft → Flaw
  | .broken | .number none | .string none => .malformed
  | _ => .mismatch

/-- Open a container. -/
def enter (room : Nat) : Except Flaw Nat :=
  match room with
  | 0 => .error .malformed
  | room + 1 => .ok room

def ended (closed : Bool) : Except Flaw Unit := if closed then .ok () else .error .malformed

def asBool : Decoder Bool := fun _ d =>
  match d with
  | .bool value => .ok value
  | d => .error d.refusal

def asText : Decoder String := fun _ d =>
  match d with
  | .string (some text) => .ok text
  | d => .error d.refusal

/-- An integer within bounds; a double is no integer. -/
def asInt (low high : Int) : Decoder Int := fun _ d =>
  match d with
  | .number (some (.integer value)) =>
    if low ≤ value && value ≤ high then .ok value else .error .mismatch
  | d => .error d.refusal

def asNat (bound : Nat) : Decoder Nat := fun room d =>
  (asInt 0 (bound - 1) room d).map Int.toNat

/-- `null` or a value. -/
def asOption {α : Type} (item : Decoder α) : Decoder (Option α) := fun room d =>
  match d with
  | .null => .ok none
  | d => (item room d).map some

/-- The items of an array in order, to the first flaw. -/
def decodeItems {α : Type} (item : Draft → Except Flaw α) : List Draft → Except Flaw (List α)
  | [] => .ok []
  | d :: rest => do return (← item d) :: (← decodeItems item rest)

def asList {α : Type} (item : Decoder α) : Decoder (List α) := fun room d =>
  match d with
  | .array items closed => do
    let room ← enter room
    let values ← decodeItems (item room) items
    ended closed
    return values
  | d => .error d.refusal

/-- The key of an entry. -/
def readKey : Option String → Except Flaw String
  | some key => .ok key
  | none => .error .malformed

/-- Enter the entries into a dictionary, the last one of a key counting. -/
def decodeEntries {α : Type} (item : Draft → Except Flaw α) :
    Dict α → List (Option String × Draft) → Except Flaw (Dict α)
  | known, [] => .ok known
  | known, (key, d) :: rest => do
    let key ← readKey key
    decodeEntries item (known.insert key (← item d)) rest

def asDict {α : Type} (item : Decoder α) : Decoder (Dict α) := fun room d =>
  match d with
  | .object entries closed => do
    let room ← enter room
    let known ← decodeEntries (item room) ∅ entries
    ended closed
    return known
  | d => .error d.refusal

mutual

/-- Any value. -/
def asJson (room : Nat) : Draft → Except Flaw Json
  | .null => .ok .null
  | .bool value => .ok (.bool value)
  | .number (some value) => .ok (.number value)
  | .string (some text) => .ok (.string text)
  | .array items closed => do
    let room ← enter room
    let items ← asJsonItems room items
    ended closed
    return .array items
  | .object entries closed => do
    let room ← enter room
    let known ← asJsonEntries room ∅ entries
    ended closed
    return .object known.entries
  | .broken | .number none | .string none => .error .malformed

def asJsonItems (room : Nat) : List Draft → Except Flaw (List Json)
  | [] => .ok []
  | d :: rest => do return (← asJson room d) :: (← asJsonItems room rest)

/-- The last entry of a key counts. -/
def asJsonEntries (room : Nat) (known : Dict Json) :
    List (Option String × Draft) → Except Flaw (Dict Json)
  | [] => .ok known
  | (key, d) :: rest => do
    let key ← readKey key
    asJsonEntries room (known.insert key (← asJson room d)) rest

end

def asMetadata : Decoder Metadata := asDict asJson

/-! ## Records -/

/-- The fields of a record that a draft gives: by name from an object, by place from an array. -/
structure Record where
  fields : List (String × Draft)
  byName : Bool
  room : Nat

/-- The entries of known fields; a known field must not repeat, and the others are skipped. -/
def knownEntries (names : List String) :
    List (String × Draft) → List (Option String × Draft) → Except Flaw (List (String × Draft))
  | found, [] => .ok found
  | found, (key, d) :: rest => do
    let key ← readKey key
    if names.contains key then
      if (found.lookup key).isSome then .error .mismatch
      else knownEntries names (found ++ [(key, d)]) rest
    else knownEntries names found rest

/-- Read a draft as a record with these fields in this order. -/
def asRecord (names : List String) : Decoder Record := fun room d =>
  match d with
  | .object entries closed => do
    let room ← enter room
    let fields ← knownEntries names [] entries
    ended closed
    return ⟨fields, true, room⟩
  | .array items closed => do
    let room ← enter room
    ended closed
    if items.length ≤ names.length then return ⟨names.zip items, false, room⟩
    else .error .mismatch
  | d => .error d.refusal

namespace Record

variable {α : Type}

/-- A field that must be there. -/
def required (r : Record) (name : String) (item : Decoder α) : Except Flaw α :=
  match r.fields.lookup name with
  | some d => item r.room d
  | none => .error .mismatch

/-- A field with a default for when it is missing. -/
def withDefault (r : Record) (name : String) (item : Decoder α) (fallback : α) : Except Flaw α :=
  match r.fields.lookup name with
  | some d => item r.room d
  | none => .ok fallback

/-- A field that may be `null`; an object may leave it out, an array may not. -/
def nullable (r : Record) (name : String) (item : Decoder α) : Except Flaw (Option α) :=
  match r.fields.lookup name with
  | some d => asOption item r.room d
  | none => if r.byName then .ok none else .error .mismatch

end Record

/-! ## Whole texts -/

/-- Decode the value at the front of a text, whatever follows it. -/
def decodeFront {α : Type} (item : Decoder α) (text : String) : Except Flaw α :=
  item depthLimit (front text).1

/-- Decode a text that holds one value and nothing else. -/
def decodeText {α : Type} (item : Decoder α) (text : String) : Except Flaw α := do
  let (d, rest) := front text
  let value ← item depthLimit d
  match rest with
  | some rest => if skipBlanks rest = [] then return value else .error .malformed
  | none => .error .malformed

def decode {α : Type} (item : Decoder α) (v : Json) : Except Flaw α := item depthLimit (ofJson v)

end Draft

/-- Read a text that holds one value and nothing else. -/
def Json.read? (text : String) : Option Json := (Draft.decodeText Draft.asJson text).toOption

end Brokerage
