import Brokerage.Json.Decode
import Brokerage.Yaml.Node

/-! # Values of YAML nodes

Plain scalars stand for `null`, booleans, integers and doubles where they are spelled like one,
and for their text otherwise. A reader that knows which kind it wants takes the text of a scalar
for what it is, so `5` is a text where a text is wanted.
-/

namespace Brokerage.Yaml

/-! ## Plain scalars -/

def isNullText (text : String) : Bool := ["", "null", "Null", "NULL", "~"].contains text

def boolOf? (text : String) : Option Bool :=
  if ["true", "True", "TRUE"].contains text then some true
  else if ["false", "False", "FALSE"].contains text then some false
  else none

/-- A number in some base, at least one digit. -/
def digitsOf? (base : Nat) (digits : List Char) : Option Nat := do
  if digits = [] then none
  let values ← digits.mapM hexValue?
  if values.all (· < base) then return values.foldl (fun n d => base * n + d) 0 else none

/-- Whether a text has a zero in front of digits, which makes it no number. -/
def hasLeadingZero (text : List Char) : Bool :=
  let digits :=
    match text with
    | '-' :: rest | '+' :: rest => rest
    | rest => rest
  1 < digits.length && digits.head? = some '0' && digits.all fun c => (digitValue? c).isSome

/-- The natural number that a text without a sign spells, in base 16, 8, 2 or 10. -/
def unsignedOf? : List Char → Option Nat
  | '0' :: 'x' :: rest => digitsOf? 16 rest
  | '0' :: 'o' :: rest => digitsOf? 8 rest
  | '0' :: 'b' :: rest => digitsOf? 2 rest
  | rest => if hasLeadingZero rest then none else digitsOf? 10 rest

/-- The natural number below a bound that a text spells; a plus sign may precede it. -/
def natOf? (bound : Nat) (text : String) : Option Nat := do
  let n ←
    match text.toList with
    | '+' :: rest => unsignedOf? rest
    | rest => unsignedOf? rest
  if n < bound then return n else none

/-- The integer that a text spells. -/
def intOf? (text : String) : Option Int :=
  match text.toList with
  | '-' :: rest => (unsignedOf? rest).map fun n => -(n : Int)
  | _ => (natOf? (2 ^ 128) text).map Int.ofNat

/-- The exact double of decimal digits with a point and an exponent. -/
def floatOf? (text : String) : Option Binary64 := do
  let (negative, text) :=
    match text.toList with
    | '-' :: rest => (true, rest)
    | '+' :: rest => (false, rest)
    | rest => (false, rest)
  let (whole, rest) := leadingDigits text
  let (fraction, rest) :=
    match rest with
    | '.' :: rest => leadingDigits rest
    | rest => ([], rest)
  if whole = [] && fraction = [] then none
  let exponent : Int ←
    match rest with
    | [] => some 0
    | 'e' :: rest | 'E' :: rest =>
      match Draft.scanExponent rest with
      | some ((negative, digits), []) =>
        let size := min (ofDigits digits) 100000
        some (if negative then -(size : Int) else size)
      | _ => none
    | _ => none
  let digits := ofDigits (whole ++ fraction)
  let scale := exponent - fraction.length
  if scale < 0 then Binary64.ofRatio? negative digits (10 ^ (-scale).toNat)
  else if digits = 0 then return .zero negative
  else if 400 < scale then none
  else Binary64.ofRatio? negative (digits * 10 ^ scale.toNat) 1

/-- Whether a text spells an infinite number or none at all. -/
def isUnboundedFloat (text : String) : Bool :=
  [".inf", ".Inf", ".INF", "+.inf", "+.Inf", "+.INF", "-.inf", "-.Inf", "-.INF", ".nan", ".NaN",
    ".NAN"].contains text

/-- What a plain scalar stands for. A double that JSON does not have becomes `null`. -/
def plainDraft (text : String) : Draft :=
  if isNullText text then .null
  else
    match boolOf? text with
    | some value => .bool value
    | none =>
      match intOf? text with
      | some n =>
        if -2 ^ 63 ≤ n && n < 2 ^ 64 then .number (some (.integer n)) else .number none
      | none =>
        if hasLeadingZero text.toList then .string (some text)
        else if isUnboundedFloat text then .null
        else
          match floatOf? text with
          | some value => .number (some (.float value))
          | none => .string (some text)

/-- The name of a standard type. -/
def standardTag (name : String) : String := "tag:yaml.org,2002:" ++ name

/-- What a scalar stands for. A tag of a standard type fixes the type. -/
def scalarDraft (text : String) (style : Style) (tag : Option String) : Draft :=
  match tag with
  | none => if style = .plain then plainDraft text else .string (some text)
  | some tag =>
    let only (accepts : Draft → Bool) : Draft :=
      if accepts (plainDraft text) then plainDraft text else .broken
    if tag = standardTag "bool" then only fun | .bool _ => true | _ => false
    else if tag = standardTag "int" then only fun | .number (some (.integer _)) => true | _ => false
    else if tag = standardTag "float" then
      match floatOf? text with
      | some value => .number (some (.float value))
      | none => .broken
    else if tag = standardTag "null" then only fun | .null => true | _ => false
    else if tag.startsWith "!" && tag != "!" then .broken
    else .string (some text)

namespace Node

/-- Whether a collection has a tag that is not one of the standard ones. -/
def isForeign (tag : Option String) : Bool := tag.any fun tag => tag.startsWith "!" && tag != "!"

mutual

/-- The value of a node whatever its kind. -/
def toDraft : Node → Draft
  | .void => .null
  | .scalar text style tag => scalarDraft text style tag
  | .sequence items tag => if isForeign tag then .broken else .array (toDrafts items) true
  | .mapping entries tag => if isForeign tag then .broken else .object (toEntries entries) true

def toDrafts : List Node → List Draft
  | [] => []
  | item :: rest => toDraft item :: toDrafts rest

def toEntries : List (Node × Node) → List (Option String × Draft)
  | [] => []
  | (key, value) :: rest =>
    let name :=
      match toDraft key with
      | .string text => text
      | _ => none
    (name, toDraft value) :: toEntries rest

end

/-! ## Wanted kinds -/

/-- A text: any scalar as it was written. -/
def asText : Node → Option String
  | .scalar text .. => some text
  | _ => none

/-- A natural number below a bound: a plain scalar that spells it. -/
def asNat (bound : Nat) : Node → Option Nat
  | .scalar text style tag =>
    if style = .plain || tag = some (standardTag "int") then natOf? bound text else none
  | _ => none

/-- The entries of a mapping; nothing written is an empty one. Keys are texts. -/
def entries? : Node → Option (List (String × Node))
  | .mapping entries _ => entries.mapM fun (key, value) => do return (← asText key, value)
  | .void => some []
  | .scalar "" .plain _ => some []
  | _ => none

/-- The known fields of a record. A known field must not repeat; the others are skipped. -/
def fields? (names : List String) (node : Node) : Option (List (String × Node)) := do
  let entries := (← node.entries?).filter fun e => names.contains e.1
  if names.all fun name => (entries.filter (·.1 = name)).length ≤ 1 then return entries else none

/-- A dictionary; the last entry of a key counts. -/
def asDict {α : Type} (item : Node → Option α) (node : Node) : Option (Dict α) := do
  let entries ← node.entries?
  return .ofList (← entries.mapM fun (key, value) => do return (key, ← item value))

/-- A field with a default for when it is missing. -/
def withDefault {α : Type} (fields : List (String × Node)) (name : String)
    (item : Node → Option α) (fallback : α) : Option α :=
  match fields.lookup name with
  | some node => item node
  | none => some fallback

end Node
end Brokerage.Yaml
