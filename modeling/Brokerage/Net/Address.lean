import Brokerage.Json.Draft
import Brokerage.Json.Printer

/-! # Socket addresses

An address of version 4 or 6 and a port, read and written in the usual notations. A port may have
zeros in front, a number of a version 4 address may not.
-/

namespace Brokerage.Net

inductive Ip where
  | v4 (octets : List Nat)
  | v6 (groups : List Nat) (scope : Nat)
  deriving DecidableEq, Repr, Inhabited

structure Address where
  ip : Ip
  port : Nat
  deriving DecidableEq, Repr, Inhabited

/-! ## Reading -/

/-- A decimal number below a bound, zeros in front allowed. -/
def scanDecimal (bound : Nat) (input : List Char) : Option (Nat × List Char) :=
  match leadingDigits input with
  | ([], _) => none
  | (digits, rest) => if ofDigits digits < bound then some (ofDigits digits, rest) else none

/-- A number of a version 4 address: no zeros in front. -/
def scanOctet (input : List Char) : Option (Nat × List Char) :=
  match leadingDigits input with
  | ([], _) => none
  | (digits, rest) =>
    if digits.length ≤ 3 && ofDigits digits < 256 && (digits.length = 1 || digits.head? != some 0)
    then some (ofDigits digits, rest)
    else none

/-- A given character. -/
def scanChar (c : Char) : List Char → Option (List Char)
  | d :: rest => if d = c then some rest else none
  | [] => none

/-- Four numbers with points between them. -/
def scanV4 (input : List Char) : Option (List Nat × List Char) := do
  let (a, rest) ← scanOctet input
  let (b, rest) ← scanOctet (← scanChar '.' rest)
  let (c, rest) ← scanOctet (← scanChar '.' rest)
  let (d, rest) ← scanOctet (← scanChar '.' rest)
  return ([a, b, c, d], rest)

/-- One to four hexadecimal digits. -/
def scanGroup (input : List Char) : Option (Nat × List Char) :=
  let digits := input.takeWhile fun c => (hexValue? c).isSome
  if digits = [] || 4 < digits.length then none
  else some ((digits.filterMap hexValue?).foldl (fun n d => 16 * n + d) 0, input.drop digits.length)

/-- The text after the colon between two groups. -/
def afterColon (first : Bool) (input : List Char) : Option (List Char) :=
  if first then some input else scanChar ':' input

/-- At most so many groups with colons between them, the last two of which may be written as a
version 4 address; whether they were is told with them. -/
def scanGroups : Nat → Bool → List Char → List Nat × Bool × List Char
  | 0, _, input => ([], false, input)
  | limit + 1, first, input =>
    let embedded := if 0 < limit then (afterColon first input).bind scanV4 else none
    match embedded with
    | some ([a, b, c, d], rest) => ([256 * a + b, 256 * c + d], true, rest)
    | _ =>
      match (afterColon first input).bind scanGroup with
      | some (group, rest) =>
        let (more, v4, rest) := scanGroups limit false rest
        (group :: more, v4, rest)
      | none => ([], false, input)

/-- Eight groups, or fewer with two colons in place of those that are zero. -/
def scanV6 (input : List Char) : Option (List Nat × List Char) :=
  match scanGroups 8 true input with
  | (head, v4, rest) =>
    if head.length = 8 then some (head, rest)
    else if v4 then none
    else do
      let rest ← scanChar ':' (← scanChar ':' rest)
      let (tail, _, rest) := scanGroups (7 - head.length) true rest
      return (head ++ List.replicate (8 - head.length - tail.length) 0 ++ tail, rest)

/-- Read an address with its port. -/
def Address.ofText? (text : String) : Option Address := do
  let (ip, rest) ←
    match text.toList with
    | '[' :: rest => do
      let (groups, rest) ← scanV6 rest
      let (scope, rest) ←
        match rest with
        | '%' :: rest => scanDecimal (2 ^ 32) rest
        | rest => some (0, rest)
      some (Ip.v6 groups scope, ← scanChar ']' rest)
    | rest => do
      let (octets, rest) ← scanV4 rest
      some (Ip.v4 octets, rest)
  match ← scanDecimal (2 ^ 16) (← scanChar ':' rest) with
  | (port, []) => return ⟨ip, port⟩
  | _ => none

/-! ## Writing -/

def separated (mark : String) (parts : List String) : String := mark.intercalate parts

def v4Text (octets : List Nat) : String :=
  separated "." (octets.map fun n => String.ofList (decimalDigits n))

def groupText (n : Nat) : String := String.ofList (Nat.toDigits 16 n)

def leadingZeros (groups : List Nat) : Nat := (groups.takeWhile (· = 0)).length

/-- Where the longest run of zeros is and how long it is; of several the first. -/
def longestZeros : Nat → List Nat → Nat × Nat
  | _, [] => (0, 0)
  | position, group :: rest =>
    let here := leadingZeros (group :: rest)
    let (later, length) := longestZeros (position + 1) rest
    if length ≤ here then (position, here) else (later, length)

def v6Text (groups : List Nat) : String :=
  match groups with
  | [0, 0, 0, 0, 0, 0xFFFF, high, low] =>
    "::ffff:" ++ v4Text [high / 256, high % 256, low / 256, low % 256]
  | groups =>
    let (start, length) := longestZeros 0 groups
    let parts (groups : List Nat) := separated ":" (groups.map groupText)
    if 1 < length then parts (groups.take start) ++ "::" ++ parts (groups.drop (start + length))
    else parts groups

def Address.text (a : Address) : String :=
  let port := ":" ++ String.ofList (decimalDigits a.port)
  match a.ip with
  | .v4 octets => v4Text octets ++ port
  | .v6 groups 0 => "[" ++ v6Text groups ++ "]" ++ port
  | .v6 groups scope =>
    "[" ++ v6Text groups ++ "%" ++ String.ofList (decimalDigits scope) ++ "]" ++ port

end Brokerage.Net
