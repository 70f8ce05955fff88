import Brokerage.Json.Basic
import Brokerage.Number.Shortest

/-! # JSON text

Compact text: no blanks, objects in the order of their entries, every character of a string as it
is except quotes, backslashes and control characters. A double is written with the fewest digits
that read back as it.
-/

namespace Brokerage

def decimalDigits (n : Nat) : List Char := Nat.toDigits 10 n

/-- How a double is written: positionally while the point falls within or shortly before the
digits, else with an exponent and its sign. -/
def Decimal.chars (d : Decimal) : List Char :=
  let digits := decimalDigits d.digits
  let count : Int := digits.length
  let point := count + d.exponent
  if 0 ≤ d.exponent && point ≤ 16 then
    digits ++ List.replicate d.exponent.toNat '0' ++ ['.', '0']
  else if 0 < point && point ≤ 16 then
    digits.take point.toNat ++ '.' :: digits.drop point.toNat
  else if -5 < point && point ≤ 0 then
    ['0', '.'] ++ List.replicate (-point).toNat '0' ++ digits
  else
    let fraction := if count = 1 then [] else '.' :: digits.drop 1
    digits.take 1 ++ fraction ++ ['e'] ++
      [if point - 1 < 0 then '-' else '+'] ++ decimalDigits (point - 1).natAbs

def Number.chars : Number → List Char
  | .integer value => (if value < 0 then ['-'] else []) ++ decimalDigits value.natAbs
  | .float value => (if value.negative then ['-'] else []) ++ value.shortest.chars

namespace Json

/-- A character inside a string. -/
def escaped (c : Char) : List Char :=
  if c = '"' then ['\\', '"']
  else if c = '\\' then ['\\', '\\']
  else if c = '\x08' then ['\\', 'b']
  else if c = '\x0c' then ['\\', 'f']
  else if c = '\n' then ['\\', 'n']
  else if c = '\r' then ['\\', 'r']
  else if c = '\t' then ['\\', 't']
  else if c.toNat < 0x20 then
    ['\\', 'u', '0', '0', Nat.digitChar (c.toNat / 16), Nat.digitChar (c.toNat % 16)]
  else [c]

def quoted (text : String) : List Char :=
  '"' :: text.toList.flatMap escaped ++ ['"']

mutual

def chars : Json → List Char
  | .null => ['n', 'u', 'l', 'l']
  | .bool true => ['t', 'r', 'u', 'e']
  | .bool false => ['f', 'a', 'l', 's', 'e']
  | .number value => value.chars
  | .string text => quoted text
  | .array [] => ['[', ']']
  | .array (x :: rest) => '[' :: chars x ++ charsItems rest
  | .object [] => ['{', '}']
  | .object ((k, x) :: rest) => '{' :: quoted k ++ ':' :: chars x ++ charsEntries rest

/-- The items after the first one, and the closing bracket. -/
def charsItems : List Json → List Char
  | [] => [']']
  | x :: rest => ',' :: chars x ++ charsItems rest

/-- The entries after the first one, and the closing brace. -/
def charsEntries : List (String × Json) → List Char
  | [] => ['}']
  | (k, x) :: rest => ',' :: quoted k ++ ':' :: chars x ++ charsEntries rest

end

def text (v : Json) : String := String.ofList v.chars

end Json
end Brokerage
