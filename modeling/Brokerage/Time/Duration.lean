import Brokerage.Json.Printer

/-! # Durations

Spans of time in nanoseconds, and their text: the largest unit among seconds, milliseconds,
microseconds and nanoseconds that has a whole part, with as many decimals as it takes.
-/

namespace Brokerage

structure Duration where
  nanoseconds : Nat
  deriving DecidableEq, Repr, Inhabited

namespace Duration

def ofSeconds (n : Nat) : Duration := ⟨n * 1000000000⟩

def ofMilliseconds (n : Nat) : Duration := ⟨n * 1000000⟩

/-- The whole milliseconds. -/
def milliseconds (d : Duration) : Nat := d.nanoseconds / 1000000

/-- The decimals of a part of `10 ^ places`, without the zeros at their end. -/
def decimals (places part : Nat) : List Char :=
  let digits := decimalDigits part
  let padded := List.replicate (places - digits.length) '0' ++ digits
  (padded.reverse.dropWhile (· = '0')).reverse

/-- A number of nanoseconds in a unit of `10 ^ places` of them. -/
def inUnit (places nanoseconds : Nat) (name : String) : String :=
  let part := decimals places (nanoseconds % 10 ^ places)
  String.ofList (decimalDigits (nanoseconds / 10 ^ places) ++
    (if part = [] then [] else '.' :: part)) ++ name

def text (d : Duration) : String :=
  let n := d.nanoseconds
  if 10 ^ 9 ≤ n then inUnit 9 n "s"
  else if 10 ^ 6 ≤ n then inUnit 6 n "ms"
  else if 10 ^ 3 ≤ n then inUnit 3 n "µs"
  else inUnit 0 n "ns"

end Duration
end Brokerage
