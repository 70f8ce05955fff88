import Brokerage.Json.Printer

/-! # Generated ids

New objects are named by numbers of 128 bits in the usual grouping of their hexadecimal digits.
-/

namespace Brokerage
namespace IdSupply

/-- Thirty-two hexadecimal digits. -/
def hexDigits : Nat → Nat → List Char
  | 0, _ => []
  | count + 1, n => hexDigits count (n / 16) ++ [Nat.digitChar (n % 16)]

/-- The text of a number, in groups of 8, 4, 4, 4 and 12 digits. -/
def name (n : Nat) : String :=
  let digits := hexDigits 32 n
  let group (start count : Nat) := (digits.drop start).take count
  String.ofList (group 0 8 ++ '-' :: group 8 4 ++ '-' :: group 12 4 ++ '-' :: group 16 4 ++
    '-' :: group 20 12)

/-- A generator of ids: the text of the `n`th one. A random generator is any such function; that
its ids differ is never part of it. -/
class Generator where
  text : Nat → String

instance Generator.counting : Generator := ⟨name⟩

end IdSupply

/-- The supply of ids: a generator, and the number of the id that it gives out next. -/
structure IdSupply where
  next : Nat
  [generator : IdSupply.Generator]

namespace IdSupply

instance : Inhabited IdSupply := ⟨⟨0⟩⟩

/-- The `n`th id of the supply. -/
def text (ids : IdSupply) (n : Nat) : String := ids.generator.text n

def take (ids : IdSupply) : String × IdSupply :=
  (ids.text ids.next, { ids with next := ids.next + 1 })

end IdSupply
end Brokerage
