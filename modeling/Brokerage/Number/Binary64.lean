/-! # Doubles as exact fractions

A finite double is a mantissa and a shift: its magnitude is `mantissa * 2 ^ shift` units of
`2 ^ -1074`, the smallest positive double. Every operation computes the exact fraction and rounds
it once, to the nearest double and a half to the even mantissa.
-/

namespace Brokerage

/-- Powers of numbers are the core ones, also where a richer algebra is in scope. -/
@[default_instance 10001]
instance (priority := 10001) corePow {α : Type} [NatPow α] : Pow α Nat := instPowNat

/-- The nearest whole number to a fraction, a half going to the even neighbour. -/
def roundHalfEven (num den : Nat) : Nat :=
  let quotient := num / den
  let rest := num % den
  if 2 * rest > den || 2 * rest = den && quotient % 2 = 1 then quotient + 1 else quotient

/-- A finite double with its sign; zero has one. -/
structure Binary64 where
  negative : Bool
  mantissa : Nat
  shift : Nat
  /-- The mantissa has 53 bits, and its top bit is set unless the shift is the least one. -/
  normal : mantissa < 2 ^ 53 ∧ shift ≤ 2045 ∧ (shift = 0 ∨ 2 ^ 52 ≤ mantissa)
  deriving DecidableEq

namespace Binary64

/-- The units of `2 ^ -1074` in one. -/
def one : Nat := 2 ^ 1074

/-- The magnitude in units of `2 ^ -1074`. -/
def units (x : Binary64) : Nat := x.mantissa * 2 ^ x.shift

def zero (negative : Bool) : Binary64 := ⟨negative, 0, 0, by decide⟩

instance : Inhabited Binary64 := ⟨zero false⟩

def isZero (x : Binary64) : Bool := x.mantissa = 0

/-- The double with these parts, none where they are not in normal form. -/
def ofParts? (negative : Bool) (mantissa shift : Nat) : Option Binary64 :=
  if h : mantissa < 2 ^ 53 ∧ shift ≤ 2045 ∧ (shift = 0 ∨ 2 ^ 52 ≤ mantissa) then
    some ⟨negative, mantissa, shift, h⟩
  else none

/-- The double nearest to a fraction of units; none beyond the largest double. -/
def ofUnits? (negative : Bool) (num den : Nat) : Option Binary64 :=
  let whole := num / den
  let shift := if whole < 2 ^ 53 then 0 else whole.log2 - 52
  let mantissa := roundHalfEven num (den * 2 ^ shift)
  if mantissa = 2 ^ 53 then ofParts? negative (2 ^ 52) (shift + 1)
  else ofParts? negative mantissa shift

/-- The double nearest to a fraction; none beyond the largest double. -/
def ofRatio? (negative : Bool) (num den : Nat) : Option Binary64 :=
  ofUnits? negative (num * one) den

def neg (x : Binary64) : Binary64 := { x with negative := !x.negative }

def mul? (x y : Binary64) : Option Binary64 :=
  ofUnits? (x.negative != y.negative) (x.units * y.units) one

/-- The rounded quotient; none for the divisor zero. -/
def div? (x y : Binary64) : Option Binary64 :=
  if y.isZero then none
  else ofUnits? (x.negative != y.negative) (x.units * one) y.units

/-- The double nearest to a power of ten. -/
def tenTo? (exponent : Nat) : Option Binary64 := ofRatio? false (10 ^ exponent) 1

/-- Numeric equality, for which both zeros are one number. -/
def same (x y : Binary64) : Bool :=
  x.isZero && y.isZero || x.negative == y.negative && x.units == y.units

end Binary64
end Brokerage
