import Brokerage.Json.Basic

/-! # Drafts of JSON text

A draft is what a text says before anybody asks what it means: where the syntax breaks, which
numbers are too large, which strings hold half of a surrogate pair, which keys repeat. A reader
that skips a field forgives the last three, so they are kept apart from broken syntax.
-/

namespace Brokerage

inductive Draft where
  /-- The syntax breaks here; nothing was read after this point. -/
  | broken
  | null
  | bool (value : Bool)
  /-- A number, none if it is out of range. -/
  | number (value : Option Number)
  /-- A string, none if it holds half of a surrogate pair. -/
  | string (text : Option String)
  /-- The items, and whether the array was closed. -/
  | array (items : List Draft) (closed : Bool)
  /-- The entries in order, repeated keys included, and whether the object was closed. -/
  | object (entries : List (Option String × Draft)) (closed : Bool)

instance : Inhabited Draft := ⟨.null⟩

/-- The value of an ASCII digit. -/
def digitValue? (c : Char) : Option Nat :=
  if '0' ≤ c && c ≤ '9' then some (c.toNat - '0'.toNat) else none

/-- The value of a hexadecimal digit. -/
def hexValue? (c : Char) : Option Nat :=
  if '0' ≤ c && c ≤ '9' then some (c.toNat - '0'.toNat)
  else if 'a' ≤ c && c ≤ 'f' then some (c.toNat - 'a'.toNat + 10)
  else if 'A' ≤ c && c ≤ 'F' then some (c.toNat - 'A'.toNat + 10)
  else none

/-- The digits at the front of a text, as their values, and the rest. -/
def leadingDigits : List Char → List Nat × List Char
  | [] => ([], [])
  | c :: rest =>
    match digitValue? c with
    | some d =>
      let (digits, after) := leadingDigits rest
      (d :: digits, after)
    | none => ([], c :: rest)

def ofDigits (digits : List Nat) : Nat := digits.foldl (fun n d => 10 * n + d) 0

namespace Draft

def skipBlanks (input : List Char) : List Char :=
  input.dropWhile fun c => c = ' ' || c = '\n' || c = '\t' || c = '\r'

/-! ## Numbers -/

/-- A significand of at most 64 bits that is to be multiplied by a power of ten. -/
structure Scaled where
  significand : Nat
  exponent : Int

/-- One more digit of the whole part: a digit that no longer fits only scales. -/
def Scaled.pushWhole (s : Scaled) (digit : Nat) : Scaled :=
  if s.exponent = 0 && 10 * s.significand + digit < 2 ^ 64 then
    ⟨10 * s.significand + digit, 0⟩
  else ⟨s.significand, s.exponent + 1⟩

/-- The digits after the point, up to the first one that no longer fits. -/
def Scaled.pushFraction (s : Scaled) : List Nat → Scaled
  | [] => s
  | digit :: rest =>
    if 10 * s.significand + digit < 2 ^ 64 then
      Scaled.pushFraction ⟨10 * s.significand + digit, s.exponent - 1⟩ rest
    else s

/-- Divide by `10 ^ 308` until the exponent is at least `-308`, then by the rest of it. -/
def scaleDown : Nat → Binary64 → Nat → Option Binary64
  | 0, value, _ => some value
  | steps + 1, value, exponent =>
    if exponent ≤ 308 then (Binary64.tenTo? exponent).bind value.div?
    else if value.isZero then some value
    else do
      let divisor ← Binary64.tenTo? 308
      scaleDown steps (← value.div? divisor) (exponent - 308)

/-- The double of a scaled significand, rounded after each of its steps; none if it is too large. -/
def Scaled.toBinary64? (s : Scaled) : Option Binary64 := do
  let value ← Binary64.ofRatio? false s.significand 1
  if s.exponent < 0 then scaleDown 4 value s.exponent.natAbs
  else if s.exponent ≤ 308 then value.mul? (← Binary64.tenTo? s.exponent.toNat)
  else if value.isZero then some value
  else none

/-- A number's parts as they stand in the text; the exponent has its sign. -/
structure Numeral where
  negative : Bool
  whole : List Nat
  fraction : Option (List Nat)
  exponent : Option (Bool × List Nat)

/-- An integer is kept if it fits 64 bits, all else becomes a double; none if it is too large. -/
def Numeral.toNumber? (n : Numeral) : Option Number :=
  let whole := n.whole.foldl Scaled.pushWhole ⟨0, 0⟩
  let float (value : Binary64) : Number := .float { value with negative := n.negative }
  match n.fraction, n.exponent with
  | none, none =>
    if whole.exponent = 0 && !n.negative then some (.integer whole.significand)
    else if whole.exponent = 0 && 0 < whole.significand && whole.significand ≤ 2 ^ 63 then
      some (.integer (-whole.significand))
    else whole.toBinary64?.map float
  | fraction, none => (whole.pushFraction (fraction.getD [])).toBinary64?.map float
  | fraction, some (negative, digits) =>
    let scaled := whole.pushFraction (fraction.getD [])
    let size := ofDigits digits
    if size < 2 ^ 31 then
      let exponent := if negative then scaled.exponent - size else scaled.exponent + size
      (Scaled.toBinary64? ⟨scaled.significand, exponent⟩).map float
    else if scaled.significand = 0 || negative then some (float (.zero false))
    else none

/-- The exponent after its letter. -/
def scanExponent (input : List Char) : Option ((Bool × List Nat) × List Char) :=
  let (negative, input) :=
    match input with
    | '-' :: rest => (true, rest)
    | '+' :: rest => (false, rest)
    | rest => (false, rest)
  match leadingDigits input with
  | ([], _) => none
  | (digits, rest) => some ((negative, digits), rest)

/-- A number without its sign: no leading zeros, digits on both sides of a point. -/
def scanUnsigned (negative : Bool) (input : List Char) : Option (Numeral × List Char) := do
  let (whole, rest) := leadingDigits input
  if whole = [] || (whole.head? = some 0 && whole.length ≠ 1) then none
  let (fraction, rest) ←
    match rest with
    | '.' :: rest =>
      match leadingDigits rest with
      | ([], _) => none
      | (digits, rest) => some (some digits, rest)
    | rest => some (none, rest)
  match rest with
  | 'e' :: rest | 'E' :: rest =>
    let (exponent, rest) ← scanExponent rest
    some (⟨negative, whole, fraction, some exponent⟩, rest)
  | rest => some (⟨negative, whole, fraction, none⟩, rest)

def scanNumber : List Char → Option (Numeral × List Char)
  | '-' :: rest => scanUnsigned true rest
  | rest => scanUnsigned false rest

/-! ## Strings -/

/-- A character of a string, or a 16-bit unit written in hexadecimal. -/
inductive Symbol where
  | plain (c : Char)
  | unit (value : Nat)

/-- The characters that stand for themselves or another one after a backslash. -/
def unescaped? (c : Char) : Option Char :=
  if c = '"' || c = '\\' || c = '/' then some c
  else if c = 'b' then some '\x08'
  else if c = 'f' then some '\x0c'
  else if c = 'n' then some '\n'
  else if c = 'r' then some '\r'
  else if c = 't' then some '\t'
  else none

/-- The symbols up to the closing quote, and what follows it. -/
def scanSymbols : List Char → Option (List Symbol × List Char)
  | [] => none
  | '"' :: rest => some ([], rest)
  | '\\' :: 'u' :: a :: b :: c :: d :: rest => do
    let value := (((← hexValue? a) * 16 + (← hexValue? b)) * 16 + (← hexValue? c)) * 16
      + (← hexValue? d)
    let (symbols, after) ← scanSymbols rest
    some (.unit value :: symbols, after)
  | '\\' :: c :: rest => do
    let plain ← unescaped? c
    let (symbols, after) ← scanSymbols rest
    some (.plain plain :: symbols, after)
  | c :: rest =>
    if c = '\\' || c.toNat < 0x20 then none
    else do
      let (symbols, after) ← scanSymbols rest
      some (.plain c :: symbols, after)

/-- The text of symbols: a high surrogate must stand right before a low one. -/
def joinSymbols : List Symbol → Option (List Char)
  | [] => some []
  | .plain c :: rest => (joinSymbols rest).map (c :: ·)
  | .unit high :: .unit low :: rest =>
    if 0xD800 ≤ high && high < 0xDC00 then
      if 0xDC00 ≤ low && low < 0xE000 then
        (joinSymbols rest).map
          (Char.ofNat (0x10000 + (high - 0xD800) * 0x400 + (low - 0xDC00)) :: ·)
      else none
    else if 0xDC00 ≤ high && high < 0xE000 then none
    else (joinSymbols (.unit low :: rest)).map (Char.ofNat high :: ·)
  | .unit value :: rest =>
    if 0xD800 ≤ value && value < 0xE000 then none
    else (joinSymbols rest).map (Char.ofNat value :: ·)

/-- A string after its opening quote. -/
def scanString (input : List Char) : Option (Option String × List Char) :=
  (scanSymbols input).map fun (symbols, rest) => ((joinSymbols symbols).map String.ofList, rest)

/-! ## Values -/

mutual

/-- The value at the front of a text, and the text after it, none once the syntax broke. -/
def value : Nat → List Char → Draft × Option (List Char)
  | 0, _ => (.broken, none)
  | fuel + 1, input =>
    match skipBlanks input with
    | '[' :: rest =>
      match skipBlanks rest with
      | ']' :: rest => (.array [] true, some rest)
      | rest =>
        let (items, after) := items fuel rest
        (.array items after.isSome, after)
    | '{' :: rest =>
      match skipBlanks rest with
      | '}' :: rest => (.object [] true, some rest)
      | rest =>
        let (entries, after) := entries fuel rest
        (.object entries after.isSome, after)
    | '"' :: rest =>
      match scanString rest with
      | some (text, rest) => (.string text, some rest)
      | none => (.broken, none)
    | 'n' :: 'u' :: 'l' :: 'l' :: rest => (.null, some rest)
    | 't' :: 'r' :: 'u' :: 'e' :: rest => (.bool true, some rest)
    | 'f' :: 'a' :: 'l' :: 's' :: 'e' :: rest => (.bool false, some rest)
    | rest =>
      match scanNumber rest with
      | some (numeral, rest) => (.number numeral.toNumber?, some rest)
      | none => (.broken, none)

/-- The items up to the closing bracket. -/
def items : Nat → List Char → List Draft × Option (List Char)
  | 0, _ => ([], none)
  | fuel + 1, input =>
    match value fuel input with
    | (item, none) => ([item], none)
    | (item, some rest) =>
      match skipBlanks rest with
      | ']' :: rest => ([item], some rest)
      | ',' :: rest =>
        let (more, after) := items fuel rest
        (item :: more, after)
      | _ => ([item], none)

/-- The entries up to the closing brace. -/
def entries : Nat → List Char → List (Option String × Draft) × Option (List Char)
  | 0, _ => ([], none)
  | fuel + 1, input =>
    match skipBlanks input with
    | '"' :: rest =>
      match scanString rest with
      | none => ([], none)
      | some (key, rest) =>
        match skipBlanks rest with
        | ':' :: rest =>
          match value fuel rest with
          | (item, none) => ([(key, item)], none)
          | (item, some rest) =>
            match skipBlanks rest with
            | '}' :: rest => ([(key, item)], some rest)
            | ',' :: rest =>
              let (more, after) := entries fuel rest
              ((key, item) :: more, after)
            | _ => ([(key, item)], none)
        | _ => ([(key, .broken)], none)
    | _ => ([], none)

end

/-- The value at the front of a text; each call of a reader takes at least one character. -/
def front (text : String) : Draft × Option (List Char) :=
  let input := text.toList
  value (2 * input.length + 2) input

mutual

/-- The draft of a finished value. -/
def ofJson : Json → Draft
  | .null => .null
  | .bool value => .bool value
  | .number value => .number (some value)
  | .string text => .string (some text)
  | .array items => .array (ofItems items) true
  | .object entries => .object (ofEntries entries) true

def ofItems : List Json → List Draft
  | [] => []
  | x :: rest => ofJson x :: ofItems rest

def ofEntries : List (String × Json) → List (Option String × Draft)
  | [] => []
  | (k, x) :: rest => (some k, ofJson x) :: ofEntries rest

end

end Draft
end Brokerage
