import Brokerage.Json.Draft
import Brokerage.Text.Utf8

/-! # Percent-encoding

Bytes that a URL cannot carry are written as a percent sign and two hexadecimal digits.
-/

namespace Brokerage.Percent

/-- The characters that stand for themselves in every part of a URL. -/
def isUnreserved (c : Char) : Bool :=
  'A' ≤ c && c ≤ 'Z' || 'a' ≤ c && c ≤ 'z' || '0' ≤ c && c ≤ '9' ||
    c = '-' || c = '_' || c = '.' || c = '~'

/-- One hexadecimal digit, capital. -/
def hexDigit (n : Nat) : Char :=
  if n < 10 then Char.ofNat ('0'.toNat + n) else Char.ofNat ('A'.toNat + (n - 10))

/-- A byte as a percent sign and two digits. -/
def encodeByte (b : UInt8) : List Char :=
  ['%', hexDigit (b.toNat / 16), hexDigit (b.toNat % 16)]

/-- Write every character as itself if the test allows it, else byte by byte. -/
def encodeWith (keep : Char → Bool) (text : List Char) : List Char :=
  text.flatMap fun c => if keep c then [c] else (String.utf8EncodeChar c).flatMap encodeByte

/-- Encode a text so that it can be one segment of a path. -/
def encode (text : String) : String := String.ofList (encodeWith isUnreserved text.toList)

/-- The bytes that a text stands for; a percent sign without two digits stands for itself. -/
def decodeBytes : List Char → List UInt8
  | '%' :: a :: b :: rest =>
    match hexValue? a, hexValue? b with
    | some high, some low => UInt8.ofNat (16 * high + low) :: decodeBytes rest
    | _, _ => '%'.toUInt8 :: decodeBytes (a :: b :: rest)
  | c :: rest => String.utf8EncodeChar c ++ decodeBytes rest
  | [] => []

/-- The text that an encoded text stands for, none if its bytes are not UTF-8. -/
def decode? (text : List Char) : Option String :=
  (Utf8.decode? (decodeBytes text)).map String.ofList

/-- The text that a form-encoded text stands for: a plus sign is a blank. -/
def decodeForm (text : List Char) : String :=
  let bytes := decodeBytes (text.map fun c => if c = '+' then ' ' else c)
  String.ofList (Utf8.decodeLossy bytes)

/-- The pairs of a form, split at ampersands and at the first equals sign of each piece; empty
pieces do not count. -/
def formPairs (text : List Char) : List (String × String) :=
  (text.splitOn '&').filterMap fun piece =>
    if piece = [] then none
    else some (decodeForm (piece.takeWhile (· != '=')),
      decodeForm ((piece.dropWhile (· != '=')).drop 1))

/-- Encode a text for a form: a blank becomes a plus sign. -/
def encodeForm (text : String) : String :=
  let keep (c : Char) := isUnreserved c && c != '~' || c = '*' || c = ' '
  String.ofList ((encodeWith keep text.toList).map fun c => if c = ' ' then '+' else c)

end Brokerage.Percent
