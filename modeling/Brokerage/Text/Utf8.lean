/-! # UTF-8

Reading bytes as characters, strictly or with the replacement character in place of every maximal
piece that begins no character.
-/

namespace Brokerage.Utf8

def encode (text : List Char) : List UInt8 := text.flatMap String.utf8EncodeChar

/-- Whether a byte continues a character, with tighter bounds for the second byte. -/
def within (low high : Nat) (b : UInt8) : Bool := low ≤ b.toNat && b.toNat ≤ high

/-- The bounds of the second byte and the number of bytes after a first byte; none if it begins
no character of several bytes. -/
def lead? (b : UInt8) : Option (Nat × Nat × Nat) :=
  let n := b.toNat
  if 0xC2 ≤ n && n ≤ 0xDF then some (0x80, 0xBF, 1)
  else if n = 0xE0 then some (0xA0, 0xBF, 2)
  else if n = 0xED then some (0x80, 0x9F, 2)
  else if 0xE1 ≤ n && n ≤ 0xEF then some (0x80, 0xBF, 2)
  else if n = 0xF0 then some (0x90, 0xBF, 3)
  else if 0xF1 ≤ n && n ≤ 0xF3 then some (0x80, 0xBF, 3)
  else if n = 0xF4 then some (0x80, 0x8F, 3)
  else none

/-- The character at the front of some bytes, or none, and how many bytes that took. -/
def front (b : UInt8) (rest : List UInt8) : Option Char × Nat :=
  if b.toNat < 0x80 then (some (Char.ofNat b.toNat), 1)
  else
    match lead? b with
    | none => (none, 1)
    | some (low, high, count) =>
      match rest with
      | second :: rest =>
        if within low high second then
          let tail := (rest.take (count - 1)).takeWhile (within 0x80 0xBF)
          if tail.length = count - 1 then
            let top := b.toNat % (1 <<< (6 - count))
            let code := (second :: tail).foldl (fun n c => n * 64 + c.toNat % 64) top
            (some (Char.ofNat code), count + 1)
          else (none, 2 + tail.length)
        else (none, 1)
      | [] => (none, 1)

/-- Read characters, each unreadable piece as none. -/
def pieces : Nat → List UInt8 → List (Option Char)
  | 0, _ | _, [] => []
  | fuel + 1, b :: rest =>
    let (c, count) := front b rest
    c :: pieces fuel ((b :: rest).drop count)

/-- The text of some bytes, none if they are not UTF-8. -/
def decode? (bytes : List UInt8) : Option (List Char) :=
  (pieces bytes.length bytes).mapM id

/-- The text of some bytes, unreadable pieces replaced. -/
def decodeLossy (bytes : List UInt8) : List Char :=
  (pieces bytes.length bytes).map (·.getD '\uFFFD')

end Brokerage.Utf8
