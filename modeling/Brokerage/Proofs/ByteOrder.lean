import Brokerage.Number.Binary64
import Brokerage.Proofs.Dict
import Brokerage.Text.Utf8

/-! # The order of bytes

Texts are compared code point by code point. That is the order of their UTF-8 bytes: of two
characters the smaller one has the smaller first byte, or the same first byte and smaller ones after
it.
-/

namespace Brokerage

namespace Utf8

variable {v w k : Nat} {x y : List UInt8}

/-- How many bytes follow the first one. -/
def width (v : Nat) : Nat :=
  if v ≤ 0x7F then 0 else if v ≤ 0x7FF then 1 else if v ≤ 0xFFFF then 2 else 3

/-- The first byte of a code point: a mark of the width and the bits that the others do not hold. -/
def lead (v : Nat) : Nat :=
  if v ≤ 0x7F then v
  else if v ≤ 0x7FF then v / 64 + 0xC0
  else if v ≤ 0xFFFF then v / 4096 + 0xE0
  else v / 262144 + 0xF0

/-- The last bytes of a code point, six bits in each. -/
def continuation : Nat → Nat → List UInt8
  | 0, _ => []
  | k + 1, v => UInt8.ofNat (v / 64 ^ k % 64 + 0x80) :: continuation k v

theorem toNat_lt_scalars (c : Char) : c.toNat < 0x110000 := by
  rcases c.valid with small | ⟨_, large⟩
  · exact Nat.lt_trans small (by decide)
  · exact large

theorem size_cases (v : Nat) : (v ≤ 0x7F ∧ width v = 0 ∧ lead v = v) ∨
    (0x80 ≤ v ∧ v ≤ 0x7FF ∧ width v = 1 ∧ lead v = v / 64 + 0xC0) ∨
    (0x800 ≤ v ∧ v ≤ 0xFFFF ∧ width v = 2 ∧ lead v = v / 4096 + 0xE0) ∨
    (0x10000 ≤ v ∧ width v = 3 ∧ lead v = v / 262144 + 0xF0) := by
  unfold width lead
  split
  · omega
  · split
    · omega
    · split <;> omega

theorem encodeChar_eq (c : Char) :
    String.utf8EncodeChar c = UInt8.ofNat (lead c.toNat) :: continuation (width c.toNat) c.toNat := by
  have bound := toNat_lt_scalars c
  have code : c.val.toNat = c.toNat := rfl
  simp only [String.utf8EncodeChar, code]
  rcases size_cases c.toNat with ⟨h, width, lead⟩ | ⟨h, h', width, lead⟩ | ⟨h, h', width, lead⟩ |
    ⟨h, width, lead⟩ <;> rw [width, lead]
  · rw [if_pos h]
    rfl
  · have high : c.toNat / 64 % 32 = c.toNat / 64 := by omega
    rw [if_neg (by omega), if_pos h', high]
    simp [continuation]
  · have high : c.toNat / 4096 % 16 = c.toNat / 4096 := by omega
    rw [if_neg (by omega), if_neg (by omega), if_pos h', high]
    simp [continuation]
  · have high : c.toNat / 262144 % 8 = c.toNat / 262144 := by omega
    rw [if_neg (by omega), if_neg (by omega), if_neg (by omega), high]
    simp [continuation]

theorem cons_lt {a b : Nat} (ha : a < 256) (hb : b < 256) (h : a < b ∨ a = b ∧ x < y) :
    UInt8.ofNat a :: x < UInt8.ofNat b :: y := by
  rw [List.cons_lt_cons_iff]
  rcases h with less | ⟨rfl, less⟩
  · left
    rwa [UInt8.lt_iff_toNat_lt, UInt8.toNat_ofNat_of_lt' ha, UInt8.toNat_ofNat_of_lt' hb]
  · exact .inr ⟨rfl, less⟩

theorem continuation_lt (h : v % 64 ^ k < w % 64 ^ k) :
    continuation k v ++ x < continuation k w ++ y := by
  induction k with
  | zero => simp [Nat.mod_one] at h
  | succ k ih =>
      rw [Nat.mod_pow_succ, Nat.mod_pow_succ] at h
      refine cons_lt (by omega) (by omega) ?_
      rcases Nat.lt_trichotomy (v / 64 ^ k % 64) (w / 64 ^ k % 64) with less | same | more
      · exact .inl (by omega)
      · rw [same] at h
        exact .inr ⟨by rw [same], ih (by omega)⟩
      · have bound : v % 64 ^ k < 64 ^ k := Nat.mod_lt _ (Nat.pow_pos (by decide))
        have gap : 64 ^ k * (w / 64 ^ k % 64 + 1) ≤ 64 ^ k * (v / 64 ^ k % 64) :=
          Nat.mul_le_mul_left _ more
        rw [Nat.mul_add] at gap
        omega

/-- A larger code point has a larger first byte, or the same one and as many others. -/
theorem lead_lt (less : v < w) (bound : w < 0x110000) : lead v < lead w ∨
    lead v = lead w ∧ width v = width w ∧ v % 64 ^ width v < w % 64 ^ width v := by
  rcases size_cases v with ⟨h, width, lead⟩ | ⟨h, h', width, lead⟩ | ⟨h, h', width, lead⟩ |
    ⟨h, width, lead⟩ <;> rw [width, lead] <;>
  rcases size_cases w with ⟨h, width, lead⟩ | ⟨h, h', width, lead⟩ | ⟨h, h', width, lead⟩ |
    ⟨h, width, lead⟩ <;> rw [width, lead] <;> omega

theorem lead_lt_256 (bound : v < 0x110000) : lead v < 256 := by
  have := size_cases v
  omega

theorem encodeChar_lt {c d : Char} (less : c < d) (x y : List UInt8) :
    String.utf8EncodeChar c ++ x < String.utf8EncodeChar d ++ y := by
  have smaller : c.toNat < d.toNat := less
  rw [encodeChar_eq, encodeChar_eq]
  refine cons_lt (lead_lt_256 (toNat_lt_scalars c)) (lead_lt_256 (toNat_lt_scalars d)) ?_
  rcases lead_lt smaller (toNat_lt_scalars d) with first | ⟨same, width, later⟩
  · exact .inl first
  · rw [← width]
    exact .inr ⟨same, continuation_lt later⟩

theorem encode_lt {a b : List Char} (less : a < b) : encode a < encode b := by
  induction a generalizing b with
  | nil =>
      cases b with
      | nil => exact absurd less (List.lt_irrefl _)
      | cons d rest =>
          rw [encode, encode, List.flatMap_cons, encodeChar_eq]
          exact List.nil_lt_cons _ _
  | cons c a ih =>
      cases b with
      | nil => exact absurd less (List.not_lt_nil _)
      | cons d b =>
          rcases List.cons_lt_cons_iff.1 less with first | ⟨rfl, later⟩
          · exact encodeChar_lt first _ _
          · exact List.append_left_lt (ih later)

end Utf8

def utf8Bytes (text : String) : List UInt8 := Utf8.encode text.toList

theorem utf8Bytes_lt {a b : String} (less : a < b) : utf8Bytes a < utf8Bytes b :=
  Utf8.encode_lt (String.lt_iff.1 less)

theorem Dict.keys_ascending {α : Type} (d : Dict α) :
    d.keys.Pairwise fun a b => utf8Bytes a < utf8Bytes b :=
  List.pairwise_map.2 (d.ascending.imp utf8Bytes_lt)

end Brokerage
