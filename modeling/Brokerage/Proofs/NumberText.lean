import Brokerage.Json.Printer
import Brokerage.Proofs.Rounding

/-! # Numbers and their text

The text of a number spells a whole part, perhaps a fraction, and perhaps an exponent. Scanning it
gives back the digits of each part and leaves what comes after the number.
-/

namespace Brokerage

namespace Draft

def digitValues (digits : List Char) : List Nat := digits.map fun c => c.toNat - '0'.toNat

theorem digitValue?_of_isDigit {c : Char} (h : c.isDigit = true) :
    digitValue? c = some (c.toNat - '0'.toNat) := by
  simp only [Char.isDigit, Bool.and_eq_true, decide_eq_true_eq] at h
  simp only [digitValue?, Char.le_def, Bool.and_eq_true, decide_eq_true_eq]
  exact if_pos h

theorem digitValue?_of_not_isDigit {c : Char} (h : c.isDigit = false) : digitValue? c = none := by
  have other : ¬(c.isDigit = true) := by simp [h]
  simp only [Char.isDigit, Bool.and_eq_true, decide_eq_true_eq] at other
  simp only [digitValue?, Char.le_def, Bool.and_eq_true, decide_eq_true_eq]
  exact if_neg other

theorem leadingDigits_append {digits rest : List Char} (all : ∀ c ∈ digits, c.isDigit = true)
    (stop : ∀ c ∈ rest.head?, c.isDigit = false) :
    leadingDigits (digits ++ rest) = (digitValues digits, rest) := by
  induction digits with
  | nil =>
      cases rest with
      | nil => rfl
      | cons c rest => simp [leadingDigits, digitValues, digitValue?_of_not_isDigit (stop c rfl)]
  | cons c digits ih =>
      have value := digitValue?_of_isDigit (all c List.mem_cons_self)
      have others := ih fun x member => all x (List.mem_cons_of_mem c member)
      simp [leadingDigits, value, others, digitValues]

theorem ofDigits_digitValues (digits : List Char) :
    ofDigits (digitValues digits) = Nat.ofDigitChars 10 digits 0 := by
  simp only [ofDigits, digitValues, List.foldl_map, Nat.ofDigitChars_eq_foldl]

end Draft

/-- The parts of a number without its sign, as they are written. -/
structure Spelling where
  whole : List Char
  fraction : Option (List Char)
  /-- Whether the exponent is negative, and its digits. -/
  exponent : Option (Bool × List Char)

namespace Spelling

def chars (p : Spelling) : List Char :=
  p.whole ++ (match p.fraction with | some digits => '.' :: digits | none => []) ++
    match p.exponent with
    | some (negative, digits) => 'e' :: (if negative then '-' else '+') :: digits
    | none => []

/-- What a scan makes of it. -/
def numeral (p : Spelling) (negative : Bool) : Draft.Numeral where
  negative
  whole := Draft.digitValues p.whole
  fraction := p.fraction.map Draft.digitValues
  exponent := p.exponent.map fun (negative, digits) => (negative, Draft.digitValues digits)

def IsDigits (digits : List Char) : Prop := digits ≠ [] ∧ ∀ c ∈ digits, c.isDigit = true

namespace IsDigits

variable {digits : List Char}

theorem single {c : Char} (h : c.isDigit = true) : IsDigits [c] :=
  ⟨List.cons_ne_nil _ _, fun x member => by rwa [List.mem_singleton.1 member]⟩

theorem take {n : Nat} (h : IsDigits digits) (some_taken : 0 < n) : IsDigits (digits.take n) := by
  refine ⟨?_, fun c member => h.2 c (List.mem_of_mem_take member)⟩
  simp [List.take_eq_nil_iff, h.1, Nat.ne_of_gt some_taken]

theorem drop {n : Nat} (h : IsDigits digits) (some_left : n < digits.length) :
    IsDigits (digits.drop n) := by
  refine ⟨?_, fun c member => h.2 c (List.mem_of_mem_drop member)⟩
  simpa [List.drop_eq_nil_iff] using some_left

theorem append_zeros (h : IsDigits digits) (n : Nat) :
    IsDigits (digits ++ List.replicate n '0') := by
  refine ⟨by simp [h.1], fun c member => ?_⟩
  rcases List.mem_append.1 member with inside | zero
  · exact h.2 c inside
  · rw [(List.mem_replicate.1 zero).2]
    decide

theorem zeros_append (h : IsDigits digits) (n : Nat) :
    IsDigits (List.replicate n '0' ++ digits) := by
  refine ⟨by simp [h.1], fun c member => ?_⟩
  rcases List.mem_append.1 member with zero | inside
  · rw [(List.mem_replicate.1 zero).2]
    decide
  · exact h.2 c inside

end IsDigits

/-- Every part has digits, and the whole part does not start with a zero that stands for nothing. -/
structure Proper (p : Spelling) : Prop where
  whole : IsDigits p.whole
  leading : p.whole.head? = some '0' → p.whole.length = 1
  fraction : ∀ digits ∈ p.fraction, IsDigits digits
  exponent : ∀ part ∈ p.exponent, IsDigits part.2

end Spelling

/-- After a number comes nothing that could go on with it. -/
def Stops (rest : List Char) : Prop :=
  ∀ c ∈ rest.head?, c.isDigit = false ∧ c ≠ '.' ∧ c ≠ 'e' ∧ c ≠ 'E'

namespace Draft

theorem scanExponent_append {negative : Bool} {digits rest : List Char}
    (h : Spelling.IsDigits digits) (stops : Stops rest) :
    scanExponent ((if negative then '-' else '+') :: digits ++ rest) =
      some ((negative, digitValues digits), rest) := by
  have scanned := leadingDigits_append h.2 fun c member => (stops c member).1
  have some_digit : digitValues digits ≠ [] := by simp [digitValues, h.1]
  cases negative with
  | true =>
      simp only [scanExponent, if_true, List.cons_append, scanned]
  | false =>
      simp only [scanExponent, Bool.false_eq_true, if_false, List.cons_append, scanned]

theorem leading_values {p : Spelling} (h : p.Proper) :
    ¬(digitValues p.whole = [] ∨
      (digitValues p.whole).head? = some 0 ∧ (digitValues p.whole).length ≠ 1) := by
  rintro (none | ⟨zero, long⟩)
  · exact h.whole.1 (List.map_eq_nil_iff.1 none)
  · cases whole : p.whole with
    | nil => exact h.whole.1 whole
    | cons c digits =>
        have digit := h.whole.2 c (whole ▸ List.mem_cons_self)
        simp only [whole, digitValues, List.map_cons, List.head?_cons, Option.some.injEq] at zero
        have same : c = '0' := by
          simp only [Char.isDigit, Bool.and_eq_true, decide_eq_true_eq] at digit
          apply Char.ext
          apply UInt32.toNat_inj.1
          have low : 48 ≤ c.val.toNat := digit.1
          change c.val.toNat - 48 = 0 at zero
          change c.val.toNat = 48
          omega
        have length := h.leading (by rw [whole, same]; rfl)
        simp only [digitValues, List.length_map] at long
        exact long length

theorem scanUnsigned_append {p : Spelling} {negative : Bool} {rest : List Char} (h : p.Proper)
    (stops : Stops rest) :
    scanUnsigned negative (p.chars ++ rest) = some (p.numeral negative, rest) := by
  have leads : ¬((decide (digitValues p.whole = []) ||
      decide ((digitValues p.whole).head? = some 0) && decide ((digitValues p.whole).length ≠ 1)) =
        true) := by
    simpa using leading_values h
  obtain ⟨whole, fraction, exponent⟩ := p
  have digits {after : List Char} (stop : ∀ c ∈ after.head?, c.isDigit = false) :
      leadingDigits (whole ++ after) = (digitValues whole, after) :=
    leadingDigits_append h.whole.2 stop
  simp only [Spelling.chars, Spelling.numeral, List.append_assoc]
  cases fraction with
  | none =>
      cases exponent with
      | none =>
          have scanned := digits fun c member => (stops c member).1
          simp only [List.nil_append, scanUnsigned, scanned, if_neg leads]
          cases rest with
          | nil => rfl
          | cons c rest =>
              obtain ⟨_, point, small, large⟩ := stops c rfl
              simp [point, small, large]
      | some part =>
          obtain ⟨minus, size⟩ := part
          have exponent : scanExponent _ = some ((minus, _), rest) :=
            scanExponent_append (h.exponent (minus, size) rfl) stops
          have scanned := @digits ('e' :: (if minus then '-' else '+') :: size ++ rest) (by simp)
          simp only [List.cons_append] at scanned exponent
          simp only [List.nil_append, List.cons_append, scanUnsigned, scanned, if_neg leads]
          simp [exponent]
  | some part =>
      have fractional := h.fraction part rfl
      have some_digit : digitValues part ≠ [] := by simp [digitValues, fractional.1]
      cases exponent with
      | none =>
          have scanned := @digits ('.' :: part ++ rest) (by simp)
          have scanned' : leadingDigits (part ++ rest) = (digitValues part, rest) :=
            leadingDigits_append fractional.2 fun c member => (stops c member).1
          simp only [List.cons_append] at scanned
          simp only [List.nil_append, List.cons_append, scanUnsigned, scanned, if_neg leads, scanned']
          cases rest with
          | nil => simp
          | cons c rest =>
              obtain ⟨_, _, small, large⟩ := stops c rfl
              simp [small, large]
      | some last =>
          obtain ⟨minus, size⟩ := last
          have exponent : scanExponent _ = some ((minus, _), rest) :=
            scanExponent_append (h.exponent (minus, size) rfl) stops
          have scanned := @digits ('.' :: part ++ ('e' :: (if minus then '-' else '+') :: size ++ rest))
            (by simp)
          have scanned' : leadingDigits (part ++ ('e' :: (if minus then '-' else '+') :: size ++ rest)) =
              (digitValues part, 'e' :: (if minus then '-' else '+') :: size ++ rest) :=
            leadingDigits_append fractional.2 (by simp)
          simp only [List.cons_append] at scanned scanned' exponent
          simp only [List.cons_append, scanUnsigned, scanned, if_neg leads, scanned']
          simp [exponent]

end Draft

/-! ## Decimals -/

theorem decimalDigits_isDigits (n : Nat) : Spelling.IsDigits (decimalDigits n) :=
  ⟨Nat.toDigits_ne_nil, fun _ member => Nat.isDigit_of_mem_toDigits (by decide) (by decide) member⟩

theorem decimalDigits_zero : decimalDigits 0 = ['0'] := Nat.toDigits_zero 10

theorem head?_decimalDigits {n : Nat} (h : (decimalDigits n).head? = some '0') : n = 0 := by
  induction n using Nat.strongRecOn with
  | ind n ih =>
      by_cases small : n < 10
      · rw [decimalDigits, Nat.toDigits_of_lt_base small, List.head?_cons, Option.some.injEq] at h
        have value := Nat.toNat_digitChar_sub_48_of_lt_ten small
        rw [h] at value
        exact value.symm
      · have front : decimalDigits n = decimalDigits (n / 10) ++ [(n % 10).digitChar] :=
          Nat.toDigits_of_base_le (by decide) (by omega)
        obtain ⟨first, more, parts⟩ := List.exists_cons_of_ne_nil (decimalDigits_isDigits (n / 10)).1
        rw [front, parts, List.cons_append, List.head?_cons] at h
        have := ih (n / 10) (by omega) (by rw [parts, List.head?_cons, h])
        omega

theorem ofDigits_decimalDigits (n : Nat) :
    ofDigits (Draft.digitValues (decimalDigits n)) = n := by
  rw [Draft.ofDigits_digitValues]
  exact Nat.ofDigitChars_ten_toDigits

namespace Decimal

/-- How a decimal is written, part by part. -/
def spelling (d : Decimal) : Spelling :=
  let digits := decimalDigits d.digits
  let point := digits.length + d.exponent
  if 0 ≤ d.exponent ∧ point ≤ 16 then
    ⟨digits ++ List.replicate d.exponent.toNat '0', some ['0'], none⟩
  else if 0 < point ∧ point ≤ 16 then
    ⟨digits.take point.toNat, some (digits.drop point.toNat), none⟩
  else if -5 < point ∧ point ≤ 0 then
    ⟨['0'], some (List.replicate (-point).toNat '0' ++ digits), none⟩
  else
    ⟨digits.take 1, if digits.length = 1 then none else some (digits.drop 1),
      some (point - 1 < 0, decimalDigits (point - 1).natAbs)⟩

theorem chars_spelling (d : Decimal) : d.spelling.chars = d.chars := by
  unfold spelling chars
  simp only [Bool.and_eq_true, decide_eq_true_eq]
  split
  · simp [Spelling.chars]
  · split
    · simp [Spelling.chars]
    · split
      · simp [Spelling.chars]
      · have one : ((decimalDigits d.digits).length : Int) = 1 ↔ (decimalDigits d.digits).length = 1 := by
          omega
        simp only [Spelling.chars, one]
        by_cases single : (decimalDigits d.digits).length = 1 <;> simp [single]

/-- A decimal is spelled without needless zeros in front, unless it is zero in some other place. -/
theorem spelling_proper {d : Decimal} (h : d.digits = 0 → d.exponent = 0) : d.spelling.Proper := by
  have digits := decimalDigits_isDigits d.digits
  have some_digit : 0 < (decimalDigits d.digits).length := List.length_pos_iff.2 digits.1
  have leading (front : (decimalDigits d.digits).head? = some '0') :
      (decimalDigits d.digits).length = 1 ∧ d.exponent = 0 := by
    have none := head?_decimalDigits front
    refine ⟨?_, h none⟩
    rw [none, decimalDigits_zero]
    rfl
  have taken {n : Nat} (some_taken : 0 < n)
      (front : ((decimalDigits d.digits).take n).head? = some '0') :
      ((decimalDigits d.digits).take n).length = 1 := by
    rw [List.head?_take, if_neg (Nat.ne_of_gt some_taken)] at front
    rw [List.length_take, (leading front).1]
    omega
  have nought : Spelling.IsDigits ['0'] := .single (by decide)
  unfold spelling
  dsimp only
  split
  · refine ⟨digits.append_zeros _, fun front => ?_, ?_, nofun⟩
    · obtain ⟨first, more, parts⟩ := List.exists_cons_of_ne_nil digits.1
      rw [parts, List.cons_append, List.head?_cons, ← List.head?_cons (l := more), ← parts] at front
      obtain ⟨single, none⟩ := leading front
      simp [single, none]
    · rintro _ ⟨⟩
      exact nought
  · split
    · rename_i long within
      refine ⟨digits.take (by omega), taken (by omega), ?_, nofun⟩
      rintro _ ⟨⟩
      exact digits.drop (by omega)
    · split
      · refine ⟨nought, fun _ => rfl, ?_, nofun⟩
        rintro _ ⟨⟩
        exact digits.zeros_append _
      · refine ⟨digits.take (by decide), taken (by decide), fun part found => ?_, ?_⟩
        · split at found
          · cases found
          · cases found
            exact digits.drop (by omega)
        · rintro _ ⟨⟩
          exact decimalDigits_isDigits _

end Decimal
/-! ## Reading digits -/

namespace Draft

/-- A number followed by more digits. -/
def pushDigits (n : Nat) (digits : List Nat) : Nat := digits.foldl (fun n d => 10 * n + d) n

section

variable {n : Nat} {digits more : List Nat} {s : Scaled}

theorem pushDigits_append :
    pushDigits n (digits ++ more) = pushDigits (pushDigits n digits) more := List.foldl_append

theorem mul_pow_le_pushDigits (n : Nat) (digits : List Nat) :
    n * 10 ^ digits.length ≤ pushDigits n digits := by
  induction digits generalizing n with
  | nil => simp [pushDigits]
  | cons digit digits ih =>
      refine Nat.le_trans ?_ (ih (10 * n + digit))
      rw [List.length_cons, Nat.pow_succ, Nat.mul_comm (10 ^ _), ← Nat.mul_assoc]
      exact Nat.mul_le_mul_right _ (by omega)

theorem pushDigits_lt (n : Nat) {text : List Char} (h : ∀ c ∈ text, c.isDigit = true) :
    pushDigits n (digitValues text) < (n + 1) * 10 ^ text.length := by
  induction text generalizing n with
  | nil => simp [pushDigits, digitValues]
  | cons c text ih =>
      have small : c.toNat - '0'.toNat < 10 := by
        have digit := h c List.mem_cons_self
        simp only [Char.isDigit, Bool.and_eq_true, decide_eq_true_eq] at digit
        have high : c.toNat ≤ 57 := digit.2
        change c.toNat - 48 < 10
        omega
      have others := ih (10 * n + (c.toNat - '0'.toNat)) fun x member =>
        h x (List.mem_cons_of_mem c member)
      refine Nat.lt_of_lt_of_le others ?_
      rw [List.length_cons, Nat.pow_succ, Nat.mul_comm (10 ^ _), ← Nat.mul_assoc]
      exact Nat.mul_le_mul_right _ (by omega)

/-- The whole part is exact while it fits 64 bits. -/
theorem foldl_pushWhole (h : pushDigits n digits < 2 ^ 64) :
    digits.foldl Scaled.pushWhole ⟨n, 0⟩ = ⟨pushDigits n digits, 0⟩ := by
  induction digits generalizing n with
  | nil => rfl
  | cons digit digits ih =>
      have fits : 10 * n + digit < 2 ^ 64 := by
        refine Nat.lt_of_le_of_lt ?_ h
        exact Nat.le_trans (Nat.le_mul_of_pos_right _ (Nat.pow_pos (by decide)))
          (mul_pow_le_pushDigits _ digits)
      have pushed : Scaled.pushWhole ⟨n, 0⟩ digit = ⟨10 * n + digit, 0⟩ := by
        rw [Scaled.pushWhole, if_pos (by simpa using fits)]
      rw [List.foldl_cons, pushed]
      exact ih h

theorem foldl_pushWhole_lt (h : s.significand < 2 ^ 64) :
    (digits.foldl Scaled.pushWhole s).significand < 2 ^ 64 := by
  induction digits generalizing s with
  | nil => exact h
  | cons digit digits ih =>
      apply ih
      unfold Scaled.pushWhole
      split
      · rename_i fits
        exact (by simpa using fits : _ ∧ _).2
      · exact h

theorem pushFraction_lt (h : s.significand < 2 ^ 64) :
    (s.pushFraction digits).significand < 2 ^ 64 := by
  induction digits generalizing s with
  | nil => exact h
  | cons digit digits ih =>
      unfold Scaled.pushFraction
      split
      · rename_i fits
        exact ih fits
      · exact h

theorem pushFraction_le (s : Scaled) (digits : List Nat) : ∃ left ≤ digits.length,
    (s.pushFraction digits).exponent = s.exponent - digits.length + left ∧
      (s.pushFraction digits).significand * 10 ^ left ≤ pushDigits s.significand digits := by
  induction digits generalizing s with
  | nil =>
      refine ⟨0, Nat.le_refl _, ?_, ?_⟩
      · simp [Scaled.pushFraction]
      · simp [Scaled.pushFraction, pushDigits]
  | cons digit digits ih =>
      rw [List.length_cons]
      unfold Scaled.pushFraction
      split
      · obtain ⟨left, most, exponent, less⟩ := ih ⟨10 * s.significand + digit, s.exponent - 1⟩
        refine ⟨left, by omega, ?_, less⟩
        rw [exponent]
        dsimp only
        omega
      · refine ⟨digits.length + 1, Nat.le_refl _, ?_, mul_pow_le_pushDigits _ (digit :: digits)⟩
        omega

end

/-- Below this a number is a little below the largest double, in quarters of a unit. -/
def safe : Nat := (2 ^ 55 - 14) * 2 ^ 2045

theorem unscaled_le {significand : Nat} {exponent : Int} (small : significand < 2 ^ 64)
    (down : exponent ≤ 0) : significand * 10 ^ exponent.toNat * (4 * Binary64.one) ≤ safe := by
  have flat : exponent.toNat = 0 := by omega
  rw [flat, Nat.pow_zero, Nat.mul_one]
  exact Nat.le_trans (Nat.mul_le_mul_right _ (Nat.le_of_lt small)) (by decide +kernel)

theorem scaled_le {significand left total : Nat} {exponent place : Int}
    (small : significand < 2 ^ 64) (same : exponent = place + left)
    (less : significand * 10 ^ left ≤ total)
    (bound : total * 10 ^ place.toNat * (4 * Binary64.one) ≤ safe * 10 ^ (-place).toNat) :
    significand * 10 ^ exponent.toNat * (4 * Binary64.one) ≤ safe := by
  rcases Int.le_total exponent 0 with down | up
  · exact unscaled_le small down
  · have places : exponent.toNat + (-place).toNat = left + place.toNat := by omega
    have power : 0 < 10 ^ (-place).toNat := Nat.pow_pos (by decide)
    apply Nat.le_of_mul_le_mul_right _ power
    calc significand * 10 ^ exponent.toNat * (4 * Binary64.one) * 10 ^ (-place).toNat
      _ = significand * 10 ^ (exponent.toNat + (-place).toNat) * (4 * Binary64.one) := by
          rw [Nat.mul_right_comm, Nat.mul_assoc significand, ← Nat.pow_add]
      _ = significand * 10 ^ left * 10 ^ place.toNat * (4 * Binary64.one) := by
          rw [places, Nat.pow_add, ← Nat.mul_assoc significand]
      _ ≤ total * 10 ^ place.toNat * (4 * Binary64.one) :=
          Nat.mul_le_mul_right _ (Nat.mul_le_mul_right _ less)
      _ ≤ safe * 10 ^ (-place).toNat := bound

namespace Numeral

variable {negative minus : Bool} {whole digits size : List Nat} {fraction : Option (List Nat)}

/-- A number with a point and no exponent has a double if its whole part fits 64 bits. -/
theorem toNumber?_point (fits : pushDigits 0 whole < 2 ^ 64) :
    (toNumber? ⟨negative, whole, some digits, none⟩).isSome := by
  have exact_whole := foldl_pushWhole fits
  simp only [toNumber?, exact_whole, Option.getD_some, Option.isSome_map]
  apply Scaled.toBinary64?_isSome
  · exact pushFraction_lt fits
  · obtain ⟨left, most, exponent, less⟩ := pushFraction_le ⟨pushDigits 0 whole, 0⟩ digits
    apply unscaled_le (pushFraction_lt fits)
    rw [exponent]
    dsimp only
    omega

/-- A number with an exponent has a double if it is a little below the largest one. -/
theorem toNumber?_exponent {k : Int} {n : Nat} (fits : pushDigits 0 whole < 2 ^ 64)
    (same : pushDigits (pushDigits 0 whole) (fraction.getD []) = n)
    (place : (if minus then -(ofDigits size : Int) else ofDigits size) - (fraction.getD []).length = k)
    (low : minus = false → ofDigits size < 2 ^ 31)
    (bound : n * 10 ^ k.toNat * (4 * Binary64.one) ≤ safe * 10 ^ (-k).toNat) :
    (toNumber? ⟨negative, whole, fraction, some (minus, size)⟩).isSome := by
  have exact_whole := foldl_pushWhole fits
  have significand : ((Scaled.mk (pushDigits 0 whole) 0).pushFraction (fraction.getD [])).significand
      < 2 ^ 64 := pushFraction_lt fits
  obtain ⟨left, _, exponent, less⟩ := pushFraction_le ⟨pushDigits 0 whole, 0⟩ (fraction.getD [])
  simp only [toNumber?, exact_whole]
  by_cases small : ofDigits size < 2 ^ 31
  · simp only [if_pos small, Option.isSome_map]
    apply Scaled.toBinary64?_isSome
    · exact significand
    · refine scaled_le significand ?_ (same ▸ less) bound
      rw [exponent, ← place]
      cases minus <;> simp <;> omega
  · rw [if_neg small, if_pos]
    · rfl
    · cases minus with
      | true => simp
      | false => exact absurd (low rfl) small

end Numeral

end Draft
namespace Decimal

open Draft (digitValues pushDigits safe)

variable {d : Decimal}

/-- A decimal that is a little below the largest double. -/
def Safe (d : Decimal) : Prop :=
  d.digits * 10 ^ d.exponent.toNat * (4 * Binary64.one) ≤ safe * 10 ^ (-d.exponent).toNat

theorem Safe.point (h : d.Safe) (positive : d.digits ≠ 0) :
    (decimalDigits d.digits).length + d.exponent ≤ 309 := by
  refine Int.not_lt.1 fun beyond => ?_
  let count := (decimalDigits d.digits).length
  have least : 10 ^ (count - 1) ≤ d.digits := by
    refine Nat.not_lt.1 fun less => ?_
    rcases Nat.eq_zero_or_pos (count - 1) with none | some
    · rw [none] at less
      omega
    · have : count ≤ count - 1 := (Nat.length_toDigits_le_iff (by decide) some).2 less
      omega
  have some_digit : 0 < count := List.length_pos_iff.2 (decimalDigits_isDigits d.digits).1
  have far : 309 + (-d.exponent).toNat ≤ count - 1 + d.exponent.toNat := by omega
  have power : 10 ^ 309 * 10 ^ (-d.exponent).toNat ≤ d.digits * 10 ^ d.exponent.toNat := by
    rw [← Nat.pow_add]
    refine Nat.le_trans ?_ (Nat.mul_le_mul_right _ least)
    rw [← Nat.pow_add]
    exact Nat.pow_le_pow_right (by decide) far
  have large := Nat.le_trans (Nat.mul_le_mul_right (4 * Binary64.one) power) h
  rw [Nat.mul_right_comm] at large
  exact absurd (Nat.le_of_mul_le_mul_right large (Nat.pow_pos (by decide))) (by decide +kernel)

theorem Safe.toNumber? (h : d.Safe) (zero : d.digits = 0 → d.exponent = 0) (negative : Bool) :
    (d.spelling.numeral negative).toNumber?.isSome := by
  have digits := decimalDigits_isDigits d.digits
  have fits {text : List Char} (all : ∀ c ∈ text, c.isDigit = true) (short : text.length ≤ 16) :
      pushDigits 0 (digitValues text) < 2 ^ 64 :=
    Nat.lt_of_lt_of_le (Draft.pushDigits_lt 0 all)
      (Nat.le_trans (Nat.mul_le_mul_left _ (Nat.pow_le_pow_right (by decide) short)) (by decide))
  unfold spelling
  dsimp only
  split
  · apply Draft.Numeral.toNumber?_point
    apply fits (digits.append_zeros _).2
    rw [List.length_append, List.length_replicate]
    omega
  · split
    · apply Draft.Numeral.toNumber?_point
      apply fits fun c member => digits.2 c (List.mem_of_mem_take member)
      rw [List.length_take]
      omega
    · split
      · apply Draft.Numeral.toNumber?_point
        exact fits (Spelling.IsDigits.single (by decide)).2 (by simp)
      · rename_i far _ near
        have fraction : ((if (decimalDigits d.digits).length = 1 then none
            else some ((decimalDigits d.digits).drop 1)).map digitValues).getD [] =
              digitValues ((decimalDigits d.digits).drop 1) := by
          split
          · rename_i single
            rw [List.drop_eq_nil_of_le (by omega)]
            rfl
          · rfl
        have some_digit : 0 < (decimalDigits d.digits).length := List.length_pos_iff.2 digits.1
        apply Draft.Numeral.toNumber?_exponent (k := d.exponent) (n := d.digits)
        · refine fits (fun c member => digits.2 c (List.mem_of_mem_take member)) ?_
          exact Nat.le_trans (List.length_take_le 1 _) (by decide)
        · rw [fraction, ← Draft.pushDigits_append, digitValues, digitValues, ← List.map_append,
            List.take_append_drop]
          exact ofDigits_decimalDigits d.digits
        · rw [fraction, ofDigits_decimalDigits]
          simp only [digitValues, List.length_map, List.length_drop, decide_eq_true_eq]
          split <;> omega
        · intro up
          rw [ofDigits_decimalDigits]
          rw [decide_eq_false_iff_not] at up
          by_cases none : d.digits = 0
          · have single : (decimalDigits d.digits).length = 1 := by
              rw [none, decimalDigits_zero]
              rfl
            have flat := zero none
            omega
          · have := h.point none
            omega
        · exact h

end Decimal
namespace Binary64

/-- The three largest doubles, whose texts are read digit by digit. -/
theorem largest_toNumber? : ∀ (sign negative : Bool) (back : Fin 3),
    ∀ x ∈ ofParts? sign (2 ^ 53 - 1 - back) 2045,
      (x.shortest.spelling.numeral negative).toNumber?.isSome := by
  decide +kernel

/-- All others are a little below them. -/
theorem interval_le_safe {x : Binary64} (h : x.shift < 2045 ∨ x.mantissa ≤ 2 ^ 53 - 4) :
    (4 * x.mantissa + 2) * 2 ^ x.shift ≤ Draft.safe := by
  obtain ⟨bits, range, _⟩ := x.normal
  have power {most : Nat} (less : x.shift ≤ most) : 2 ^ x.shift ≤ 2 ^ most :=
    Nat.pow_le_pow_right (by decide) less
  rcases h with shift | mantissa
  · have less : 4 * x.mantissa + 2 ≤ 2 ^ 55 := by omega
    exact Nat.le_trans (Nat.mul_le_mul less (power (Nat.le_of_lt_succ shift))) (by decide +kernel)
  · have less : 4 * x.mantissa + 2 ≤ 2 ^ 55 - 14 := by omega
    exact Nat.mul_le_mul less (power range)

theorem shortest_toNumber? (x : Binary64) (negative : Bool) :
    (x.shortest.spelling.numeral negative).toNumber?.isSome := by
  by_cases below : x.shift < 2045 ∨ x.mantissa ≤ 2 ^ 53 - 4
  · have safe : x.shortest.Safe := by
      refine Nat.le_trans ?_ (Nat.mul_le_mul_right _ (interval_le_safe below))
      rw [Nat.mul_assoc, Nat.mul_comm (10 ^ _)]
      exact x.shortest_le
    exact safe.toNumber? shortest_of_digits negative
  · obtain ⟨bits, range, _⟩ := x.normal
    have parts : ofParts? x.negative (2 ^ 53 - 1 - (2 ^ 53 - 1 - x.mantissa)) 2045 = some x := by
      have mantissa : 2 ^ 53 - 1 - (2 ^ 53 - 1 - x.mantissa) = x.mantissa := by omega
      have shift : 2045 = x.shift := by omega
      rw [mantissa, shift, ofParts?, dif_pos x.normal]
    exact largest_toNumber? x.negative negative ⟨2 ^ 53 - 1 - x.mantissa, by omega⟩ x parts

end Binary64
/-! ## Numbers -/

namespace Number

/-- Integers have 64 bits. -/
def Fits : Number → Prop
  | integer value => -2 ^ 63 ≤ value ∧ value < 2 ^ 64
  | float _ => True

instance (n : Number) : Decidable n.Fits :=
  match n with
  | .integer value => inferInstanceAs (Decidable (-2 ^ 63 ≤ value ∧ value < 2 ^ 64))
  | .float _ => isTrue trivial

def isNegative : Number → Bool
  | integer value => value < 0
  | float value => value.negative

def spelling : Number → Spelling
  | integer value => ⟨decimalDigits value.natAbs, none, none⟩
  | float value => value.shortest.spelling

/-- What a scan makes of the text of a number. -/
def numeral (n : Number) : Draft.Numeral := n.spelling.numeral n.isNegative

theorem chars_spelling (n : Number) :
    n.chars = (if n.isNegative then ['-'] else []) ++ n.spelling.chars := by
  cases n with
  | integer value => simp [chars, isNegative, spelling, Spelling.chars]
  | float value =>
      rw [spelling, Decimal.chars_spelling]
      rfl

theorem spelling_proper (n : Number) : n.spelling.Proper := by
  cases n with
  | integer value =>
      refine ⟨decimalDigits_isDigits _, fun front => ?_, nofun, nofun⟩
      rw [spelling, head?_decimalDigits front, decimalDigits_zero]
      rfl
  | float value => exact Decimal.spelling_proper Binary64.shortest_of_digits

variable {n : Number} {rest : List Char}

theorem head_spelling (n : Number) : ∃ c more, n.spelling.chars = c :: more ∧ c.isDigit = true := by
  obtain ⟨some_digit, all⟩ := n.spelling_proper.whole
  obtain ⟨c, more, parts⟩ := List.exists_cons_of_ne_nil some_digit
  exact ⟨c, _, by rw [Spelling.chars, parts]; rfl, all c (parts ▸ List.mem_cons_self)⟩

theorem head_chars (n : Number) : ∃ c more, n.chars = c :: more ∧ (c = '-' ∨ c.isDigit = true) := by
  rw [chars_spelling]
  cases n.isNegative with
  | true => exact ⟨'-', n.spelling.chars, rfl, .inl rfl⟩
  | false =>
      obtain ⟨c, more, parts, digit⟩ := n.head_spelling
      exact ⟨c, more, parts, .inr digit⟩

theorem scanNumber_chars (n : Number) (stops : Stops rest) :
    Draft.scanNumber (n.chars ++ rest) = some (n.numeral, rest) := by
  have scanned (negative : Bool) :
      Draft.scanUnsigned negative (n.spelling.chars ++ rest) = some (n.spelling.numeral negative, rest) :=
    Draft.scanUnsigned_append n.spelling_proper stops
  obtain ⟨c, more, parts, digit⟩ := n.head_spelling
  rw [chars_spelling, numeral]
  cases n.isNegative with
  | true => exact scanned true
  | false =>
      have unsigned : c ≠ '-' := by
        rintro rfl
        cases digit
      have head := scanned false
      rw [parts] at head
      rw [parts, if_neg (by decide), List.nil_append, List.cons_append, Draft.scanNumber]
      · exact head
      · rintro _ ⟨⟩
        exact unsigned rfl

/-- The number that its text is read as: an integer is itself, a double perhaps another one. -/
def reread (n : Number) : Number := n.numeral.toNumber?.getD n

theorem toNumber?_integer {value : Int} (h : Fits (.integer value)) :
    (numeral (.integer value)).toNumber? = some (.integer value) := by
  obtain ⟨low, high⟩ := h
  have digits : Draft.pushDigits 0 (Draft.digitValues (decimalDigits value.natAbs)) = value.natAbs :=
    ofDigits_decimalDigits _
  have exact_whole := Draft.foldl_pushWhole (n := 0)
    (show Draft.pushDigits 0 (Draft.digitValues (decimalDigits value.natAbs)) < 2 ^ 64 by omega)
  simp only [numeral, spelling, Spelling.numeral, isNegative, Draft.Numeral.toNumber?, Option.map_none,
    exact_whole, digits]
  rcases Int.lt_or_le value 0 with below | above
  · have sign : -(value.natAbs : Int) = value := by omega
    rw [if_neg (by simp [below]), if_pos (by simp; omega), sign]
  · have sign : (value.natAbs : Int) = value := by omega
    simp [Int.not_lt.2 above, sign]

theorem toNumber?_numeral (h : n.Fits) : n.numeral.toNumber? = some n.reread := by
  have found : n.numeral.toNumber?.isSome := by
    cases n with
    | integer value =>
        rw [toNumber?_integer h]
        rfl
    | float value => exact value.shortest_toNumber? value.negative
  obtain ⟨read, same⟩ := Option.isSome_iff_exists.1 found
  rw [reread, same]
  rfl

theorem reread_integer {value : Int} (h : Fits (.integer value)) :
    reread (.integer value) = .integer value := by
  rw [reread, toNumber?_integer h]
  rfl

end Number

theorem Draft.Numeral.fits_of_toNumber? {numeral : Draft.Numeral} {n : Number}
    (h : numeral.toNumber? = some n) : n.Fits := by
  have small : (numeral.whole.foldl Draft.Scaled.pushWhole ⟨0, 0⟩).significand < 2 ^ 64 :=
    Draft.foldl_pushWhole_lt (by decide)
  unfold toNumber? at h
  dsimp only at h
  split at h
  · split at h
    · cases h
      exact ⟨by omega, by omega⟩
    · split at h
      · rename_i signed
        cases h
        simp only [Bool.and_eq_true, decide_eq_true_eq] at signed
        exact ⟨by omega, by omega⟩
      · obtain ⟨_, _, rfl⟩ := Option.map_eq_some_iff.1 h
        trivial
  · obtain ⟨_, _, rfl⟩ := Option.map_eq_some_iff.1 h
    trivial
  · split at h
    · obtain ⟨_, _, rfl⟩ := Option.map_eq_some_iff.1 h
      trivial
    · split at h
      · cases h
        trivial
      · cases h

end Brokerage
