import Brokerage.Json.Draft
import Brokerage.Number.Shortest

/-! # What rounds to a double

Rounding moves a fraction by half a place at most, so that everything below the middle between the
largest double and the next power of two has a double. The shortest decimal of a double lies between
the ends of what rounds to it.
-/

namespace Brokerage

section Rounding

variable {num den : Nat}

theorem roundHalfEven_le (pos : 0 < den) : 2 * (den * roundHalfEven num den) ≤ 2 * num + den := by
  have split := Nat.div_add_mod num den
  have small := Nat.mod_lt num pos
  simp only [roundHalfEven]
  split
  · rename_i up
    have half : den ≤ 2 * (num % den) := by
      simp only [Bool.or_eq_true, Bool.and_eq_true, decide_eq_true_eq] at up
      omega
    rw [Nat.mul_add]
    omega
  · omega

theorem le_roundHalfEven (pos : 0 < den) : 2 * num ≤ 2 * (den * roundHalfEven num den) + den := by
  have split := Nat.div_add_mod num den
  have small := Nat.mod_lt num pos
  simp only [roundHalfEven]
  split
  · rw [Nat.mul_add]
    omega
  · rename_i down
    have half : 2 * (num % den) ≤ den := by
      simp only [Bool.or_eq_true, Bool.and_eq_true, decide_eq_true_eq, not_or] at down
      omega
    omega

theorem roundHalfEven_le_of_le {n : Nat} (pos : 0 < den) (h : num ≤ n * den) :
    roundHalfEven num den ≤ n := by
  have most : 2 * (den * roundHalfEven num den) ≤ 2 * num + den := roundHalfEven_le pos
  refine Nat.not_lt.1 fun more => ?_
  have := Nat.mul_le_mul_left den more
  rw [Nat.mul_succ, Nat.mul_comm den n] at this
  omega

theorem le_roundHalfEven_of_le {n : Nat} (pos : 0 < den) (h : n * den ≤ num) :
    n ≤ roundHalfEven num den := by
  have least : 2 * num ≤ 2 * (den * roundHalfEven num den) + den := le_roundHalfEven pos
  refine Nat.not_lt.1 fun less => ?_
  have := Nat.mul_le_mul_left den less
  rw [Nat.mul_succ, Nat.mul_comm den n] at this
  omega

theorem roundHalfEven_one (n : Nat) : roundHalfEven n 1 = n := by
  simp [roundHalfEven, Nat.mod_one]

end Rounding

namespace Binary64

/-- The middle between the largest double and the next power of two, in units. -/
def ceiling : Nat := (2 ^ 54 - 1) * 2 ^ 2044

theorem two_ceiling : 2 * ceiling + 2 ^ 2045 = 2 ^ 54 * 2 ^ 2045 := by decide +kernel

theorem one_pos : 0 < one := by decide +kernel

section

variable {negative : Bool} {num den : Nat} {x y : Binary64}

/-- The places that rounding cuts off. -/
def cutOff (whole : Nat) : Nat := if whole < 2 ^ 53 then 0 else whole.log2 - 52

theorem lt_cutOff (whole : Nat) : whole < 2 ^ 53 * 2 ^ cutOff whole := by
  unfold cutOff
  split
  · omega
  · rename_i large
    have bits : 52 < whole.log2 := (Nat.le_log2 (by omega)).2 (Nat.not_lt.1 large)
    rw [← Nat.pow_add, show 53 + (whole.log2 - 52) = whole.log2 + 1 by omega]
    exact Nat.lt_log2_self

theorem cutOff_le (whole : Nat) : cutOff whole = 0 ∨ 2 ^ 52 * 2 ^ cutOff whole ≤ whole := by
  unfold cutOff
  split
  · exact .inl rfl
  · rename_i large
    have bits : 52 < whole.log2 := (Nat.le_log2 (by omega)).2 (Nat.not_lt.1 large)
    right
    rw [← Nat.pow_add, show 52 + (whole.log2 - 52) = whole.log2 by omega]
    exact Nat.log2_self_le (by omega)

/-- A mantissa of one bit too many is halved. -/
theorem ofUnits?_eq : ofUnits? negative num den =
    let shift := cutOff (num / den)
    let mantissa := roundHalfEven num (den * 2 ^ shift)
    if mantissa = 2 ^ 53 then ofParts? negative (2 ^ 52) (shift + 1)
    else ofParts? negative mantissa shift := rfl

theorem ofParts?_eq_some {mantissa shift : Nat} (h : ofParts? negative mantissa shift = some x) :
    x.mantissa = mantissa ∧ x.shift = shift ∧ x.negative = negative := by
  unfold ofParts? at h
  split at h
  · cases h
    exact ⟨rfl, rfl, rfl⟩
  · cases h

theorem units_ofUnits? (h : ofUnits? negative num den = some x) :
    x.units = roundHalfEven num (den * 2 ^ cutOff (num / den)) * 2 ^ cutOff (num / den) := by
  rw [ofUnits?_eq] at h
  dsimp only at h
  split at h
  · rename_i full
    obtain ⟨mantissa, shift, _⟩ := ofParts?_eq_some h
    rw [units, mantissa, shift, full, ← Nat.pow_add, ← Nat.pow_add]
    congr 1
    omega
  · obtain ⟨mantissa, shift, _⟩ := ofParts?_eq_some h
    rw [units, mantissa, shift]

/-- Below the middle at most 2045 places are cut off. -/
theorem cutOff_le_of_lt (pos : 0 < den) (h : num < ceiling * den) : cutOff (num / den) ≤ 2045 := by
  rcases cutOff_le (num / den) with none | bits
  · omega
  · have whole : num / den < ceiling := (Nat.div_lt_iff_lt_mul pos).2 h
    have power : 2 ^ (52 + cutOff (num / den)) < 2 ^ 2098 := by
      rw [Nat.pow_add]
      exact Nat.lt_of_le_of_lt bits (Nat.lt_trans whole (by decide +kernel))
    have bound := (Nat.pow_lt_pow_iff_right (by decide)).1 power
    omega

theorem ofUnits?_isSome (pos : 0 < den) (h : num < ceiling * den) :
    (ofUnits? negative num den).isSome := by
  have most := cutOff_le_of_lt pos h
  have upper := (Nat.div_lt_iff_lt_mul pos).1 (lt_cutOff (num / den))
  have lower := (cutOff_le (num / den)).imp_right (Nat.le_div_iff_mul_le pos).1
  rw [ofUnits?_eq]
  generalize cutOff (num / den) = shift at *
  rw [Nat.mul_assoc, Nat.mul_comm (2 ^ shift)] at upper lower
  have part : 0 < den * 2 ^ shift := Nat.mul_pos pos (Nat.two_pow_pos shift)
  have bits := roundHalfEven_le_of_le part (Nat.le_of_lt upper)
  have first := lower.imp_right (le_roundHalfEven_of_le part)
  dsimp only
  split
  · rename_i full
    have room : shift ≠ 2045 := by
      intro top
      have down : 2 * (den * 2 ^ shift * roundHalfEven num (den * 2 ^ shift)) ≤
          2 * num + den * 2 ^ shift := roundHalfEven_le part
      have double : 2 * (ceiling * den) + den * 2 ^ shift ≤ 2 ^ 54 * (den * 2 ^ shift) := by
        refine Nat.le_of_eq ?_
        calc 2 * (ceiling * den) + den * 2 ^ shift
          _ = den * (2 * ceiling + 2 ^ shift) := by
              rw [Nat.mul_add, Nat.mul_left_comm den, Nat.mul_comm den ceiling]
          _ = 2 ^ 54 * (den * 2 ^ shift) := by rw [top, two_ceiling, Nat.mul_left_comm]
      rw [full] at down
      omega
    have normal : 2 ^ 52 < 2 ^ 53 ∧ shift + 1 ≤ 2045 ∧ (shift + 1 = 0 ∨ 2 ^ 52 ≤ 2 ^ 52) :=
      ⟨by decide, by omega, .inr (Nat.le_refl _)⟩
    rw [ofParts?, dif_pos normal]
    rfl
  · rename_i fits
    rw [ofParts?, dif_pos ⟨Nat.lt_of_le_of_ne bits fits, most, first⟩]
    rfl

theorem units_le_of_whole {n : Nat} (h : ofUnits? negative n 1 = some x) :
    2 ^ 53 * x.units ≤ (2 ^ 53 + 1) * n := by
  rw [units_ofUnits? h, Nat.div_one, Nat.one_mul]
  rcases cutOff_le n with none | bits
  · rw [none, Nat.pow_zero, roundHalfEven_one]
    omega
  · have most : 2 * (2 ^ cutOff n * roundHalfEven n (2 ^ cutOff n)) ≤ 2 * n + 2 ^ cutOff n :=
      roundHalfEven_le (Nat.two_pow_pos (cutOff n))
    rw [Nat.mul_comm (roundHalfEven _ _)]
    omega

theorem one_le_units {n : Nat} (h : ofUnits? negative n 1 = some x) (large : one ≤ n) :
    one ≤ x.units := by
  rw [units_ofUnits? h, Nat.div_one, Nat.one_mul]
  have part := Nat.two_pow_pos (cutOff n)
  generalize places : 1074 = bits
  have power : one = 2 ^ bits := by rw [← places]; rfl
  rw [power] at large ⊢
  rcases Nat.le_total (cutOff n) bits with few | many
  · have point : 2 ^ (bits - cutOff n) * 2 ^ cutOff n = 2 ^ bits := by
      rw [← Nat.pow_add, Nat.sub_add_cancel few]
    rw [← point] at large ⊢
    exact Nat.mul_le_mul_right _ (le_roundHalfEven_of_le part large)
  · rcases cutOff_le n with none | first
    · omega
    · have bits := le_roundHalfEven_of_le part first
      exact Nat.le_trans (Nat.pow_le_pow_right (by decide) many)
        (Nat.le_mul_of_pos_left _ (Nat.lt_of_lt_of_le (by decide) bits))

theorem units_lt_ceiling (x : Binary64) : x.units < ceiling := by
  have power : 2 ^ x.shift ≤ 2 ^ 2045 := by
    apply Nat.pow_le_pow_right
    · decide
    · exact x.normal.2.1
  have bound : x.units ≤ (2 ^ 53 - 1) * 2 ^ 2045 :=
    Nat.mul_le_mul (Nat.le_pred_of_lt x.normal.1) power
  exact Nat.lt_of_le_of_lt bound (by decide +kernel)

theorem mul?_isSome (h : x.units * y.units < ceiling * one) : (x.mul? y).isSome :=
  ofUnits?_isSome one_pos h

theorem div?_isSome (h : one ≤ y.units) : (x.div? y).isSome := by
  have some_unit : 0 < y.units := Nat.lt_of_lt_of_le one_pos h
  have not_zero : y.isZero = false := by
    have : y.mantissa ≠ 0 := fun zero => by simp [units, zero] at some_unit
    simpa [isZero] using this
  rw [div?, not_zero, if_neg (by decide)]
  apply ofUnits?_isSome some_unit
  exact Nat.lt_of_le_of_lt (Nat.mul_le_mul_left _ h)
    (Nat.mul_lt_mul_of_pos_right x.units_lt_ceiling some_unit)

theorem ofRatio?_isSome {n : Nat} (h : n * one < ceiling) : (ofRatio? negative n 1).isSome :=
  ofUnits?_isSome (by decide) (by rwa [Nat.mul_one])

theorem tenTo?_some {exponent : Nat} (h : exponent ≤ 308) : ∃ ten, tenTo? exponent = some ten ∧
    one ≤ ten.units ∧ 2 ^ 53 * ten.units ≤ (2 ^ 53 + 1) * (10 ^ exponent * one) := by
  have small : 10 ^ exponent * one < ceiling :=
    Nat.lt_of_le_of_lt (Nat.mul_le_mul_right _ (Nat.pow_le_pow_right (by decide) h))
      (by decide +kernel)
  have inside : (ofRatio? false (10 ^ exponent) 1).isSome := ofRatio?_isSome small
  obtain ⟨ten, found⟩ := Option.isSome_iff_exists.1 inside
  have large : one ≤ 10 ^ exponent * one := Nat.le_mul_of_pos_left _ (Nat.pow_pos (by decide))
  exact ⟨ten, found, one_le_units found large, units_le_of_whole found⟩

end

/-! ## The shortest decimal -/

section

variable {x : Binary64} {k : Int} {n part point : Nat}

/-- The lower end is at least a quarter of a unit below the double, but not below zero. -/
theorem roundingEnds_low (x : Binary64) (positive : x.mantissa ≠ 0) :
    0 < x.roundingEnds.1 ∧ x.roundingEnds.1 + 2 ^ x.shift ≤ 4 * x.mantissa * 2 ^ x.shift := by
  obtain ⟨low, least, most, same⟩ : ∃ low, 1 ≤ low ∧ low + 1 ≤ 4 * x.mantissa ∧
      x.roundingEnds.1 = low * 2 ^ x.shift := by
    unfold roundingEnds
    split
    · exact ⟨_, by omega, by omega, rfl⟩
    · exact ⟨_, by omega, by omega, rfl⟩
  rw [same]
  constructor
  · exact Nat.mul_pos least (Nat.two_pow_pos _)
  · rw [← Nat.succ_mul]
    exact Nat.mul_le_mul_right _ most

theorem rounds_eq : x.rounds part point =
    if x.mantissa % 2 = 0 then
      decide (x.roundingEnds.1 * part ≤ point) && decide (point ≤ x.roundingEnds.2 * part)
    else decide (x.roundingEnds.1 * part < point) && decide (point < x.roundingEnds.2 * part) := rfl

theorem bounds_of_rounds (h : x.rounds part point = true) :
    x.roundingEnds.1 * part ≤ point ∧ point ≤ x.roundingEnds.2 * part := by
  rw [rounds_eq] at h
  split at h
  · simpa using h
  · simp only [Bool.and_eq_true, decide_eq_true_eq] at h
    exact h.imp Nat.le_of_lt Nat.le_of_lt

theorem rounds_of_between (low : x.roundingEnds.1 * part < point)
    (high : point < x.roundingEnds.2 * part) : x.rounds part point = true := by
  rw [rounds_eq]
  split
  · simpa using ⟨Nat.le_of_lt low, Nat.le_of_lt high⟩
  · simpa using ⟨low, high⟩

theorem onGrid?_rounds (h : x.onGrid? k = some n) :
    x.rounds (10 ^ (-k).toNat) (n * (4 * one * 10 ^ k.toNat)) = true := by
  unfold onGrid? at h
  dsimp only at h
  split at h
  · rename_i both
    simp only [Bool.and_eq_true] at both
    simp only [Option.some.injEq] at h
    split at h
    · exact h ▸ both.1
    · split at h
      · exact h ▸ both.2
      · split at h
        · exact h ▸ both.1
        · exact h ▸ both.2
  · split at h
    · cases h
      assumption
    · split at h
      · cases h
        assumption
      · cases h

/-- On a grid that is no wider than a quarter of a unit, the point below a double rounds to it. -/
theorem rounds_below {grid : Nat} (positive : x.mantissa ≠ 0) (some_part : 0 < part)
    (some_grid : 0 < grid) (fine : grid ≤ 2 ^ x.shift * part) :
    x.rounds part (4 * x.units * part / grid * grid) = true := by
  have exact_eq : 4 * x.units * part = 4 * x.mantissa * 2 ^ x.shift * part := by
    rw [units, ← Nat.mul_assoc]
  have split := Nat.div_add_mod' (4 * x.units * part) grid
  have rest := Nat.mod_lt (4 * x.units * part) some_grid
  apply rounds_of_between
  · have narrow := Nat.mul_le_mul_right part (roundingEnds_low x positive).2
    rw [← exact_eq, Nat.add_mul] at narrow
    omega
  · have wide : 4 * x.mantissa * 2 ^ x.shift < x.roundingEnds.2 :=
      Nat.mul_lt_mul_of_pos_right (by omega) (Nat.two_pow_pos _)
    have wide := Nat.mul_lt_mul_of_pos_right wide some_part
    rw [← exact_eq] at wide
    omega

/-- A grid that is no wider than a quarter of a unit has a point for the double. -/
theorem onGrid?_isSome (positive : x.mantissa ≠ 0)
    (fine : 4 * one * 10 ^ k.toNat ≤ 2 ^ x.shift * 10 ^ (-k).toNat) : (x.onGrid? k).isSome := by
  have some_grid : 0 < 4 * one * 10 ^ k.toNat :=
    Nat.mul_pos (Nat.mul_pos (by decide) one_pos) (Nat.pow_pos (by decide))
  have below := rounds_below positive (Nat.pow_pos (by decide)) some_grid fine
  simp only [onGrid?, below]
  split <;> simp

theorem searchGrid_onGrid? {steps : Nat} (h : (x.onGrid? (k - steps)).isSome) :
    x.onGrid? (x.searchGrid steps k).exponent = some (x.searchGrid steps k).digits := by
  induction steps generalizing k with
  | zero =>
      rw [Int.natCast_zero, Int.sub_zero] at h
      obtain ⟨n, found⟩ := Option.isSome_iff_exists.1 h
      simp [searchGrid, found]
  | succ steps ih =>
      cases found : x.onGrid? k with
      | some n => simp [searchGrid, found]
      | none =>
          have later : k - (steps + 1 : Nat) = k - 1 - steps := by omega
          simp only [searchGrid, found]
          exact ih (later ▸ h)

theorem log2_units (x : Binary64) (positive : x.mantissa ≠ 0) : x.units.log2 ≤ 52 + x.shift := by
  have bits : x.units < 2 ^ (53 + x.shift) := by
    rw [Nat.pow_add]
    exact Nat.mul_lt_mul_of_pos_right x.normal.1 (Nat.two_pow_pos _)
  have some_unit : x.units ≠ 0 := Nat.mul_ne_zero positive (Nat.ne_of_gt (Nat.two_pow_pos _))
  have := (Nat.log2_lt some_unit).2 bits
  omega

/-- The search goes down to a grid that is no wider than a quarter of a unit. -/
theorem topExponent_fine (positive : x.mantissa ≠ 0) (last : k = x.topExponent - 25) :
    4 * one * 10 ^ k.toNat ≤ 2 ^ x.shift * 10 ^ (-k).toNat := by
  have length := log2_units x positive
  have range := x.normal.2.1
  have place : 100000 * (k + 23) ≤ 30103 * (x.shift - 1022 : Int) := by
    unfold topExponent at last
    omega
  have quarter : 4 * one = 2 ^ 1076 := by decide +kernel
  generalize places : 1076 = bits at quarter
  rw [quarter]
  rcases Int.le_total 0 k with up | down
  · have flat : (-k).toNat = 0 := by omega
    rw [flat, Nat.pow_zero, Nat.mul_one]
    apply (Nat.pow_le_pow_iff_left (show 3 ≠ 0 by decide)).1
    -- a thousand is less than the tenth power of two
    calc (2 ^ bits * 10 ^ k.toNat) ^ 3
      _ = 2 ^ (bits * 3) * (10 ^ 3) ^ k.toNat := by
          rw [Nat.mul_pow, ← Nat.pow_mul, ← Nat.pow_mul, ← Nat.pow_mul, Nat.mul_comm k.toNat]
      _ ≤ 2 ^ (bits * 3) * (2 ^ 10) ^ k.toNat :=
          Nat.mul_le_mul_left _ (Nat.pow_le_pow_left (by decide) _)
      _ = 2 ^ (bits * 3 + 10 * k.toNat) := by rw [← Nat.pow_mul, ← Nat.pow_add]
      _ ≤ 2 ^ (x.shift * 3) := Nat.pow_le_pow_right (by decide) (by omega)
      _ = (2 ^ x.shift) ^ 3 := Nat.pow_mul ..
  · have flat : k.toNat = 0 := by omega
    rw [flat, Nat.pow_zero, Nat.mul_one]
    apply (Nat.pow_le_pow_iff_left (show 28 ≠ 0 by decide)).1
    -- the 28th power of ten is more than the 93rd power of two
    calc (2 ^ bits) ^ 28
      _ = 2 ^ (bits * 28) := by rw [Nat.pow_mul]
      _ ≤ 2 ^ (x.shift * 28 + 93 * (-k).toNat) := Nat.pow_le_pow_right (by decide) (by omega)
      _ = 2 ^ (x.shift * 28) * (2 ^ 93) ^ (-k).toNat := by rw [Nat.pow_add, Nat.pow_mul 2 93]
      _ ≤ 2 ^ (x.shift * 28) * (10 ^ 28) ^ (-k).toNat :=
          Nat.mul_le_mul_left _ (Nat.pow_le_pow_left (by decide) _)
      _ = (2 ^ x.shift * 10 ^ (-k).toNat) ^ 28 := by
          rw [Nat.mul_pow, ← Nat.pow_mul, ← Nat.pow_mul, ← Nat.pow_mul, Nat.mul_comm (-k).toNat]

/-- The shortest decimal of a double that is not zero is a point of its grid. -/
theorem shortest_onGrid? (positive : x.mantissa ≠ 0) :
    x.onGrid? x.shortest.exponent = some x.shortest.digits := by
  have not_zero : x.isZero = false := by simpa [isZero] using positive
  rw [shortest, not_zero, if_neg (by decide)]
  exact searchGrid_onGrid? (onGrid?_isSome positive (topExponent_fine positive rfl))

/-- The shortest decimal does not lie above what rounds to the double. -/
theorem shortest_le (x : Binary64) :
    x.shortest.digits * (4 * one * 10 ^ x.shortest.exponent.toNat) ≤
      (4 * x.mantissa + 2) * 2 ^ x.shift * 10 ^ (-x.shortest.exponent).toNat := by
  by_cases zero : x.mantissa = 0
  · have is_zero : x.isZero = true := by simpa [isZero] using zero
    simp [shortest, is_zero]
  · exact (bounds_of_rounds (onGrid?_rounds (shortest_onGrid? zero))).2

/-- Only zero has a decimal without digits, which has no exponent. -/
theorem shortest_of_digits (h : x.shortest.digits = 0) : x.shortest.exponent = 0 := by
  by_cases zero : x.mantissa = 0
  · have is_zero : x.isZero = true := by simpa [isZero] using zero
    simp [shortest, is_zero]
  · have point := (bounds_of_rounds (onGrid?_rounds (shortest_onGrid? zero))).1
    have low := Nat.mul_pos (roundingEnds_low x zero).1 (Nat.pow_pos (n := (-x.shortest.exponent).toNat)
      (show 0 < 10 by decide))
    rw [h, Nat.zero_mul] at point
    omega

end

end Binary64

/-! ## Scaled significands -/

namespace Draft

theorem scaleDown_isSome (steps : Nat) (value : Binary64) (exponent : Nat) :
    (scaleDown steps value exponent).isSome := by
  induction steps generalizing value exponent with
  | zero => rfl
  | succ steps ih =>
      unfold scaleDown
      split
      · rename_i last
        obtain ⟨ten, found, large, _⟩ := Binary64.tenTo?_some last
        rw [found]
        exact Binary64.div?_isSome large
      · split
        · rfl
        · obtain ⟨ten, found, large, _⟩ := Binary64.tenTo?_some (Nat.le_refl 308)
          have divided : (value.div? ten).isSome := Binary64.div?_isSome large
          obtain ⟨less, divided⟩ := Option.isSome_iff_exists.1 divided
          rw [found, Option.bind_eq_bind, Option.bind_some, divided]
          exact ih less (exponent - 308)

/-- A product of rounded factors is in range if the exact one is a little below the largest
double. -/
theorem product_lt {n exponent : Nat} {x ten : Binary64}
    (hx : 2 ^ 53 * x.units ≤ (2 ^ 53 + 1) * (n * Binary64.one))
    (hten : 2 ^ 53 * ten.units ≤ (2 ^ 53 + 1) * (10 ^ exponent * Binary64.one))
    (bound : n * 10 ^ exponent * (4 * Binary64.one) ≤ (2 ^ 55 - 14) * 2 ^ 2045) :
    x.units * ten.units < Binary64.ceiling * Binary64.one := by
  have room : (2 ^ 53 + 1) ^ 2 * ((2 ^ 55 - 14) * 2 ^ 2045) < 4 * (2 ^ 53) ^ 2 * Binary64.ceiling := by
    decide +kernel
  have one_pos := Binary64.one_pos
  generalize Binary64.one = one at *
  generalize (2 ^ 55 - 14) * 2 ^ 2045 = most at *
  generalize Binary64.ceiling = high at *
  apply Nat.lt_of_mul_lt_mul_left (a := 4 * (2 ^ 53) ^ 2)
  calc 4 * (2 ^ 53) ^ 2 * (x.units * ten.units)
    _ = 4 * (2 ^ 53 * x.units * (2 ^ 53 * ten.units)) := by
        rw [Nat.pow_two]
        ac_rfl
    _ ≤ 4 * ((2 ^ 53 + 1) * (n * one) * ((2 ^ 53 + 1) * (10 ^ exponent * one))) :=
        Nat.mul_le_mul_left _ (Nat.mul_le_mul hx hten)
    _ = (2 ^ 53 + 1) ^ 2 * (n * 10 ^ exponent * (4 * one)) * one := by
        rw [Nat.pow_two]
        ac_rfl
    _ ≤ (2 ^ 53 + 1) ^ 2 * most * one :=
        Nat.mul_le_mul_right _ (Nat.mul_le_mul_left _ bound)
    _ < 4 * (2 ^ 53) ^ 2 * high * one := Nat.mul_lt_mul_of_pos_right room one_pos
    _ = 4 * (2 ^ 53) ^ 2 * (high * one) := Nat.mul_assoc ..

/-- A significand that is scaled to a number a little below the largest double has a double. -/
theorem Scaled.toBinary64?_isSome {s : Scaled} (small : s.significand < 2 ^ 64)
    (bound : s.significand * 10 ^ s.exponent.toNat * (4 * Binary64.one) ≤ (2 ^ 55 - 14) * 2 ^ 2045) :
    s.toBinary64?.isSome := by
  have inside : s.significand * Binary64.one < Binary64.ceiling :=
    Nat.lt_of_lt_of_le (Nat.mul_lt_mul_of_pos_right small Binary64.one_pos) (by decide +kernel)
  have rounded : (Binary64.ofRatio? false s.significand 1).isSome := Binary64.ofRatio?_isSome inside
  obtain ⟨value, found⟩ := Option.isSome_iff_exists.1 rounded
  simp only [toBinary64?, found, Option.bind_eq_bind, Option.bind_some]
  split
  · exact scaleDown_isSome _ _ _
  · split
    · rename_i last
      have small_power : s.exponent.toNat ≤ 308 := by omega
      obtain ⟨ten, power, _, close⟩ := Binary64.tenTo?_some small_power
      rw [power]
      exact Binary64.mul?_isSome (product_lt (Binary64.units_le_of_whole found) close bound)
    · rename_i beyond
      have none : s.significand = 0 := by
        refine Nat.eq_zero_of_not_pos fun positive => ?_
        have power : 10 ^ 309 ≤ 10 ^ s.exponent.toNat := by
          apply Nat.pow_le_pow_right
          · decide
          · omega
        have scaled := Nat.le_trans power (Nat.le_mul_of_pos_left _ positive)
        have large := Nat.le_trans (Nat.mul_le_mul_right (4 * Binary64.one) scaled) bound
        exact absurd large (by decide +kernel)
      have units := Binary64.units_le_of_whole found
      have zero : value.units = 0 := by
        rw [none, Nat.zero_mul] at units
        omega
      have is_zero : value.isZero = true := by
        have := (Nat.mul_eq_zero.1 zero).resolve_right (Nat.ne_of_gt (Nat.two_pow_pos _))
        simpa [Binary64.isZero] using this
      rw [if_pos is_zero]
      rfl

end Draft
end Brokerage
