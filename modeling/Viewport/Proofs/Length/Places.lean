import Mathlib.Algebra.Order.Round
import Viewport.Proofs.Binary64.Rational
import Viewport.Proofs.Length.Scale

/-!
# Rounding to places over the fractions

Over the fractions, the digits that are cut off first do not change which step is the nearest, on
both sides of zero and for a tie. A 64-bit number is rounded to the same fraction if none of its
steps is rounded. The steps are those of the last place that a count of places stands for, which is
another one than the count says where the count wraps around.
-/

namespace Viewport

open Binary64

seal one limit

instance : Arithmetic ℚ where
  floor a := ⌊a⌋

/-! ## Fractions -/

section Fractions

theorem ten_zpow_pos (k : ℤ) : (0 : ℚ) < 10 ^ k := zpow_pos (by norm_num) k

/-- Over the fractions a power is what it is meant to be, whatever the sign of the exponent. -/
theorem wholePower_eq_zpow (a : ℚ) (exponent : Int32) :
    wholePower a exponent = a ^ exponent.toInt := by
  have hlower := exponent.le_toInt
  have hupper := exponent.toInt_lt
  have hdigits : exponent.toInt.natAbs < 2 ^ 32 := by omega
  have hpower := powerFrom_eq (fun k => a ^ k) (i := 0) (j := 1)
    (fun i j _ => (pow_add a i j).symm) hdigits le_rfl
  rw [Nat.zero_add, Nat.one_mul, pow_zero, pow_one] at hpower
  have hnegative : exponent < 0 ↔ exponent.toInt < 0 := Int32.lt_iff_toInt_lt
  rw [wholePower, Nat.cast_one, hpower, ← zpow_natCast, Int.natCast_natAbs]
  split_ifs with hsign
  · rw [abs_of_neg (hnegative.1 hsign), one_div, zpow_neg, inv_inv]
  · rw [abs_of_nonneg (not_lt.1 (mt hnegative.2 hsign))]

/-- Over the fractions the scale is the power of ten for one more place than the last one. -/
theorem placesScale_eq_zpow (places : UInt32) :
    (placesScale places : ℚ) = 10 ^ (lastPlace places + 1) := by
  rw [placesScale, wholePower_eq_zpow, toInt_exponent, Nat.cast_ofNat]

variable (a : ℚ) (place : ℤ) (places : UInt32)

/-- The steps of one more place that are left after the cut. -/
def cutSteps : ℤ := ⌊a * 10 ^ (place + 1)⌋

/-- The steps of the last place that the fraction is rounded to. -/
def keptSteps : ℤ := ⌊(cutSteps a place / 10 + 1 / 2 : ℚ)⌋

theorem roundPlaces_eq_keptSteps :
    roundPlaces a places = keptSteps a (lastPlace places) * 10 / 10 ^ (lastPlace places + 1) := by
  change (⌊(⌊a * placesScale places⌋ / (10 : ℕ) + (1 : ℕ) / (2 : ℕ) : ℚ)⌋ * (10 : ℕ) /
    placesScale places : ℚ) = _
  rw [placesScale_eq_zpow, keptSteps, cutSteps, Nat.cast_ofNat, Nat.cast_one, Nat.cast_ofNat]

/-- A cut at one more place does not change the half that a fraction is in. -/
theorem keptSteps_eq_floor : keptSteps a place = ⌊a * 10 ^ place + 1 / 2⌋ := by
  have hcut : (cutSteps a place / 10 + 1 / 2 : ℚ) =
      ((cutSteps a place + 5 : ℤ) : ℚ) / (10 : ℕ) := by
    push_cast
    ring
  have hshift : cutSteps a place + 5 = ⌊a * 10 ^ (place + 1) + 5⌋ :=
    (Int.floor_add_ofNat _ 5).symm
  have hscale : (a * 10 ^ (place + 1) + 5) / (10 : ℕ) = a * 10 ^ place + 1 / 2 := by
    rw [zpow_add_one₀ (by norm_num)]
    push_cast
    ring
  calc
    keptSteps a place = ⌊((cutSteps a place + 5 : ℤ) : ℚ) / (10 : ℕ)⌋ := by
      rw [keptSteps, hcut]
    _ = ⌊a * 10 ^ (place + 1) + 5⌋ / (10 : ℕ) := by
      rw [Int.floor_div_natCast, Int.floor_intCast, hshift]
    _ = ⌊a * 10 ^ place + 1 / 2⌋ := by rw [← Int.floor_div_natCast, hscale]

/-- Dropping the digits after one more place does not change how the last place is rounded. -/
theorem roundPlaces_eq_floor_div :
    roundPlaces a places = ⌊a * 10 ^ lastPlace places + 1 / 2⌋ / 10 ^ lastPlace places := by
  rw [roundPlaces_eq_keptSteps, keptSteps_eq_floor, zpow_add_one₀ (by norm_num),
    mul_div_mul_right _ _ (by norm_num)]

theorem roundPlaces_mul_ten_zpow :
    roundPlaces a places * 10 ^ lastPlace places = (keptSteps a (lastPlace places) : ℚ) := by
  rw [roundPlaces_eq_floor_div, div_mul_cancel₀ _ (ten_zpow_pos _).ne', keptSteps_eq_floor]

/-- A rounded fraction has whole steps, which are kept. -/
theorem keptSteps_roundPlaces :
    keptSteps (roundPlaces a places) (lastPlace places) = keptSteps a (lastPlace places) := by
  rw [keptSteps_eq_floor, roundPlaces_mul_ten_zpow, Int.floor_intCast_add]
  norm_num

/-- What is rounded already is not changed by rounding. -/
theorem roundPlaces_roundPlaces :
    roundPlaces (roundPlaces a places) places = roundPlaces a places := by
  rw [roundPlaces_eq_keptSteps, keptSteps_roundPlaces, ← roundPlaces_eq_keptSteps]

/-- Rounding changes a fraction by half a step at most. -/
theorem abs_roundPlaces_sub_le :
    |roundPlaces a places - a| ≤ 1 / 2 * (10 ^ lastPlace places)⁻¹ := by
  have hpos := ten_zpow_pos (lastPlace places)
  have hsteps : roundPlaces a places * 10 ^ lastPlace places =
      round (a * 10 ^ lastPlace places) := by
    rw [roundPlaces_mul_ten_zpow, keptSteps_eq_floor, round_eq]
  refine le_of_mul_le_mul_right ?_ hpos
  calc |roundPlaces a places - a| * 10 ^ lastPlace places
      = |a * 10 ^ lastPlace places - round (a * 10 ^ lastPlace places)| := by
        rw [← hsteps, ← sub_mul, abs_mul, abs_of_pos hpos, abs_sub_comm]
    _ ≤ 1 / 2 := abs_sub_round _
    _ = 1 / 2 * (10 ^ lastPlace places)⁻¹ * 10 ^ lastPlace places :=
      (inv_mul_cancel_right₀ hpos.ne' _).symm

/-- A whole number is not changed by rounding it to a count of decimal places. -/
theorem floor_natCast_mul_ten_pow_div (n k : ℕ) :
    (⌊(n * 10 ^ k + 1 / 2 : ℚ)⌋ / 10 ^ k : ℚ) = n := by
  have hwhole : (n * 10 ^ k : ℚ) = ((n * 10 ^ k : ℤ) : ℚ) := by push_cast; rfl
  rw [hwhole, Int.floor_intCast_add]
  norm_num

end Fractions

/-! ## Numbers of the format -/

/-- Every result on the way to the rounded fraction is one of the format, from the power of ten
on. -/
structure Unrounded (a : ℚ) (places : UInt32) : Prop where
  scale : (placesScale places : Binary64).toRat? = some (10 ^ (lastPlace places + 1) : ℚ)
  scaled : Fits (a * 10 ^ (lastPlace places + 1))
  tenth : Fits (cutSteps a (lastPlace places) / 10)
  sum : Fits (cutSteps a (lastPlace places) / 10 + 1 / 2)
  tens : Fits (keptSteps a (lastPlace places) * 10)
  quotient : Fits (keptSteps a (lastPlace places) * 10 / 10 ^ (lastPlace places + 1))

section Unrounded

variable {x : Binary64} {a : ℚ} {places : UInt32}

theorem toRat?_ten : (ofNat 10).toRat? = some (10 : ℚ) :=
  toRat?_ofNat_iff.2 (fits_natCast (by decide))

namespace Unrounded

theorem toRat?_scaled (h : Unrounded a places) (hx : x.toRat? = some a) :
    (x * placesScale places).toRat? = some (a * 10 ^ (lastPlace places + 1)) :=
  (toRat?_mul_iff hx h.scale).2 h.scaled

theorem toRat?_cut (h : Unrounded a places) (hx : x.toRat? = some a) :
    (cut (placesScale places) x).toRat? = some (cutSteps a (lastPlace places) : ℚ) :=
  toRat?_floor (h.toRat?_scaled hx)

theorem toRat?_tenth (h : Unrounded a places) (hx : x.toRat? = some a) :
    (cut (placesScale places) x / ofNat 10).toRat? =
      some (cutSteps a (lastPlace places) / 10 : ℚ) :=
  (toRat?_div_iff (h.toRat?_cut hx) toRat?_ten (by norm_num)).2 h.tenth

theorem toRat?_sum (h : Unrounded a places) (hx : x.toRat? = some a) :
    (cut (placesScale places) x / ofNat 10 + ofNat 1 / ofNat 2).toRat? =
      some (cutSteps a (lastPlace places) / 10 + 1 / 2 : ℚ) :=
  (toRat?_add_iff (h.toRat?_tenth hx) toRat?_half).2 h.sum

theorem toRat?_kept (h : Unrounded a places) (hx : x.toRat? = some a) :
    (kept (placesScale places) x).toRat? = some (keptSteps a (lastPlace places) : ℚ) :=
  toRat?_floor (h.toRat?_sum hx)

theorem toRat?_tens (h : Unrounded a places) (hx : x.toRat? = some a) :
    (kept (placesScale places) x * ofNat 10).toRat? =
      some (keptSteps a (lastPlace places) * 10 : ℚ) :=
  (toRat?_mul_iff (h.toRat?_kept hx) toRat?_ten).2 h.tens

/-- Where no operation rounds, a number is rounded as the fraction is that it stands for. -/
theorem toRat?_roundPlaces (h : Unrounded a places) (hx : x.toRat? = some a) :
    (roundPlaces x places).toRat? = some (roundPlaces a places) := by
  rw [roundPlaces_eq, roundPlaces_eq_keptSteps]
  exact (toRat?_div_iff (h.toRat?_tens hx) h.scale (ten_zpow_pos _).ne').2 h.quotient

end Unrounded

/-- The results on the way are of the format exactly if no operation on the number is rounded: each
gives what it gives on the fraction. -/
theorem unrounded_iff (hx : x.toRat? = some a) :
    Unrounded a places ↔
      (placesScale places : Binary64).toRat? = some (10 ^ (lastPlace places + 1) : ℚ) ∧
      (x * placesScale places).toRat? = some (a * 10 ^ (lastPlace places + 1)) ∧
      (cut (placesScale places) x / ofNat 10).toRat? =
        some (cutSteps a (lastPlace places) / 10 : ℚ) ∧
      (cut (placesScale places) x / ofNat 10 + ofNat 1 / ofNat 2).toRat? =
        some (cutSteps a (lastPlace places) / 10 + 1 / 2 : ℚ) ∧
      (kept (placesScale places) x * ofNat 10).toRat? =
        some (keptSteps a (lastPlace places) * 10 : ℚ) ∧
      (roundPlaces x places).toRat? = some (roundPlaces a places) := by
  constructor
  · intro h
    exact ⟨h.scale, h.toRat?_scaled hx, h.toRat?_tenth hx, h.toRat?_sum hx, h.toRat?_tens hx,
      h.toRat?_roundPlaces hx⟩
  · rintro ⟨hscale, hscaled, htenth, hsum, htens, hquotient⟩
    rw [roundPlaces_eq, roundPlaces_eq_keptSteps] at hquotient
    exact
      { scale := hscale
        scaled := (toRat?_mul_iff hx hscale).1 hscaled
        tenth := (toRat?_div_iff (toRat?_floor hscaled) toRat?_ten (by norm_num)).1 htenth
        sum := (toRat?_add_iff htenth toRat?_half).1 hsum
        tens := (toRat?_mul_iff (toRat?_floor hsum) toRat?_ten).1 htens
        quotient := (toRat?_div_iff htens hscale (ten_zpow_pos _).ne').1 hquotient }

/-- The steps that are kept are no negative zero, for a half has been added. -/
theorem kept_ne_neg_zero (scale x : Binary64) : kept scale x ≠ .finite true 0 := by
  obtain ⟨half, hhalf, -⟩ := exists_half_units
  rw [kept, hhalf]
  exact floor_ne_neg_zero (add_finite_ne_neg_zero _ half)

/-- The steps that are kept are kept again. The sum with a half may be rounded then, which is undone
as it is cut to a whole number. -/
theorem Unrounded.kept_roundPlaces (h : Unrounded a places) (hx : x.toRat? = some a) :
    kept (placesScale places) (roundPlaces x places) = kept (placesScale places) x := by
  let steps := keptSteps a (lastPlace places)
  have hsteps : roundPlaces a places * 10 ^ (lastPlace places + 1) = (steps * 10 : ℤ) := by
    rw [roundPlaces_eq_keptSteps, div_mul_cancel₀ _ (ten_zpow_pos _).ne', Int.cast_mul,
      Int.cast_ofNat]
  have hten : ((steps * 10 : ℤ) / 10 : ℚ) = steps := by
    rw [Int.cast_mul, Int.cast_ofNat, mul_div_cancel_right₀ _ (by norm_num)]
  have hfits : Fits (steps * 10 : ℤ) := by
    rw [Int.cast_mul, Int.cast_ofNat]
    exact h.tens
  have hscaled : (roundPlaces x places * placesScale places).toRat? =
      some ((steps * 10 : ℤ) : ℚ) := by
    rw [← hsteps, toRat?_mul_iff (h.toRat?_roundPlaces hx) h.scale, hsteps]
    exact hfits
  have hcut : (cut (placesScale places) (roundPlaces x places)).toRat? =
      some ((steps * 10 : ℤ) : ℚ) := by
    rw [cut, toRat?_floor hscaled, Int.floor_intCast]
  have htenth : (cut (placesScale places) (roundPlaces x places) / ofNat 10).toRat? =
      some (steps : ℚ) := by
    rw [← hten, toRat?_div_iff hcut toRat?_ten (by norm_num), hten]
    exact h.tens.of_mul_ten
  exact eq_of_toRat?_eq (toRat?_floor_add_half htenth h.tens) (h.toRat?_kept hx)
    (kept_ne_neg_zero _ _) (kept_ne_neg_zero _ _)

end Unrounded

/-- Small halves are of the format. -/
theorem fits_of_eq_half {b : ℚ} (j : ℤ) (hj : j.natAbs ≤ 50) (hb : b = j / 2) : Fits b := by
  rw [hb]
  exact fits_half (by omega)

/-- Over the fractions, rounding is to the nearest step of the last place, a tie upwards. It changes
nothing the second time, and changes a fraction by half a step at most. The same holds of a number
that stands for the fraction, if no operation on it is rounded. -/
theorem roundPlaces_halfUp (a : ℚ) (places : UInt32) :
    roundPlaces a places = ⌊a * 10 ^ lastPlace places + 1 / 2⌋ / 10 ^ lastPlace places ∧
    roundPlaces (roundPlaces a places) places = roundPlaces a places ∧
    |roundPlaces a places - a| ≤ 1 / 2 * (10 ^ lastPlace places)⁻¹ ∧
    ∀ x : Binary64, x.toRat? = some a → Unrounded a places →
      (roundPlaces x places).toRat? =
        some (⌊a * 10 ^ lastPlace places + 1 / 2⌋ / 10 ^ lastPlace places : ℚ) ∧
      roundPlaces (roundPlaces x places) places = roundPlaces x places := by
  refine ⟨roundPlaces_eq_floor_div a places, roundPlaces_roundPlaces a places,
    abs_roundPlaces_sub_le a places, fun x hx h => ⟨?_, ?_⟩⟩
  · rw [h.toRat?_roundPlaces hx, roundPlaces_eq_floor_div]
  · rw [roundPlaces_eq (roundPlaces x places), h.kept_roundPlaces hx, ← roundPlaces_eq]

/-- The tie `-2.5` is rounded upwards. -/
theorem roundPlaces_halfUp_negative_tie :
    (finite true (5 * (one / 2))).toRat? = some (-5 / 2) ∧
      (roundPlaces (finite true (5 * (one / 2))) 0).toRat? = some (-2) ∧
      roundPlaces (roundPlaces (finite true (5 * (one / 2))) 0) 0 =
        roundPlaces (finite true (5 * (one / 2))) 0 := by
  have hx : (finite true (5 * (one / 2))).toRat? = some (-5 / 2 : ℚ) := by decide +kernel
  have hplace : lastPlace 0 = 0 := rfl
  have hcut : cutSteps (-5 / 2) 0 = -25 := by norm_num [cutSteps]
  have hkept : keptSteps (-5 / 2) 0 = -2 := by
    rw [keptSteps, hcut]
    norm_num
  have hscale : (placesScale 0 : Binary64).toRat? = some (10 ^ (lastPlace 0 + 1) : ℚ) := by
    rw [placesScale_eq (by decide), hplace]
    exact toRat?_ten.trans (by norm_num)
  have h : Unrounded (-5 / 2) 0 :=
    { scale := hscale
      scaled := fits_of_eq_half (-50) (by decide) (by rw [hplace]; norm_num)
      tenth := fits_of_eq_half (-5) (by decide) (by rw [hplace, hcut]; norm_num)
      sum := fits_of_eq_half (-4) (by decide) (by rw [hplace, hcut]; norm_num)
      tens := fits_of_eq_half (-40) (by decide) (by rw [hplace, hkept]; norm_num)
      quotient := fits_of_eq_half (-4) (by decide) (by rw [hplace, hkept]; norm_num) }
  have hvalue : (⌊(-5 / 2 * 10 ^ lastPlace 0 + 1 / 2 : ℚ)⌋ / 10 ^ lastPlace 0 : ℚ) = -2 := by
    rw [hplace]
    norm_num
  rw [← hvalue]
  exact ⟨hx, (roundPlaces_halfUp (-5 / 2) 0).2.2.2 _ hx h⟩

/-- With the greatest count of places the exponent is zero, so five is rounded to the next ten. No
operation on it is rounded. -/
theorem roundPlaces_five_eq_ten :
    roundPlaces (5 : ℚ) 4294967295 = 10 ∧
      (⌊(5 * 10 ^ (4294967295 : UInt32).toNat + 1 / 2 : ℚ)⌋ /
        10 ^ (4294967295 : UInt32).toNat : ℚ) = 5 ∧
      (ofNat 5).toRat? = some 5 ∧ Unrounded 5 4294967295 ∧
      (roundPlaces (ofNat 5) 4294967295).toRat? = some 10 := by
  have hplace : lastPlace 4294967295 = -1 := rfl
  have hcut : cutSteps 5 (-1) = 5 := by norm_num [cutSteps]
  have hkept : keptSteps 5 (-1) = 1 := by
    rw [keptSteps, hcut]
    norm_num
  have hx : (ofNat 5).toRat? = some (5 : ℚ) := toRat?_ofNat_iff.2 (fits_natCast (by decide))
  have hscale : (placesScale 4294967295 : Binary64).toRat? =
      some (10 ^ (lastPlace 4294967295 + 1) : ℚ) := by
    have hone : (ofNat 1).toRat? = some ((1 : ℕ) : ℚ) :=
      toRat?_ofNat_iff.2 (fits_natCast (by decide))
    rw [hplace]
    exact hone.trans (by norm_num)
  have h : Unrounded 5 4294967295 :=
    { scale := hscale
      scaled := fits_of_eq_half 10 (by decide) (by rw [hplace]; norm_num)
      tenth := fits_of_eq_half 1 (by decide) (by rw [hplace, hcut]; norm_num)
      sum := fits_of_eq_half 2 (by decide) (by rw [hplace, hcut]; norm_num)
      tens := fits_of_eq_half 20 (by decide) (by rw [hplace, hkept]; norm_num)
      quotient := fits_of_eq_half 20 (by decide) (by rw [hplace, hkept]; norm_num) }
  have hround : roundPlaces (5 : ℚ) 4294967295 = 10 := by
    rw [roundPlaces_eq_keptSteps, hplace, hkept]
    norm_num
  refine ⟨hround, floor_natCast_mul_ten_pow_div 5 _, hx, h, ?_⟩
  rw [h.toRat?_roundPlaces hx, hround]

end Viewport
