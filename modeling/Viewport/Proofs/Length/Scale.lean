import Mathlib.Tactic.Ring
import Viewport.Length.Rounding
import Viewport.Proofs.Binary64.Exact

/-!
# The power of ten for a count of places

A power is computed from powers that have been computed before, so it is right wherever the product
of two of them is: everywhere over the fractions, and up to the twenty-second power of ten among the
numbers of the format. Counts of places that are too large for a signed number stand for places
before the point.
-/

namespace Viewport

open Binary64

seal one limit

/-! ## Repeated squaring -/

section Power

variable {α : Type} [Arithmetic α] {bound : ℕ}

/-- The exponent that is left, in steps of the last square, stays the same with what has been
multiplied so far: each step halves the one and doubles the other. -/
theorem powerFrom_eq (power : ℕ → α)
    (hmul : ∀ i j, i + j ≤ bound → power i * power j = power (i + j))
    {digits exponent : ℕ} (hdigits : exponent < 2 ^ digits) {i j : ℕ}
    (hbound : i + j * exponent ≤ bound) :
    powerFrom (power i) (power j) digits exponent = power (i + j * exponent) := by
  induction digits generalizing exponent i j with
  | zero =>
    obtain rfl : exponent = 0 := by simpa using hdigits
    rfl
  | succ digits ih =>
    have hsplit : j * exponent = j * (exponent % 2) + (j + j) * (exponent / 2) := by
      conv => lhs; rw [← Nat.mod_add_div exponent 2]
      ring
    have hacc : (if exponent % 2 = 1 then power i * power j else power i) =
        power (i + j * (exponent % 2)) := by
      obtain heven | hodd := Nat.mod_two_eq_zero_or_one exponent
      · rw [heven, if_neg (by decide), Nat.mul_zero, Nat.add_zero]
      · rw [hodd, Nat.mul_one] at hsplit
        rw [hodd, if_pos rfl, hmul i j (by omega), Nat.mul_one]
    rw [powerFrom, hacc]
    split_ifs with hrest
    · rw [hsplit, hrest, Nat.mul_zero, Nat.add_zero]
    · have hsquare : j + j ≤ (j + j) * (exponent / 2) :=
        Nat.le_mul_of_pos_right _ (Nat.pos_of_ne_zero hrest)
      rw [hmul j j (by omega), ih (by omega) (by omega), hsplit, Nat.add_assoc]

end Power

/-! ## The exponent -/

/-- The place that a number is rounded to, as it is counted after the point. A count from
`2 ^ 31 - 1` on stands for a place before the point. -/
def lastPlace (places : UInt32) : ℤ :=
  if places.toNat < 2 ^ 31 - 1 then places.toNat else places.toNat - 2 ^ 32

theorem lastPlace_of_lt {places : UInt32} (h : places.toNat < 2 ^ 31 - 1) :
    lastPlace places = places.toNat := if_pos h

/-- The exponent wraps around where the last place does. -/
theorem toInt_exponent (places : UInt32) :
    (places.toInt32 + 1).toInt = lastPlace places + 1 := by
  have hcount : places.toInt32.toInt = (places.toNat : ℤ).bmod (2 ^ 32) :=
    BitVec.toInt_eq_toNat_bmod _
  have hlt := places.toNat_lt
  rw [Int32.toInt_add, hcount, Int32.toInt_one, Int.bmod_add_bmod, Int.bmod_def, lastPlace]
  split_ifs <;> omega

/-! ## Numbers of the format -/

theorem natCast_eq (n : Nat) : (NatCast.natCast n : Binary64) = ofNat n := rfl

theorem cast_eq_ofNat (n : Nat) : (n : Binary64) = ofNat n := by rw [Nat.cast, natCast_eq]

/-- The product of two powers of ten is one, as long as the format has it. -/
theorem ofNat_ten_pow_mul {i j : ℕ} (h : i + j ≤ 22) :
    ofNat (10 ^ i) * ofNat (10 ^ j) = ofNat (10 ^ (i + j)) := by
  rw [ofNat_ten_pow (by omega), ofNat_ten_pow (by omega), ofNat_ten_pow h]
  refine mul_eq_finite (isExact_ten_pow_mul_one h)
    (mul_one_lt_limit (Nat.pow_le_pow_right (by decide) h)) ?_
  rw [pow_add]
  ring

/-- The number in whole steps of one more place. -/
def cut (scale x : Binary64) : Binary64 := floor (x * scale)

/-- The number in whole steps of the last place, rounded half up. -/
def kept (scale x : Binary64) : Binary64 := floor (cut scale x / ofNat 10 + ofNat 1 / ofNat 2)

theorem arithmetic_floor_eq (x : Binary64) : Arithmetic.floor x = floor x := rfl

/-- Rounding a number of the format, step by step. -/
theorem roundPlaces_eq (x : Binary64) (places : UInt32) :
    roundPlaces x places =
      kept (placesScale places) x * ofNat 10 / placesScale places := by
  simp only [roundPlaces, kept, cut, cast_eq_ofNat, arithmetic_floor_eq]

/-- Up to twenty-one places the scale is the power of ten. -/
theorem placesScale_eq {places : UInt32} (h : places.toNat ≤ 21) :
    placesScale places = ofNat (10 ^ (places.toNat + 1)) := by
  have hexponent := toInt_exponent places
  rw [lastPlace_of_lt (by omega)] at hexponent
  have hnonneg : ¬ places.toInt32 + 1 < 0 := by
    rw [Int32.lt_iff_toInt_lt, hexponent, Int32.toInt_zero]
    omega
  have habs : (places.toInt32 + 1).toInt.natAbs = places.toNat + 1 := by omega
  have hdigits : places.toNat + 1 < 2 ^ 32 := by omega
  have hpower := powerFrom_eq (fun k => ofNat (10 ^ k)) (i := 0) (j := 1)
    (fun _ _ => ofNat_ten_pow_mul) hdigits (by omega)
  rw [placesScale, wholePower, if_neg hnonneg, habs, cast_eq_ofNat, cast_eq_ofNat]
  simpa using hpower

end Viewport
