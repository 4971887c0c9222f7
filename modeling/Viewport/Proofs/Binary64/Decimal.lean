import Mathlib.Algebra.Order.Field.Rat
import Mathlib.Tactic.NormNum
import Viewport.Proofs.Binary64.KeepsOrder
import Viewport.Proofs.Binary64.Shortest

/-!
# Decimals in order

A decimal stands for a fraction, and reads as the number of the format that is nearest to it, also
where no power of ten is formed. So a greater decimal does not read as a smaller number, and the
shortest decimals of two numbers are in the order of the numbers.
-/

namespace Viewport

open Binary64

seal one limit

/-- The fraction that a decimal stands for. -/
def Decimal.value (d : Decimal) : ℚ := d.digits * 10 ^ d.exponent

namespace Decimal

variable {d d' : Decimal} {k : Nat}

/-- With an exponent from zero on a decimal is a natural number. -/
theorem value_natCast (n k : ℕ) : (⟨n, k⟩ : Decimal).value = (n * 10 ^ k : ℕ) := by
  rw [value, zpow_natCast, Nat.cast_mul, Nat.cast_pow, Nat.cast_ofNat]

theorem value_neg_natCast (n k : ℕ) : (⟨n, -k⟩ : Decimal).value = n / 10 ^ k := by
  rw [value, zpow_neg, zpow_natCast, div_eq_mul_inv]

/-- A power of ten in which two decimals have no digits after the point. -/
theorem exists_neg_natCast_le (d d' : Decimal) :
    ∃ k : Nat, -k ≤ d.exponent ∧ -k ≤ d'.exponent :=
  ⟨(-d.exponent).toNat + (-d'.exponent).toNat, by omega, by omega⟩

theorem value_mul_ten_pow (he : -k ≤ d.exponent) :
    d.value * 10 ^ k = (d.digits * 10 ^ (d.exponent + k).toNat : ℕ) := by
  have hexp : d.exponent + k = (d.exponent + k).toNat := by omega
  rw [value, mul_assoc, ← zpow_natCast, ← zpow_add₀ (by norm_num), hexp, zpow_natCast,
    Int.toNat_natCast, Nat.cast_mul, Nat.cast_pow, Nat.cast_ofNat]

/-- Decimals are compared by their digits over a common power of ten. -/
theorem value_le_iff (he : -k ≤ d.exponent) (he' : -k ≤ d'.exponent) :
    d.value ≤ d'.value ↔
      d.digits * 10 ^ (d.exponent + k).toNat ≤ d'.digits * 10 ^ (d'.exponent + k).toNat := by
  rw [← mul_le_mul_iff_left₀ (show (0 : ℚ) < 10 ^ k from pow_pos (by norm_num) k),
    value_mul_ten_pow he, value_mul_ten_pow he', Nat.cast_le]

end Decimal

namespace Binary64

variable {d d' : Decimal} {k num den : Nat}

/-- A fraction is rounded the same in other terms. -/
theorem ofFraction_mul_right (s : Bool) (hk : 0 < k) :
    ofFraction s (num * k) (den * k) = ofFraction s num den := by
  rw [ofFraction, roundUnits_mul_right hk, ofFraction]

/-- A greater decimal has no fewer units. -/
theorem unitsOf_mono_value (h : d.value ≤ d'.value) : unitsOf d ≤ unitsOf d' := by
  obtain ⟨k, hk, hk'⟩ := Decimal.exists_neg_natCast_le d d'
  have hpos : 0 < 10 ^ k := Nat.pow_pos (by decide)
  rw [Decimal.value_le_iff hk hk'] at h
  have hunits := unitsOf_eq_roundUnits d.digits hk
  have hunits' := unitsOf_eq_roundUnits d'.digits hk'
  rw [hunits, hunits']
  exact roundUnits_mono hpos hpos (Nat.mul_le_mul_right _ (Nat.mul_le_mul_right one h))

/-! ## Decimals that are too large or too small -/

/-- As in `exists_one_eq_pow`, nothing evaluates the power. -/
theorem exists_limit_le : ∃ k : Nat, 310 = k ∧ limit ≤ 10 ^ k * one := by
  obtain ⟨e, hone, hlimit⟩ := exists_one_eq_pow
  obtain ⟨j, hj⟩ : ∃ j, j = 11 := ⟨11, rfl⟩
  refine ⟨28 * j + 2, by omega, ?_⟩
  have hexp : e + 1025 = 93 * j + 1 + (e + 1) := by omega
  calc limit = (2 ^ 93) ^ j * 2 * 2 ^ (e + 1) := by rw [hlimit, hexp, Nat.pow_add, Nat.pow_succ,
        Nat.pow_mul]
    _ ≤ (10 ^ 28) ^ j * 10 ^ 2 * 2 ^ (e + 1) := Nat.mul_le_mul_right _
        (Nat.mul_le_mul (Nat.pow_le_pow_left (by decide) j) (by decide))
    _ = 10 ^ (28 * j + 2) * one := by rw [hone, Nat.pow_add 10, Nat.pow_mul 10]

theorem isExact_limit : IsExact limit := by
  obtain ⟨e, -, hlimit⟩ := exists_one_eq_pow
  exact ⟨1, e + 1025, by decide, by rw [hlimit, Nat.one_mul]⟩

/-- From the limit on a fraction is infinity, whatever its sign. -/
theorem ofFraction_of_limit_le {s : Bool} (hden : 0 < den) (h : limit * den ≤ num) :
    ofFraction s num den = .infinite s := by
  have hround : limit ≤ roundUnits num den :=
    (roundUnits_of_isExact isExact_limit hden).symm.trans_le
      (roundUnits_mono hden hden (Nat.mul_le_mul_right den h))
  rw [ofFraction]
  exact if_neg (Nat.not_lt.2 hround)

/-- Less than half a unit is rounded to zero. -/
theorem ofFraction_of_two_mul_le {s : Bool} (hden : 0 < den) (h : 2 * num ≤ den) :
    ofFraction s num den = .finite s 0 := by
  have hhalf : roundUnits num den ≤ roundUnits 1 2 :=
    roundUnits_mono hden Nat.two_pos (by omega)
  have hzero : roundUnits 1 2 = 0 := by decide
  exact ofFraction_of_roundUnits_eq_zero (Nat.le_zero.1 (hhalf.trans_eq hzero)) s

theorem limit_mul_le (hk : -k ≤ d.exponent) (h0 : 0 < d.digits) (hlarge : 310 ≤ d.exponent) :
    limit * 10 ^ k ≤ d.digits * 10 ^ (d.exponent + k).toNat * one := by
  obtain ⟨j, hj, hlimit⟩ := exists_limit_le
  have hpow : 10 ^ (j + k) ≤ 10 ^ (d.exponent + k).toNat :=
    Nat.pow_le_pow_right (by decide) (by omega)
  calc limit * 10 ^ k ≤ 10 ^ j * one * 10 ^ k := Nat.mul_le_mul_right _ hlimit
    _ = 10 ^ (j + k) * one := by rw [Nat.pow_add, Nat.mul_right_comm]
    _ ≤ d.digits * 10 ^ (d.exponent + k).toNat * one :=
      Nat.mul_le_mul_right _ (hpow.trans (Nat.le_mul_of_pos_left _ h0))

theorem two_mul_two_pow_succ_le (m : Nat) : 2 * 2 ^ (m + 1) ≤ 10 ^ (m + 1) :=
  calc 2 * 2 ^ (m + 1) = 2 ^ (m + 2) := (Nat.pow_succ' ..).symm
    _ ≤ 2 ^ (2 * (m + 1)) := Nat.pow_le_pow_right (by decide) (by omega)
    _ = 4 ^ (m + 1) := Nat.pow_mul 2 2 (m + 1)
    _ ≤ 10 ^ (m + 1) := Nat.pow_le_pow_left (by decide) _

/-- A digit of the decimal system is worth more than two binary ones, so the number of binary digits
is enough to see that a decimal is below half a unit. -/
theorem two_mul_le_of_small (hk : -k ≤ d.exponent)
    (hsmall : d.exponent + (d.digits.log2 + 1) ≤ -324) :
    2 * (d.digits * 10 ^ (d.exponent + k).toNat * one) ≤ 10 ^ k := by
  obtain ⟨j, hj, hone, -⟩ := exists_firstPlace_eq
  have hexp : (d.exponent + k).toNat + j + (d.digits.log2 + 1) ≤ 16 + k := by omega
  generalize (d.exponent + k).toNat = r at hexp
  have hdigits : 2 * d.digits ≤ 10 ^ (d.digits.log2 + 1) :=
    (Nat.mul_le_mul_left 2 Nat.lt_log2_self.le).trans (two_mul_two_pow_succ_le _)
  refine Nat.le_of_mul_le_mul_left ?_ (Nat.pow_pos (by decide) : 0 < 10 ^ 16)
  calc 10 ^ 16 * (2 * (d.digits * 10 ^ r * one)) = 10 ^ r * (10 ^ 16 * one) * (2 * d.digits) := by
        ring
    _ ≤ 10 ^ r * 10 ^ j * 10 ^ (d.digits.log2 + 1) :=
      Nat.mul_le_mul (Nat.mul_le_mul_left _ hone) hdigits
    _ = 10 ^ (r + j + (d.digits.log2 + 1)) := by
        rw [Nat.pow_add 10 (r + j), Nat.pow_add 10 r]
    _ ≤ 10 ^ (16 + k) := Nat.pow_le_pow_right (by decide) hexp
    _ = 10 ^ 16 * 10 ^ k := Nat.pow_add ..

/-- A decimal reads as the fraction that it stands for, rounded. -/
theorem ofDecimal_eq_ofFraction (s : Bool) (hk : -k ≤ d.exponent) :
    ofDecimal s d = ofFraction s (d.digits * 10 ^ (d.exponent + k).toNat * one) (10 ^ k) := by
  have hpos : 0 < 10 ^ k := Nat.pow_pos (by decide)
  rw [ofDecimal]
  split_ifs with h0 hlarge hsmall he
  · rw [h0, Nat.zero_mul, Nat.zero_mul, ofFraction_zero s hpos]
  · rw [ofFraction_of_limit_le hpos (limit_mul_le hk (Nat.pos_of_ne_zero h0) hlarge)]
  · rw [ofFraction_of_two_mul_le hpos (two_mul_le_of_small hk hsmall)]
  · rw [ten_pow_toNat_of_nonneg k he, ← ofFraction_mul_right s hpos, Nat.one_mul,
      Nat.mul_right_comm _ one, Nat.mul_assoc d.digits, Nat.pow_eq]
  · rw [ten_pow_of_neg (Int.not_le.1 he) hk, Nat.mul_right_comm,
      ofFraction_mul_right s (Nat.pow_pos (by decide)), Nat.pow_eq]

/-- A greater decimal does not read as a smaller number. -/
theorem ofDecimal_le_of_value_le (h : d.value ≤ d'.value) :
    ofDecimal false d ≤ ofDecimal false d' := by
  obtain ⟨k, hk, hk'⟩ := Decimal.exists_neg_natCast_le d d'
  have hpos : 0 < 10 ^ k := Nat.pow_pos (by decide)
  rw [Decimal.value_le_iff hk hk'] at h
  rw [ofDecimal_eq_ofFraction false hk, ofDecimal_eq_ofFraction false hk']
  exact ofFraction_le_ofFraction hpos hpos
    (Nat.mul_le_mul_right _ (Nat.mul_le_mul_right one h))

end Binary64

end Viewport
