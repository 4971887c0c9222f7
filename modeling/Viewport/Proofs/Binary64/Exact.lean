import Viewport.Proofs.Binary64.Order

/-!
# Exact operations

A result that the format has is not rounded. So whole numbers are computed with as natural numbers,
as long as the results have at most 53 binary digits before their zeros.
-/

namespace Viewport.Binary64

seal one limit

section Results

variable {m n k num den : Nat}

/-- A fraction that comes to an exact number of units is that number. -/
theorem ofFraction_of_isExact (h : IsExact n) (hn : n < limit) (hden : 0 < den)
    (heq : num = n * den) : ofFraction false num den = .finite false n := by
  have hround := roundUnits_of_isExact h hden
  rw [heq, ofFraction_of_lt (hround.trans_lt hn), hround]

/-- A product that the format has is not rounded. -/
theorem mul_eq_finite (h : IsExact n) (hn : n < limit) (heq : m * k = n * one) :
    finite false m * finite false k = finite false n := by
  rw [finite_mul_finite]
  exact ofFraction_of_isExact h hn oneUnits_pos heq

/-- A quotient that the format has is not rounded. -/
theorem div_eq_finite (h : IsExact n) (hn : n < limit) (hk : 0 < k) (heq : m * one = n * k) :
    finite false m / finite false k = finite false n := by
  rw [finite_div_finite _ hk]
  exact ofFraction_of_isExact h hn hk heq

/-- A sum that the format has is not rounded. -/
theorem add_eq_finite (h : IsExact (m + k)) (hn : m + k < limit) :
    finite false m + finite false k = finite false (m + k) := by
  rw [finite_add_finite]
  exact ofFraction_of_isExact h hn Nat.one_pos (Nat.mul_one _).symm

end Results

/-! ## Whole numbers -/

section Whole

variable {n k : Nat}

theorem ofNat_of_isExact (h : IsExact (n * one)) (hn : n ≤ 10 ^ 22) :
    ofNat n = .finite false (n * one) :=
  ofFraction_of_isExact h (mul_one_lt_limit hn) Nat.one_pos (Nat.mul_one _).symm

/-- Up to `2 ^ 53` the format has every whole number. -/
theorem ofNat_of_le (h : n ≤ 2 ^ 53) : ofNat n = .finite false (n * one) :=
  ofNat_of_isExact (isExact_mul_one h) (h.trans (by decide))

/-- The powers of ten that the format has: the greatest is `10 ^ 22`, for `5 ^ 22` has less than 53
binary digits. -/
theorem ofNat_ten_pow (h : k ≤ 22) : ofNat (10 ^ k) = .finite false (10 ^ k * one) :=
  ofNat_of_isExact (isExact_ten_pow_mul_one h) (Nat.pow_le_pow_right (by decide) h)

theorem floor_mul_one (n : Nat) : floor (.finite false (n * one)) = .finite false (n * one) := by
  rw [floor_finite, Nat.mul_div_cancel n oneUnits_pos]

/-- A half, which is added to whole numbers without rounding and is dropped again. -/
theorem exists_half_eq : ∃ half, ofNat 1 / ofNat 2 = .finite false half ∧
    ∀ n ≤ 10 ^ 15, floor (.finite false (n * one) + .finite false half) =
      .finite false (n * one) := by
  obtain ⟨e, hone, -⟩ := exists_one_eq_pow
  have hdouble : one = 2 ^ e * 2 := hone
  have hless : 2 ^ e < one := hone.symm ▸ Nat.pow_lt_pow_right (by decide) (Nat.lt_succ_self e)
  have hone_lt : one < limit := by simpa using mul_one_lt_limit (n := 1) (by decide)
  refine ⟨2 ^ e, ?_, fun n hn => ?_⟩
  · rw [ofNat_of_le (by decide), ofNat_of_le (by decide)]
    refine div_eq_finite ⟨1, e, by decide, (Nat.one_mul _).symm⟩ (hless.trans hone_lt)
      (Nat.mul_pos Nat.two_pos oneUnits_pos) ?_
    rw [Nat.one_mul, ← Nat.mul_assoc, ← hdouble]
  · have hsum : n * one + 2 ^ e = (2 * n + 1) * 2 ^ e := by
      rw [hdouble]
      ring
    have hexact : IsExact (n * one + 2 ^ e) := by
      rw [hsum]
      exact isExact_mul_two_pow (by omega) e
    have hsmall : n * one + 2 ^ e < limit :=
      calc n * one + 2 ^ e < n * one + one := Nat.add_lt_add_left hless _
        _ = (n + 1) * one := (Nat.succ_mul n one).symm
        _ < limit := mul_one_lt_limit (by omega)
    rw [add_eq_finite hexact hsmall, floor_finite, Nat.mul_comm n, Nat.mul_add_div oneUnits_pos,
      Nat.div_eq_of_lt hless, Nat.add_zero, Nat.mul_comm]

end Whole

end Viewport.Binary64
