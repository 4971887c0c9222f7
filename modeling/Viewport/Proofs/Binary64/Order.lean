import Viewport.Proofs.Binary64.Rounding

/-!
# Arithmetic keeps the order

From zero on, every operation with a fixed positive number is rounded to a greater result for a
greater argument, and infinity stays infinity. So a chain of operations is bounded by what it
makes of a bound.
-/

namespace Viewport.Binary64

/-- Zero or above, and without a minus sign. -/
inductive Nonneg : Binary64 → Prop
  | finite (n : Nat) : Nonneg (.finite false n)
  | infinite : Nonneg (.infinite false)

/-- Numbers without a minus sign are in the order of their units. -/
@[simp] theorem finite_le_finite_iff {m n : Nat} : finite false m ≤ finite false n ↔ m ≤ n := by
  change decide ((m : Int) ≤ n) = true ↔ m ≤ n
  rw [decide_eq_true_iff]
  exact Int.ofNat_le

@[simp] theorem not_infinite_le_finite (n : Nat) : ¬ infinite false ≤ finite false n := nofun

namespace Nonneg

variable {x y z : Binary64}

/-- Infinity is the greatest number. -/
theorem le_infinite (hx : Nonneg x) : x ≤ .infinite false := by cases hx <;> rfl

theorem le_refl (hx : Nonneg x) : x ≤ x := by
  cases hx with
  | finite n => exact finite_le_finite_iff.2 (Nat.le_refl n)
  | infinite => rfl

theorem le_total (hx : Nonneg x) (hy : Nonneg y) : x ≤ y ∨ y ≤ x := by
  cases hx with
  | infinite => exact .inr hy.le_infinite
  | finite m =>
    cases hy with
    | infinite => exact .inl (finite m).le_infinite
    | finite n => simpa using Nat.le_total m n

/-- A finite number from zero on is a number of units without a minus sign. -/
theorem exists_of_isFinite (hx : Nonneg x) (h : x.isFinite = true) :
    ∃ n, x = .finite false n := by
  cases hx with
  | finite n => exact ⟨n, rfl⟩
  | infinite => cases h

/-- What is at most a finite number is finite. -/
theorem exists_of_le_finite (hx : Nonneg x) {n : Nat} (h : x ≤ .finite false n) :
    ∃ m ≤ n, x = .finite false m := by
  cases hx with
  | finite m => exact ⟨m, finite_le_finite_iff.1 h, rfl⟩
  | infinite => exact absurd h (not_infinite_le_finite n)

end Nonneg

/-- Below the limit a fraction is rounded to a finite number. -/
theorem ofFraction_of_lt {num den : Nat} (h : roundUnits num den < limit) :
    ofFraction false num den = .finite false (roundUnits num den) := by
  simp only [ofFraction, if_pos h]

/-- From the limit on a fraction is rounded to infinity. -/
theorem ofFraction_of_le {num den : Nat} (h : limit ≤ roundUnits num den) :
    ofFraction false num den = .infinite false := by
  simp only [ofFraction, if_neg (Nat.not_lt.2 h)]

/-- A fraction without a minus sign is rounded to a number without one. -/
theorem nonneg_ofFraction (num den : Nat) : Nonneg (ofFraction false num den) := by
  obtain h | h := Nat.lt_or_ge (roundUnits num den) limit
  · rw [ofFraction_of_lt h]
    exact .finite _
  · rw [ofFraction_of_le h]
    exact .infinite

theorem nonneg_ofNat (n : Nat) : Nonneg (ofNat n) := by
  rw [ofNat]
  exact nonneg_ofFraction _ _

/-- The greater of two fractions is not rounded to the smaller number. -/
theorem ofFraction_le_ofFraction {num den num' den' : Nat} (hden : 0 < den) (hden' : 0 < den')
    (h : num * den' ≤ num' * den) : ofFraction false num den ≤ ofFraction false num' den' := by
  have hle := roundUnits_mono hden hden' h
  by_cases h' : roundUnits num' den' < limit
  · rw [ofFraction_of_lt h', ofFraction_of_lt (hle.trans_lt h')]
    exact finite_le_finite_iff.2 hle
  · rw [ofFraction_of_le (Nat.le_of_not_lt h')]
    exact (nonneg_ofFraction num den).le_infinite

/-- A function that keeps the order from zero on, and infinity. -/
structure Rises (f : Binary64 → Binary64) : Prop where
  nonneg_finite : ∀ n, Nonneg (f (.finite false n))
  finite_le : ∀ {m n}, m ≤ n → f (.finite false m) ≤ f (.finite false n)
  infinite_eq : f (.infinite false) = .infinite false

namespace Rises

variable {f g : Binary64 → Binary64} {x y : Binary64}

/-- From zero on the function does not come below zero. -/
theorem nonneg (hf : Rises f) (hx : Nonneg x) : Nonneg (f x) := by
  cases hx with
  | finite n => exact hf.nonneg_finite n
  | infinite =>
    rw [hf.infinite_eq]
    exact .infinite

/-- The values are in the order of the arguments, infinity included. -/
theorem le (hf : Rises f) (hx : Nonneg x) (hy : Nonneg y) (h : x ≤ y) : f x ≤ f y := by
  cases hy with
  | infinite =>
    rw [hf.infinite_eq]
    exact (hf.nonneg hx).le_infinite
  | finite n =>
    obtain ⟨m, hm, rfl⟩ := hx.exists_of_le_finite h
    exact hf.finite_le hm

/-- One such function after another is such a function. -/
theorem comp (hg : Rises g) (hf : Rises f) : Rises fun x => g (f x) where
  nonneg_finite n := hg.nonneg (hf.nonneg_finite n)
  finite_le h := hg.le (hf.nonneg_finite _) (hf.nonneg_finite _) (hf.finite_le h)
  infinite_eq := by rw [hf.infinite_eq, hg.infinite_eq]

end Rises

section Operations

variable {k : Nat}

/-- A product is the fraction of the units that it has, rounded once. -/
theorem finite_mul_finite (n k : Nat) :
    finite false n * finite false k = ofFraction false (n * k) one := by
  change mul _ _ = _
  rw [mul, bne_self_eq_false]

/-- A quotient is the fraction of the units that it has, rounded once. -/
theorem finite_div_finite (n : Nat) (hk : 0 < k) :
    finite false n / finite false k = ofFraction false (n * one) k := by
  change div _ _ = _
  rw [div, bne_self_eq_false, if_pos hk.ne']

/-- A sum is rounded once. -/
theorem finite_add_finite (n k : Nat) :
    finite false n + finite false k = ofFraction false (n + k) 1 := by
  change add _ _ = _
  rw [add, if_pos rfl]

theorem floor_finite (n : Nat) : floor (finite false n) = finite false (n / one * one) := rfl

/-- Products with a fixed positive number rise. -/
theorem rises_mul (hk : 0 < k) : Rises (· * .finite false k) where
  nonneg_finite n := by
    rw [finite_mul_finite]
    exact nonneg_ofFraction _ _
  finite_le h := by
    rw [finite_mul_finite, finite_mul_finite]
    exact ofFraction_le_ofFraction oneUnits_pos oneUnits_pos
      (Nat.mul_le_mul_right one (Nat.mul_le_mul_right k h))
  infinite_eq := if_neg hk.ne'

/-- Quotients by a fixed positive number rise. -/
theorem rises_div (hk : 0 < k) : Rises (· / .finite false k) where
  nonneg_finite n := by
    rw [finite_div_finite n hk]
    exact nonneg_ofFraction _ _
  finite_le h := by
    rw [finite_div_finite _ hk, finite_div_finite _ hk]
    exact ofFraction_le_ofFraction hk hk (Nat.mul_le_mul_right k (Nat.mul_le_mul_right one h))
  infinite_eq := rfl

theorem rises_add (k : Nat) : Rises (· + .finite false k) where
  nonneg_finite n := by
    rw [finite_add_finite]
    exact nonneg_ofFraction _ _
  finite_le h := by
    rw [finite_add_finite, finite_add_finite]
    exact ofFraction_le_ofFraction Nat.one_pos Nat.one_pos
      (Nat.mul_le_mul_right 1 (Nat.add_le_add_right h k))
  infinite_eq := rfl

theorem rises_floor : Rises floor where
  nonneg_finite _ := .finite _
  finite_le h := finite_le_finite_iff.2 (Nat.mul_le_mul_right one (Nat.div_le_div_right h))
  infinite_eq := rfl

end Operations

end Viewport.Binary64
