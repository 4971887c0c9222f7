import Viewport.Proofs.Binary64.Order

/-!
# The order of all numbers

Every operation with a fixed positive number keeps the order on both sides of zero, from one
infinity to the other. Nothing is comparable to `nan`, so a function that keeps the order never
comes to it from a number.
-/

namespace Viewport.Binary64

seal one limit

/-! ## Signs -/

section Signs

variable {s t : Bool} {m n : Nat}

/-- Finite numbers are in the order of their units with the signs. -/
theorem finite_le_iff : finite s m ≤ finite t n ↔ signedUnits s m ≤ signedUnits t n :=
  decide_eq_true_iff

/-- How the signs of two counts in order can be. -/
theorem signedUnits_le_cases (h : signedUnits s m ≤ signedUnits t n) :
    (s = false ∧ t = false ∧ m ≤ n) ∨ (s = true ∧ t = true ∧ n ≤ m) ∨ (s = true ∧ t = false) ∨
      (s = false ∧ t = true ∧ m = 0 ∧ n = 0) := by
  cases s <;> cases t <;> simp [signedUnits] at h ⊢ <;> omega

theorem signedUnits_mul_natCast (s : Bool) (n k : Nat) :
    signedUnits s (n * k) = signedUnits s n * k := by
  cases s <;> simp [signedUnits]

theorem finite_true_le_false (m n : Nat) : finite true m ≤ finite false n := by
  rw [finite_le_iff]
  simp [signedUnits]

variable {x y z : Binary64}

/-- Nothing is above `nan`. -/
theorem ne_nan_of_le_left (h : x ≤ y) : x ≠ .nan := by
  rintro rfl
  cases h

/-- Nothing is below `nan`. -/
theorem ne_nan_of_le_right (h : x ≤ y) : y ≠ .nan := by
  rintro rfl
  cases x with
  | nan | finite => cases h
  | infinite s => cases s <;> cases h

/-- All numbers are above the negative infinity. -/
theorem infinite_true_le (h : x ≠ .nan) : .infinite true ≤ x := by
  cases x with
  | nan => exact absurd rfl h
  | infinite | finite => rfl

/-- All numbers are below the positive infinity. -/
theorem le_infinite_false (h : x ≠ .nan) : x ≤ .infinite false := by
  cases x with
  | nan => exact absurd rfl h
  | infinite s => cases s <;> rfl
  | finite => rfl

/-- Only the negative infinity is below itself. -/
theorem eq_of_le_infinite_true (h : x ≤ .infinite true) : x = .infinite true := by
  cases x with
  | nan | finite => cases h
  | infinite s =>
    cases s with
    | false => cases h
    | true => rfl

/-- Only the positive infinity is above itself. -/
theorem eq_of_infinite_false_le (h : .infinite false ≤ x) : x = .infinite false := by
  cases x with
  | nan | finite => cases h
  | infinite s =>
    cases s with
    | false => rfl
    | true => cases h

/-- The order is transitive; `nan` is on neither side of it. -/
theorem le_trans (hxy : x ≤ y) (hyz : y ≤ z) : x ≤ z := by
  cases y with
  | nan => exact absurd rfl (ne_nan_of_le_right hxy)
  | infinite s =>
    cases s with
    | false => exact eq_of_infinite_false_le hyz ▸ hxy
    | true => exact eq_of_le_infinite_true hxy ▸ infinite_true_le (ne_nan_of_le_right hyz)
  | finite s n =>
    cases x with
    | nan => exact absurd rfl (ne_nan_of_le_left hxy)
    | infinite s =>
      cases s with
      | false => cases hxy
      | true => exact infinite_true_le (ne_nan_of_le_right hyz)
    | finite =>
      cases z with
      | nan => exact absurd rfl (ne_nan_of_le_right hyz)
      | infinite s =>
        cases s with
        | false => rfl
        | true => cases hyz
      | finite =>
        rw [finite_le_iff] at *
        exact Int.le_trans hxy hyz

end Signs

/-! ## Functions that keep the order -/

/-- A greater number is not mapped to a smaller one. -/
def KeepsOrder (f : Binary64 → Binary64) : Prop := ∀ ⦃x y⦄, x ≤ y → f x ≤ f y

section KeepsOrder

variable {f g : Binary64 → Binary64}

theorem KeepsOrder.comp (hg : KeepsOrder g) (hf : KeepsOrder f) : KeepsOrder fun x => g (f x) :=
  fun _ _ h => hg (hf h)

/-- Both infinities may be left out if they stay what they are. -/
theorem keepsOrder_of_finite
    (hfinite : ∀ {s t m n}, signedUnits s m ≤ signedUnits t n → f (.finite s m) ≤ f (.finite t n))
    (hinf : ∀ s, f (.infinite s) = .infinite s) : KeepsOrder f := by
  have hne (s : Bool) (n : Nat) : f (.finite s n) ≠ .nan :=
    ne_nan_of_le_left (hfinite (Int.le_refl _))
  have hne' {x : Binary64} (hx : x ≠ .nan) : f x ≠ .nan := by
    cases x with
    | nan => exact absurd rfl hx
    | infinite s =>
      rw [hinf]
      nofun
    | finite s n => exact hne s n
  intro x y h
  cases x with
  | nan => exact absurd rfl (ne_nan_of_le_left h)
  | infinite s =>
    rw [hinf]
    cases s with
    | false =>
      rw [eq_of_infinite_false_le h, hinf]
      rfl
    | true => exact infinite_true_le (hne' (ne_nan_of_le_right h))
  | finite s m =>
    cases y with
    | nan => exact absurd rfl (ne_nan_of_le_right h)
    | infinite t =>
      rw [hinf]
      cases t with
      | false => exact le_infinite_false (hne s m)
      | true => cases h
    | finite t n => exact hfinite (finite_le_iff.1 h)

end KeepsOrder

/-! ## Operations -/

section Operations

variable {s t : Bool} {num den num' den' m n k : Nat}

theorem limit_pos : 0 < limit := by
  obtain ⟨e, -, hlimit⟩ := exists_one_eq_pow
  rw [hlimit]
  exact Nat.two_pow_pos _

/-- What is rounded to no units at all keeps its sign. -/
theorem ofFraction_of_roundUnits_eq_zero (h : roundUnits num den = 0) (s : Bool) :
    ofFraction s num den = .finite s 0 := by
  simp only [ofFraction, h, if_pos limit_pos]

theorem ofFraction_zero (s : Bool) (hden : 0 < den) : ofFraction s 0 den = .finite s 0 := by
  have hround := roundUnits_of_isExact (isExact_mul_two_pow (Nat.zero_le _) 0) hden
  rw [Nat.zero_mul, Nat.zero_mul] at hround
  exact ofFraction_of_roundUnits_eq_zero hround s

/-- A negative fraction is rounded to the mirror image of the positive one. -/
theorem neg_ofFraction (num den : Nat) :
    ofFraction true num den = neg (ofFraction false num den) := by
  simp only [ofFraction]
  split <;> rfl

/-- Mirror images are in the opposite order. -/
theorem neg_le_neg {x y : Binary64} (hx : Nonneg x) (hy : Nonneg y) (h : x ≤ y) :
    neg y ≤ neg x := by
  cases hy with
  | infinite =>
    refine infinite_true_le ?_
    cases hx <;> nofun
  | finite n =>
    obtain ⟨m, hm, rfl⟩ := hx.exists_of_le_finite h
    rw [neg, neg, finite_le_iff]
    simpa [signedUnits] using hm

theorem neg_le_of_nonneg {x y : Binary64} (hx : Nonneg x) (hy : Nonneg y) : neg x ≤ y := by
  cases hx with
  | infinite =>
    refine infinite_true_le ?_
    cases hy <;> nofun
  | finite n =>
    cases hy with
    | infinite => rfl
    | finite m => exact finite_true_le_false n m

/-- A greater fraction is not rounded to a smaller number, whatever the signs are. -/
theorem ofFraction_le_of_signed (hden : 0 < den) (hden' : 0 < den')
    (h : signedUnits s num * den' ≤ signedUnits t num' * den) :
    ofFraction s num den ≤ ofFraction t num' den' := by
  rw [← signedUnits_mul_natCast, ← signedUnits_mul_natCast] at h
  obtain ⟨rfl, rfl, hle⟩ | ⟨rfl, rfl, hle⟩ | ⟨rfl, rfl⟩ | ⟨rfl, rfl, hnum, hnum'⟩ :=
    signedUnits_le_cases h
  · exact ofFraction_le_ofFraction hden hden' hle
  · rw [neg_ofFraction, neg_ofFraction]
    exact neg_le_neg (nonneg_ofFraction _ _) (nonneg_ofFraction _ _)
      (ofFraction_le_ofFraction hden' hden hle)
  · rw [neg_ofFraction]
    exact neg_le_of_nonneg (nonneg_ofFraction _ _) (nonneg_ofFraction _ _)
  · obtain rfl := (Nat.mul_eq_zero.1 hnum).resolve_right hden'.ne'
    obtain rfl := (Nat.mul_eq_zero.1 hnum').resolve_right hden.ne'
    rw [ofFraction_zero _ hden, ofFraction_zero _ hden', finite_le_iff]
    exact Int.le_refl _

/-- Products with a fixed positive number keep the order. -/
theorem keepsOrder_mul (hk : 0 < k) : KeepsOrder (· * .finite false k) := by
  refine keepsOrder_of_finite (fun {s t m n} h => ?_) fun s => ?_
  · have hmul (s : Bool) (n : Nat) : finite s n * finite false k = ofFraction s (n * k) one :=
      congrArg (ofFraction · _ _) (Bool.bne_false s)
    rw [hmul, hmul]
    refine ofFraction_le_of_signed oneUnits_pos oneUnits_pos ?_
    rw [signedUnits_mul_natCast, signedUnits_mul_natCast]
    exact Int.mul_le_mul_of_nonneg_right
      (Int.mul_le_mul_of_nonneg_right h (Int.natCast_nonneg k)) (Int.natCast_nonneg one)
  · exact (if_neg hk.ne').trans (congrArg _ (Bool.bne_false s))

/-- Quotients by a fixed positive number keep the order. -/
theorem keepsOrder_div (hk : 0 < k) : KeepsOrder (· / .finite false k) := by
  refine keepsOrder_of_finite (fun {s t m n} h => ?_) fun s => ?_
  · have hdiv (s : Bool) (n : Nat) : finite s n / finite false k = ofFraction s (n * one) k :=
      (if_pos hk.ne').trans (congrArg (ofFraction · _ _) (Bool.bne_false s))
    rw [hdiv, hdiv]
    refine ofFraction_le_of_signed hk hk ?_
    rw [signedUnits_mul_natCast, signedUnits_mul_natCast]
    exact Int.mul_le_mul_of_nonneg_right
      (Int.mul_le_mul_of_nonneg_right h (Int.natCast_nonneg one)) (Int.natCast_nonneg k)
  · exact congrArg infinite (Bool.bne_false s)

/-- A sum is the exact one, rounded. -/
theorem exists_add_eq (s t : Bool) (m k : Nat) : ∃ r j,
    finite s m + finite t k = ofFraction r j 1 ∧
      signedUnits r j = signedUnits s m + signedUnits t k := by
  change ∃ r j, add _ _ = _ ∧ _
  rw [add]
  split_ifs with hst hkm hmk
  · refine ⟨s, m + k, rfl, ?_⟩
    subst hst
    cases s <;> simp [signedUnits]
    omega
  · refine ⟨s, m - k, rfl, ?_⟩
    cases s <;> cases t <;> simp [signedUnits] at hst ⊢ <;> omega
  · refine ⟨t, k - m, rfl, ?_⟩
    cases s <;> cases t <;> simp [signedUnits] at hst ⊢ <;> omega
  · refine ⟨false, 0, (ofFraction_zero false Nat.one_pos).symm, ?_⟩
    cases s <;> cases t <;> simp [signedUnits] at hst ⊢ <;> omega

theorem keepsOrder_add (t : Bool) (k : Nat) : KeepsOrder (· + .finite t k) := by
  refine keepsOrder_of_finite (fun {s s' m n} h => ?_) fun _ => rfl
  obtain ⟨r, i, hleft, hi⟩ := exists_add_eq s t m k
  obtain ⟨r', j, hright, hj⟩ := exists_add_eq s' t n k
  rw [hleft, hright]
  refine ofFraction_le_of_signed Nat.one_pos Nat.one_pos ?_
  rw [hi, hj]
  exact Int.mul_le_mul_of_nonneg_right (Int.add_le_add_right h _) (Int.natCast_nonneg 1)

/-- Rounding down keeps the order. A negative number goes away from zero, by the units above the
next whole number. -/
theorem keepsOrder_floor : KeepsOrder floor := by
  refine keepsOrder_of_finite (fun h => ?_) fun _ => rfl
  obtain ⟨rfl, rfl, hle⟩ | ⟨rfl, rfl, hle⟩ | ⟨rfl, rfl⟩ | ⟨rfl, rfl, rfl, rfl⟩ :=
    signedUnits_le_cases h
  · exact rises_floor.finite_le hle
  · rw [floor, floor, finite_le_iff, signedUnits, signedUnits, if_pos rfl, if_pos rfl]
    exact Int.neg_le_neg (Int.ofNat_le.2
      (Nat.mul_le_mul_right one (Nat.div_le_div_right (Nat.add_le_add_right hle _))))
  · exact finite_true_le_false _ _
  · have hzero : (0 + (one - 1)) / one * one = 0 := by
      have := oneUnits_pos
      rw [Nat.div_eq_of_lt (by omega), Nat.zero_mul]
    rw [floor, floor, hzero, Nat.zero_div, Nat.zero_mul, finite_le_iff]
    exact Int.le_refl _

end Operations

end Viewport.Binary64
