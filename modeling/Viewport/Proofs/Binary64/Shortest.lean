import Mathlib.Data.List.Range
import Viewport.Binary64.Shortest
import Viewport.Proofs.Binary64.Rounding

/-!
# The shortest decimal of a number

The decimals that are tried start at the first digit of the number and get one digit longer at a
time. So none is tried that is longer than a decimal which reads as the number. Seventeen digits are
always enough, so the decimal that is found reads as the number.
-/

namespace Viewport.Binary64

/-! ## The first place -/

seal one

section Scaled

variable {n : Nat} {e : Int}

theorem scaled_of_nonneg (n : Nat) (he : 0 ≤ e) :
    scaled n e = (n, one * 10 ^ e.toNat) := if_pos he

theorem scaled_of_neg (n : Nat) (he : e < 0) :
    scaled n e = (n * 10 ^ (-e).toNat, one) := if_neg (Int.not_le.2 he)

theorem scaled_snd_pos (n : Nat) (e : Int) : 0 < (scaled n e).2 := by
  obtain he | he := le_or_gt 0 e
  · rw [scaled_of_nonneg n he]
    exact Nat.mul_pos oneUnits_pos (Nat.pow_pos (by decide))
  · rw [scaled_of_neg n he]
    exact oneUnits_pos

/-- The number against a power of ten, with the units and `10 ^ (-k)` cleared. -/
theorem scaled_snd_le_fst_iff {k : Nat} (he : -k ≤ e) :
    (scaled n e).2 ≤ (scaled n e).1 ↔ 10 ^ (e + k).toNat * one ≤ n * 10 ^ k := by
  obtain h | h := le_or_gt 0 e
  · have hexp : (e + k).toNat = e.toNat + k := by omega
    have hpow : 10 ^ (e.toNat + k) * one = one * 10 ^ e.toNat * 10 ^ k := by ring
    rw [scaled_of_nonneg n h, hexp, hpow, Nat.mul_le_mul_right_iff (Nat.pow_pos (by decide))]
  · have hexp : k = (e + k).toNat + (-e).toNat := by omega
    have hpow : n * 10 ^ ((e + k).toNat + (-e).toNat) =
        10 ^ (e + k).toNat * (n * 10 ^ (-e).toNat) := by ring
    conv => rhs; rhs; rw [hexp]
    rw [scaled_of_neg n h, hpow, Nat.mul_le_mul_left_iff (Nat.pow_pos (by decide))]

end Scaled

/-- A number has more digits than the powers of ten have zeros that it reaches. -/
theorem pow_le_iff_lt_length_toDigits {n k : Nat} (hn : 0 < n) :
    10 ^ k ≤ n ↔ k < (Nat.toDigits 10 n).length := by
  cases k with
  | zero => exact iff_of_true hn Nat.length_toDigits_pos
  | succ k =>
    rw [← Nat.not_lt, ← Nat.length_toDigits_le_iff (by decide) (Nat.succ_pos k), Nat.not_le]

section FirstPlace

variable {n : Nat} {e : Int}

/-- The first place, by the digits of the number in a power of ten that is finer than its units.
As in `exists_one_eq_pow`, nothing evaluates the power. -/
theorem exists_firstPlace_eq : ∃ k : Nat, 340 = k ∧ 10 ^ 16 * one ≤ 10 ^ k ∧
    ∀ n, firstPlace n = (Nat.toDigits 10 (n * Nat.pow 10 k / one)).length - k := by
  obtain ⟨k, hk, hpow⟩ : ∃ k : Nat, 340 = k ∧ 10 ^ 16 * one ≤ 10 ^ k :=
    ⟨340, rfl, by decide +kernel⟩
  have hcast : (340 : Int) = k := by omega
  exact ⟨k, hk, hpow, fun n => by rw [firstPlace, hk, hcast]⟩

/-- The first digit stands before a place if the number is not below that power of ten. -/
theorem lt_firstPlace_iff (hn : 0 < n) (he : -340 ≤ e) :
    e < firstPlace n ↔ (scaled n e).2 ≤ (scaled n e).1 := by
  obtain ⟨k, hk, hpow, hplace⟩ := exists_firstPlace_eq
  have hone : one ≤ 10 ^ k := (Nat.le_mul_of_pos_left one (Nat.pow_pos (by decide))).trans hpow
  have hpos : 0 < n * 10 ^ k / one :=
    Nat.div_pos (hone.trans (Nat.le_mul_of_pos_left _ hn)) oneUnits_pos
  have hlen : e < firstPlace n ↔ (e + k).toNat < (Nat.toDigits 10 (n * 10 ^ k / one)).length := by
    rw [hplace, Nat.pow_eq]
    omega
  rw [hlen, ← pow_le_iff_lt_length_toDigits hpos, Nat.le_div_iff_mul_le oneUnits_pos,
    scaled_snd_le_fst_iff (k := k) (by omega)]

/-- The first digit of a number that reaches a power of ten stands at its place or before. -/
theorem natCast_lt_firstPlace {k : Nat} (hn : 0 < n) (h : 10 ^ k * one ≤ n) :
    (k : Int) < firstPlace n := by
  rw [lt_firstPlace_iff hn (by omega), scaled_of_nonneg n (Int.natCast_nonneg k), Nat.mul_comm]
  exact h

theorem neg_natCast_lt_firstPlace {k : Nat} (hn : 0 < n) (hk : k ≤ 340) (h : one ≤ n * 10 ^ k) :
    -(k : Int) < firstPlace n := by
  rw [lt_firstPlace_iff hn (by omega)]
  cases k with
  | zero =>
    rw [Int.natCast_zero, Int.neg_zero, scaled_of_nonneg n (Int.le_refl 0)]
    simpa using h
  | succ k =>
    rw [scaled_of_neg n (by omega), Int.neg_neg]
    exact h

theorem neg_324_lt_firstPlace (hn : 0 < n) : -324 < firstPlace n := by
  obtain ⟨k, hk, hpow, -⟩ := exists_firstPlace_eq
  have hplace : (-324 + (k : Int)).toNat = 16 := by omega
  rw [lt_firstPlace_iff hn (by decide), scaled_snd_le_fst_iff (k := k) (by omega), hplace]
  exact hpow.trans (Nat.le_mul_of_pos_left _ hn)

end FirstPlace

/-! ## Decimals that read as a number -/

section Nearest

variable {tie : Tie} {n m : Nat} {e : Int} {d : Decimal}

theorem unitsOf_of_nonneg (m : Nat) (he : 0 ≤ e) :
    unitsOf ⟨m, e⟩ = roundUnits (m * 10 ^ e.toNat * one) 1 := if_pos he

theorem unitsOf_of_neg (m : Nat) (he : e < 0) :
    unitsOf ⟨m, e⟩ = roundUnits (m * one) (10 ^ (-e).toNat) := if_neg (Int.not_le.2 he)

theorem unitsOf_neg_natCast (m k : Nat) :
    unitsOf ⟨m, -(k : Int)⟩ = roundUnits (m * one) (10 ^ k) := by
  cases k with
  | zero =>
    rw [Int.natCast_zero, Int.neg_zero, unitsOf_of_nonneg m (Int.le_refl 0), Int.toNat_zero,
      Nat.pow_zero, Nat.mul_one]
  | succ k => rw [unitsOf_of_neg m (by omega), Int.neg_neg, Int.toNat_natCast]

theorem ten_pow_toNat_of_nonneg (k : Nat) (he : 0 ≤ e) :
    10 ^ (e + k).toNat = 10 ^ e.toNat * 10 ^ k := by
  rw [← Nat.pow_add]
  congr 1
  omega

theorem ten_pow_of_neg {k : Nat} (he : e < 0) (hk : -k ≤ e) :
    10 ^ k = 10 ^ (-e).toNat * 10 ^ (e + k).toNat := by
  rw [← Nat.pow_add]
  congr 1
  omega

/-- A decimal as a fraction of a unit, with a power of ten on both sides of the line. -/
theorem unitsOf_eq_roundUnits {k : Nat} (m : Nat) (hk : -k ≤ e) :
    unitsOf ⟨m, e⟩ = roundUnits (m * 10 ^ (e + k).toNat * one) (10 ^ k) := by
  obtain he | he := le_or_gt 0 e
  · have hpos : 0 < 10 ^ k := Nat.pow_pos (by decide)
    rw [unitsOf_of_nonneg m he, ten_pow_toNat_of_nonneg k he, ← roundUnits_mul_right hpos,
      Nat.one_mul, Nat.mul_right_comm _ one, Nat.mul_assoc m]
  · have hpos : 0 < 10 ^ (e + k).toNat := Nat.pow_pos (by decide)
    rw [unitsOf_of_neg m he, ten_pow_of_neg he hk, Nat.mul_right_comm, roundUnits_mul_right hpos]

/-- The number read from a decimal, and what the decimal is against a number. -/
theorem exists_unitsOf_eq (e : Int) : ∃ a b : Nat, 0 < b ∧
    (∀ m, unitsOf ⟨m, e⟩ = roundUnits (m * a) b) ∧
    ∀ n m, (m * (scaled n e).2 ≤ (scaled n e).1 ↔ m * a ≤ n * b) ∧
      ((scaled n e).1 ≤ m * (scaled n e).2 ↔ n * b ≤ m * a) := by
  obtain he | he := le_or_gt 0 e
  · refine ⟨10 ^ e.toNat * one, 1, Nat.one_pos, fun m => ?_, fun n m => ?_⟩
    · rw [unitsOf_of_nonneg m he, Nat.mul_assoc]
    · rw [scaled_of_nonneg n he, Nat.mul_one, Nat.mul_comm one]
      exact ⟨Iff.rfl, Iff.rfl⟩
  · refine ⟨one, 10 ^ (-e).toNat, Nat.pow_pos (by decide), fun m => unitsOf_of_neg m he,
      fun n m => ?_⟩
    rw [scaled_of_neg n he]
    exact ⟨Iff.rfl, Iff.rfl⟩

/-- A decimal at or below a number of the format does not read as a greater one. -/
theorem unitsOf_le (hn : IsExact n) (h : m * (scaled n e).2 ≤ (scaled n e).1) :
    unitsOf ⟨m, e⟩ ≤ n := by
  obtain ⟨a, b, hb, hunits, hscaled⟩ := exists_unitsOf_eq e
  rw [hunits]
  calc roundUnits (m * a) b ≤ roundUnits (n * b) b :=
        roundUnits_mono hb hb (Nat.mul_le_mul_right b ((hscaled n m).1.1 h))
    _ = n := roundUnits_of_isExact hn hb

/-- Enough digits at a place give no less than an exact number. -/
theorem le_unitsOf (hn : IsExact n) (h : (scaled n e).1 ≤ m * (scaled n e).2) :
    n ≤ unitsOf ⟨m, e⟩ := by
  obtain ⟨a, b, hb, hunits, hscaled⟩ := exists_unitsOf_eq e
  rw [hunits]
  calc n = roundUnits (n * b) b := (roundUnits_of_isExact hn hb).symm
    _ ≤ roundUnits (m * a) b :=
        roundUnits_mono hb hb (Nat.mul_le_mul_right b ((hscaled n m).2.1 h))

/-- More digits at a place give no fewer units. -/
theorem unitsOf_mono {m' : Nat} (h : m ≤ m') : unitsOf ⟨m, e⟩ ≤ unitsOf ⟨m', e⟩ := by
  obtain ⟨a, b, hb, hunits, -⟩ := exists_unitsOf_eq e
  rw [hunits, hunits]
  exact roundUnits_mono hb hb (Nat.mul_le_mul_right b (Nat.mul_le_mul_right a h))

/-- What is found at a place has its last digit there, and is one of the two decimals around the
number. -/
theorem of_nearestAt?_eq_some (h : nearestAt? tie n e = some d) :
    d.exponent = e ∧ (scaled n e).1 / (scaled n e).2 ≤ d.digits := by
  have hbelow (hd : some (⟨(scaled n e).1 / (scaled n e).2, e⟩ : Decimal) = some d) :
      d.exponent = e ∧ (scaled n e).1 / (scaled n e).2 ≤ d.digits := by
    obtain rfl := Option.some.inj hd
    exact ⟨rfl, Nat.le_refl _⟩
  have habove (hd : some (⟨(scaled n e).1 / (scaled n e).2 + 1, e⟩ : Decimal) = some d) :
      d.exponent = e ∧ (scaled n e).1 / (scaled n e).2 ≤ d.digits := by
    obtain rfl := Option.some.inj hd
    exact ⟨rfl, Nat.le_succ _⟩
  simp only [nearestAt?] at h
  split at h
  · cases h
  · exact hbelow h
  · exact habove h
  · split_ifs at h
    · exact hbelow h
    · exact habove h
    · exact hbelow h
    · exact habove h

/-- What is found at a place reads as the number. -/
theorem unitsOf_of_nearestAt? (h : nearestAt? tie n e = some d) : unitsOf d = n := by
  have hreads {d' : Decimal} (hd' : (unitsOf d' == n) = true) (hd : some d' = some d) :
      unitsOf d = n := by
    obtain rfl := Option.some.inj hd
    exact beq_iff_eq.1 hd'
  simp only [nearestAt?] at h
  split at h
  · cases h
  · rename_i hbelow _
    exact hreads hbelow h
  · rename_i _ habove
    exact hreads habove h
  · rename_i hbelow habove
    split_ifs at h
    · exact hreads hbelow h
    · exact hreads habove h
    · exact hreads hbelow h
    · exact hreads habove h

/-- If some decimal with its last digit at a place reads as the number, one is found there: the
two that are tried are the nearest. -/
theorem exists_nearestAt?_eq_some (tie : Tie) (hn : IsExact n) (h : unitsOf ⟨m, e⟩ = n) :
    ∃ d, nearestAt? tie n e = some d := by
  have hpos := scaled_snd_pos n e
  have hreads : unitsOf ⟨(scaled n e).1 / (scaled n e).2, e⟩ = n ∨
      unitsOf ⟨(scaled n e).1 / (scaled n e).2 + 1, e⟩ = n := by
    obtain hm | hm := Nat.lt_or_ge ((scaled n e).1 / (scaled n e).2) m
    · refine .inr (Nat.le_antisymm ((unitsOf_mono hm).trans_eq h) (le_unitsOf hn ?_))
      exact (Nat.lt_mul_of_div_lt (Nat.lt_succ_self _) hpos).le
    · refine .inl (Nat.le_antisymm (unitsOf_le hn ?_) (h.symm.trans_le (unitsOf_mono hm)))
      exact Nat.div_mul_le_self _ _
  simp only [nearestAt?]
  split
  · rename_i hbelow habove
    obtain h | h := hreads
    · exact absurd h (beq_eq_false_iff_ne.1 hbelow)
    · exact absurd h (beq_eq_false_iff_ne.1 habove)
  · exact ⟨_, rfl⟩
  · exact ⟨_, rfl⟩
  · split_ifs <;> exact ⟨_, rfl⟩

end Nearest

/-! ## The shortest decimal -/

theorem findSome?_range_eq_some {α : Type} {f : Nat → Option α} {len : Nat} {a : α}
    (h : (List.range len).findSome? f = some a) :
    ∃ k < len, f k = some a ∧ ∀ j < k, f j = none := by
  induction len with
  | zero => cases h
  | succ len ih =>
    rw [List.range_succ, List.findSome?_append, Option.or_eq_some_iff] at h
    obtain h | ⟨hnone, h⟩ := h
    · obtain ⟨k, hk, hfound⟩ := ih h
      exact ⟨k, hk.trans (Nat.lt_succ_self len), hfound⟩
    · refine ⟨len, Nat.lt_succ_self len, by simpa using h, fun j hj => ?_⟩
      exact List.findSome?_eq_none_iff.1 hnone j (List.mem_range.2 hj)

section Shortest

variable {tie : Tie} {n m : Nat} {e : Int}

/-- The shortest decimal is found at the first place where one is found, or has all seventeen
digits. -/
theorem shortest_cases (tie : Tie) (n : Nat) :
    (∃ k : Nat, k < 17 ∧ nearestAt? tie n (firstPlace n - (k + 1)) = some (shortest tie n) ∧
      ∀ j : Nat, j < k → nearestAt? tie n (firstPlace n - (j + 1)) = none) ∨
    shortest tie n = ⟨(scaled n (firstPlace n - 17)).1 / (scaled n (firstPlace n - 17)).2,
        firstPlace n - 17⟩ ∧
      ∀ j : Nat, j < 17 → nearestAt? tie n (firstPlace n - (j + 1)) = none := by
  rw [shortest]
  cases h : (List.range 17).findSome? fun k : Nat => nearestAt? tie n (firstPlace n - (k + 1)) with
  | some d => exact .inl (findSome?_range_eq_some h)
  | none =>
    exact .inr ⟨rfl, fun j hj => List.findSome?_eq_none_iff.1 h j (List.mem_range.2 hj)⟩

/-- No more than seventeen digits are needed. -/
theorem firstPlace_sub_le_exponent (tie : Tie) (n : Nat) :
    firstPlace n - 17 ≤ (shortest tie n).exponent := by
  obtain ⟨k, hk, hfound, -⟩ | ⟨h, -⟩ := shortest_cases tie n
  · rw [(of_nearestAt?_eq_some hfound).1]
    omega
  · rw [h]

/-- A positive number has a digit that is not zero. -/
theorem shortest_digits_pos (tie : Tie) (hn : 0 < n) : 0 < (shortest tie n).digits := by
  have hplace := neg_324_lt_firstPlace hn
  have hquot {e : Int} (h : e < firstPlace n) (he : -340 ≤ e) :
      0 < (scaled n e).1 / (scaled n e).2 :=
    Nat.div_pos ((lt_firstPlace_iff hn he).1 h) (scaled_snd_pos n e)
  obtain ⟨k, hk, hfound, -⟩ | ⟨h, -⟩ := shortest_cases tie n
  · exact (hquot (by omega) (by omega)).trans_le (of_nearestAt?_eq_some hfound).2
  · rw [h]
    exact hquot (by omega) (by omega)

/-- No decimal that reads as the number has its last digit further to the left than the
shortest one, unless it is left of all digits of the number. -/
theorem le_shortest_exponent (tie : Tie) (hn : IsExact n) (h : unitsOf ⟨m, e⟩ = n)
    (he : e < firstPlace n) : e ≤ (shortest tie n).exponent := by
  obtain hsmall | hlarge := le_or_gt e (firstPlace n - 17)
  · exact hsmall.trans (firstPlace_sub_le_exponent tie n)
  · -- the decimal's own place is among those that are tried
    obtain ⟨i, hi⟩ : ∃ i : Nat, e = firstPlace n - (i + 1) :=
      ⟨(firstPlace n - 1 - e).toNat, by omega⟩
    subst hi
    obtain ⟨d, hd⟩ := exists_nearestAt?_eq_some tie hn h
    obtain ⟨k, hk, hfound, hnone⟩ | ⟨-, hnone⟩ := shortest_cases tie n
    · have hki : k ≤ i := by
        by_contra hik
        rw [hnone i (by omega)] at hd
        cases hd
      rw [(of_nearestAt?_eq_some hfound).1]
      omega
    · rw [hnone i (by omega)] at hd
      cases hd

/-- Seventeen digits are enough: of the decimals with so many, the one that is nearest to a number
of the format reads as it. -/
theorem exists_unitsOf_eq_of_isExact (hn : IsExact n) (hpos : 0 < n) :
    ∃ m, unitsOf ⟨m, firstPlace n - 17⟩ = n := by
  obtain ⟨k, hk, -⟩ := exists_firstPlace_eq
  have hplace := neg_324_lt_firstPlace hpos
  have hexp : (firstPlace n - 1 + k).toNat = 16 + (firstPlace n - 17 + k).toNat := by omega
  have hfirst : firstPlace n - 1 < firstPlace n := by omega
  rw [lt_firstPlace_iff hpos (by omega), scaled_snd_le_fst_iff (k := k) (by omega), hexp,
    Nat.pow_add, Nat.mul_assoc] at hfirst
  simp only [unitsOf_eq_roundUnits (k := k) _ (show -(k : Int) ≤ firstPlace n - 17 by omega),
    Nat.mul_assoc]
  have hunit : 0 < 10 ^ (firstPlace n - 17 + k).toNat * one :=
    Nat.mul_pos (Nat.pow_pos (by decide)) oneUnits_pos
  generalize 10 ^ (firstPlace n - 17 + k).toNat * one = a at hunit hfirst
  have hdiv := Nat.div_add_mod (2 * (n * 10 ^ k) + a) (2 * a)
  have hmod := Nat.mod_lt (2 * (n * 10 ^ k) + a) (Nat.mul_pos Nat.two_pos hunit)
  rw [Nat.mul_assoc 2 a, Nat.mul_comm a] at hdiv
  exact ⟨(2 * (n * 10 ^ k) + a) / (2 * a), roundUnits_of_close (r := a) hn
    (Nat.pow_pos (by decide)) (by omega) (by omega) (by omega)⟩

/-- The shortest digits are read as the number that they have been made from. -/
theorem unitsOf_shortest (tie : Tie) (hn : IsExact n) (hpos : 0 < n) :
    unitsOf (shortest tie n) = n := by
  obtain ⟨k, -, hfound, -⟩ | ⟨-, hnone⟩ := shortest_cases tie n
  · exact unitsOf_of_nearestAt? hfound
  · obtain ⟨m, hm⟩ := exists_unitsOf_eq_of_isExact hn hpos
    obtain ⟨d, hd⟩ := exists_nearestAt?_eq_some tie hn hm
    cases (hnone 16 (by decide)).symm.trans hd

end Shortest

end Viewport.Binary64
