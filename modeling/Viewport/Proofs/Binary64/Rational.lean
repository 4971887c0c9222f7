import Mathlib.Algebra.Order.Floor.Ring
import Mathlib.Data.Rat.Floor
import Mathlib.Tactic.FieldSimp
import Mathlib.Tactic.Linarith
import Viewport.Proofs.Binary64.Exact

/-!
# Finite numbers as fractions

A finite number stands for a fraction. An operation gives its exact result exactly if that is one of
the format, whatever the signs are; the whole part of a number is always exact.
-/

namespace Viewport.Binary64

seal one limit

/-! ## The fraction of a number -/

theorem one_cast_pos : (0 : ℚ) < one := Nat.cast_pos.2 oneUnits_pos

theorem one_cast_ne_zero : (one : ℚ) ≠ 0 := one_cast_pos.ne'

section SignedUnits

variable (s t : Bool) (m n : Nat)

/-- The sign of a product is that of the two signs. -/
theorem signedUnits_mul :
    signedUnits (s != t) (m * n) = signedUnits s m * signedUnits t n := by
  cases s <;> cases t <;> simp [signedUnits]

theorem natAbs_signedUnits : (signedUnits s n).natAbs = n := by
  cases s <;> simp [signedUnits]

theorem abs_signedUnits : |(signedUnits s n : ℚ)| = n := by
  cases s <;> simp [signedUnits]

variable {s t m n} in
theorem eq_of_signedUnits_eq (h : signedUnits s m = signedUnits t n) :
    m = n ∧ (s = t ∨ m = 0) := by
  obtain rfl : m = n := by
    rw [← natAbs_signedUnits s m, h, natAbs_signedUnits]
  refine ⟨rfl, ?_⟩
  cases s <;> cases t <;> simp [signedUnits] at h ⊢ <;> omega

end SignedUnits

/-- The fraction a finite number stands for. -/
def toRat? : Binary64 → Option ℚ
  | .finite s n => some (signedUnits s n / one)
  | _ => none

variable {x y : Binary64} {a b : ℚ}

/-- A number stands for a fraction if it is finite: for that of its signed units. -/
theorem toRat?_eq_some_iff :
    x.toRat? = some a ↔ ∃ s n, x = .finite s n ∧ a = signedUnits s n / one := by
  constructor
  · intro h
    cases x with
    | finite s n => exact ⟨s, n, rfl, (Option.some.inj h).symm⟩
    | nan => cases h
    | infinite s => cases h
  · rintro ⟨s, n, rfl, rfl⟩
    rfl

/-- A whole number has a whole number of ones as its units. -/
theorem exists_of_toRat?_intCast {j : ℤ} (hx : x.toRat? = some (j : ℚ)) :
    ∃ s k, x = .finite s (k * one) ∧ j = signedUnits s k := by
  obtain ⟨s, n, rfl, hj⟩ := toRat?_eq_some_iff.1 hx
  have hunits : j * one = signedUnits s n := by
    exact_mod_cast (eq_div_iff one_cast_ne_zero).1 hj
  obtain rfl : n = j.natAbs * one := by
    rw [← natAbs_signedUnits s n, ← hunits, Int.natAbs_mul, Int.natAbs_natCast]
  refine ⟨s, j.natAbs, rfl, Int.eq_of_mul_eq_mul_right (Nat.cast_ne_zero.2 oneUnits_pos.ne') ?_⟩
  calc j * one = signedUnits (s != false) (j.natAbs * one) := by rw [hunits, Bool.bne_false]
    _ = signedUnits s j.natAbs * one := signedUnits_mul s false j.natAbs one

/-- Apart from the two zeros, finite numbers are told apart by their fractions. -/
theorem eq_of_toRat?_eq (hx : x.toRat? = some a) (hy : y.toRat? = some a)
    (hx0 : x ≠ .finite true 0) (hy0 : y ≠ .finite true 0) : x = y := by
  obtain ⟨s, m, rfl, rfl⟩ := toRat?_eq_some_iff.1 hx
  obtain ⟨t, n, rfl, heq⟩ := toRat?_eq_some_iff.1 hy
  have hunits : signedUnits s m = signedUnits t n := by
    exact_mod_cast (div_left_inj' one_cast_ne_zero).1 heq
  obtain ⟨rfl, rfl | rfl⟩ := eq_of_signedUnits_eq hunits
  · rfl
  · cases s with
    | true => exact absurd rfl hx0
    | false =>
      cases t with
      | true => exact absurd rfl hy0
      | false => rfl

/-! ## The fractions of the format -/

/-- The format has the fraction, up to its sign. -/
def Fits (a : ℚ) : Prop := ∃ n, IsExact n ∧ n < limit ∧ |a| * one = n

/-- Whole numbers and halves of at most 53 binary digits are numbers of the format. -/
theorem fits_half {j : ℤ} (h : j.natAbs ≤ 2 ^ 53) : Fits (j / 2) := by
  obtain ⟨e, hone, hlimit⟩ := exists_one_eq_pow
  refine ⟨j.natAbs * 2 ^ e, isExact_mul_two_pow h e, ?_, ?_⟩
  · calc j.natAbs * 2 ^ e ≤ 2 ^ 53 * 2 ^ e := Nat.mul_le_mul_right _ h
      _ = 2 ^ (53 + e) := (Nat.pow_add 2 53 e).symm
      _ < limit := hlimit.symm ▸ Nat.pow_lt_pow_right (by decide) (by omega)
  · rw [hone, abs_div, Nat.abs_ofNat, Nat.cast_mul, Nat.cast_natAbs, Int.cast_abs]
    push_cast
    rw [pow_succ]
    ring

/-- Small whole numbers are of the format. -/
theorem fits_intCast {j : ℤ} (h : j.natAbs ≤ 2 ^ 52) : Fits j := by
  have hdouble := fits_half (j := j * 2) (by rw [Int.natAbs_mul]; simp; omega)
  rwa [Int.cast_mul, Int.cast_ofNat, mul_div_cancel_right₀ _ two_ne_zero] at hdouble

theorem fits_natCast {n : ℕ} (h : n ≤ 2 ^ 52) : Fits n := by
  simpa using fits_intCast (j := n) h

/-! ## Operations -/

theorem ofFraction_eq_finite {s : Bool} {num den n : Nat} (h : roundUnits num den = n)
    (hn : n < limit) : ofFraction s num den = .finite s n := by
  simp only [ofFraction, h, if_pos hn]

/-- A fraction is not rounded exactly if the format has it. -/
theorem toRat?_ofFraction_iff {s : Bool} {num den : Nat} (hden : 0 < den) :
    (ofFraction s num den).toRat? = some ((signedUnits s num : ℚ) / den / one) ↔
      Fits (signedUnits s num / den / one) := by
  have hden0 : (den : ℚ) ≠ 0 := Nat.cast_ne_zero.2 hden.ne'
  constructor
  · intro h
    rw [ofFraction] at h
    split at h
    · rename_i hlt
      refine ⟨_, isExact_roundUnits hden, hlt, ?_⟩
      rw [← Option.some.inj h, abs_div, abs_signedUnits, Nat.abs_cast,
        div_mul_cancel₀ _ one_cast_ne_zero]
    · cases h
  · rintro ⟨n, hexact, hlt, hn⟩
    obtain rfl : num = n * den := by
      rw [abs_div, abs_div, abs_signedUnits, Nat.abs_cast, Nat.abs_cast,
        div_mul_cancel₀ _ one_cast_ne_zero, div_eq_iff hden0] at hn
      exact_mod_cast hn
    have hunits : (signedUnits s (n * den) : ℚ) / den = signedUnits s n := by
      rw [div_eq_iff hden0]
      cases s <;> simp [signedUnits]
    rw [ofFraction_eq_finite (roundUnits_of_isExact hexact hden) hlt, hunits, toRat?]

/-- A natural number is converted without rounding exactly if the format has it. -/
theorem toRat?_ofNat_iff {n : ℕ} : (ofNat n).toRat? = some (n : ℚ) ↔ Fits n := by
  have hunits : (signedUnits false (n * one) : ℚ) / (1 : ℕ) / one = n := by
    rw [signedUnits, Nat.cast_one, div_one]
    push_cast
    exact mul_div_cancel_right₀ _ one_cast_ne_zero
  rw [← hunits]
  exact toRat?_ofFraction_iff Nat.one_pos

/-- A product is not rounded exactly if the format has it. -/
theorem toRat?_mul_iff (hx : x.toRat? = some a) (hy : y.toRat? = some b) :
    (x * y).toRat? = some (a * b) ↔ Fits (a * b) := by
  obtain ⟨s, m, rfl, rfl⟩ := toRat?_eq_some_iff.1 hx
  obtain ⟨t, n, rfl, rfl⟩ := toRat?_eq_some_iff.1 hy
  have hunits : (signedUnits s m / one * (signedUnits t n / one) : ℚ) =
      signedUnits (s != t) (m * n) / one / one := by
    rw [signedUnits_mul, Int.cast_mul, div_mul_div_comm, div_div]
  rw [hunits]
  exact toRat?_ofFraction_iff oneUnits_pos

/-- A quotient is not rounded exactly if the format has it. -/
theorem toRat?_div_iff (hx : x.toRat? = some a) (hy : y.toRat? = some b) (hb : b ≠ 0) :
    (x / y).toRat? = some (a / b) ↔ Fits (a / b) := by
  obtain ⟨s, m, rfl, rfl⟩ := toRat?_eq_some_iff.1 hx
  obtain ⟨t, n, rfl, rfl⟩ := toRat?_eq_some_iff.1 hy
  have hn : n ≠ 0 := by
    rintro rfl
    cases t <;> simp [signedUnits] at hb
  have hunits : (signedUnits s m / one / (signedUnits t n / one) : ℚ) =
      signedUnits (s != t) (m * one) / n / one := by
    have hn0 : (n : ℚ) ≠ 0 := Nat.cast_ne_zero.2 hn
    have hone := one_cast_ne_zero
    cases s <;> cases t <;> simp [signedUnits] <;> field_simp
  have hdiv : finite s m / finite t n = ofFraction (s != t) (m * one) n := by
    change div _ _ = _
    rw [div, if_pos hn]
  rw [hunits, hdiv]
  exact toRat?_ofFraction_iff (Nat.pos_of_ne_zero hn)

/-- A sum is not rounded exactly if the format has it. -/
theorem toRat?_add_iff (hx : x.toRat? = some a) (hy : y.toRat? = some b) :
    (x + y).toRat? = some (a + b) ↔ Fits (a + b) := by
  obtain ⟨s, m, rfl, rfl⟩ := toRat?_eq_some_iff.1 hx
  obtain ⟨t, n, rfl, rfl⟩ := toRat?_eq_some_iff.1 hy
  rw [← add_div]
  have hsum : ∀ {r k}, (signedUnits s m + signedUnits t n : ℚ) = signedUnits r k →
      ((ofFraction r k 1).toRat? = some ((signedUnits s m + signedUnits t n : ℚ) / one) ↔
        Fits ((signedUnits s m + signedUnits t n) / one)) := by
    intro r k hk
    have hunits : (signedUnits r k : ℚ) / (1 : ℕ) / one = signedUnits r k / one := by
      rw [Nat.cast_one, div_one]
    rw [hk, ← hunits]
    exact toRat?_ofFraction_iff Nat.one_pos
  change (add _ _).toRat? = _ ↔ _
  rw [add]
  split_ifs with hst hnm hmn
  · subst hst
    exact hsum (by cases s <;> simp [signedUnits]; ring)
  · refine hsum ?_
    cases s <;> cases t <;> simp [signedUnits, Nat.cast_sub hnm.le] at hst ⊢ <;> ring
  · refine hsum ?_
    cases s <;> cases t <;> simp [signedUnits, Nat.cast_sub hmn.le] at hst ⊢ <;> ring
  · obtain rfl : m = n := by omega
    have hzero : (signedUnits s m + signedUnits t m : ℚ) / one = (0 : ℕ) := by
      cases s <;> cases t <;> simp [signedUnits] at hst ⊢
    rw [hzero]
    exact iff_of_true (by simp [zero, toRat?, signedUnits]) (fits_natCast (by decide))

/-- The whole part is never rounded. -/
theorem toRat?_floor (hx : x.toRat? = some a) : (floor x).toRat? = some (⌊a⌋ : ℚ) := by
  obtain ⟨s, n, rfl, rfl⟩ := toRat?_eq_some_iff.1 hx
  have hcancel : ∀ c : ℕ, ((c * one : ℕ) : ℚ) / one = c := fun c => by
    rw [Nat.cast_mul, mul_div_cancel_right₀ _ one_cast_ne_zero]
  cases s with
  | false =>
    have hwhole : ⌊(n / one : ℚ)⌋ = (n / one : ℕ) := by
      rw [Rat.floor_natCast_div_natCast, Int.natCast_div]
    simp only [floor, toRat?, signedUnits, Bool.false_eq_true, if_false, Int.cast_natCast, hcancel,
      hwhole]
  | true =>
    -- what is added before the division makes it round up
    have hpos := oneUnits_pos
    have hdiv := Nat.div_add_mod (n + (one - 1)) one
    have hmod := Nat.mod_lt (n + (one - 1)) hpos
    generalize hc : (n + (one - 1)) / one = c at hdiv
    have hlower : n ≤ one * c := by omega
    have hupper : one * c < n + one := by omega
    have hwhole : ⌊(-n / one : ℚ)⌋ = -(c : ℤ) := by
      rw [Int.floor_eq_iff, le_div_iff₀ one_cast_pos, div_lt_iff₀ one_cast_pos]
      push_cast
      have hlower' : (n : ℚ) ≤ one * c := by exact_mod_cast hlower
      have hupper' : (one : ℚ) * c < n + one := by exact_mod_cast hupper
      constructor <;> linarith
    simp only [floor, toRat?, signedUnits, if_true, Int.cast_neg, Int.cast_natCast, neg_div,
      hcancel, hc] at hwhole ⊢
    simp only [hwhole, Int.cast_neg, Int.cast_natCast]

/-! ## A whole number and a half

A whole number is kept by adding a half and dropping what is below one, also where the sum is
rounded, if the format has ten times the number: it then has more zeros than the half is wide.
-/

theorem exists_of_isExact_ten_mul {k : Nat} (h : IsExact (10 * k)) :
    ∃ m e, m < 2 ^ 51 ∧ k = m * 2 ^ e := by
  obtain ⟨m, e, hm, heq⟩ := h
  have hfive : 5 ∣ m := by
    have hcoprime : Nat.Coprime 5 (2 ^ e) := Nat.Coprime.pow_right e (by decide)
    refine hcoprime.dvd_of_dvd_mul_right ?_
    rw [← heq]
    exact ⟨2 * k, by ring⟩
  obtain ⟨m, rfl⟩ := hfive
  have hdouble : 2 * k = m * 2 ^ e := by
    rw [Nat.mul_assoc] at heq
    omega
  cases e with
  | zero => exact ⟨k, 0, by omega, by omega⟩
  | succ e =>
    rw [pow_succ, ← Nat.mul_assoc] at hdouble
    exact ⟨m, e, by omega, by omega⟩

theorem Fits.of_mul_ten {j : ℤ} (h : Fits (j * 10)) : Fits j := by
  obtain ⟨n, hexact, hlt, hn⟩ := h
  have hunits : 10 * (j.natAbs * one) = n := by
    rw [abs_mul, Nat.abs_ofNat, mul_right_comm] at hn
    rw [← Nat.cast_inj (R := ℚ), ← hn]
    push_cast [Nat.cast_natAbs]
    ring
  rw [← hunits] at hexact hlt
  obtain ⟨m, e, hm, heq⟩ := exists_of_isExact_ten_mul hexact
  refine ⟨j.natAbs * one, heq ▸ isExact_mul_two_pow (hm.le.trans (by decide)) e, by omega, ?_⟩
  push_cast [Nat.cast_natAbs]
  rfl

/-- Above `2 ^ 52` a half is less than a step, so it is rounded away from a number with zeros at its
end. -/
theorem roundUnits_of_half {n k half : Nat} (hhalf : 2 * half = one) (h : IsExact (10 * k))
    (hlarge : 2 ^ 52 * one ≤ n) (hlower : k ≤ n + half) (hupper : n ≤ k + half) :
    roundUnits n 1 = k := by
  obtain ⟨m, e, hm, rfl⟩ := exists_of_isExact_ten_mul h
  obtain ⟨f, hone, -⟩ := exists_one_eq_pow
  have hpos := oneUnits_pos
  have hlog : 2 ^ n.log2 ≤ n := Nat.log2_self_le (by omega)
  have hfirst : f + 1 ≤ n.log2 - 52 := by
    have hlt : 2 ^ (52 + (f + 1)) < 2 ^ (n.log2 + 1) := by
      rw [Nat.pow_add, ← hone]
      exact hlarge.trans_lt Nat.lt_log2_self
    have := (Nat.pow_lt_pow_iff_right (by decide)).1 hlt
    omega
  have hstep : one ≤ spacing n := hone ▸ Nat.pow_le_pow_right (by decide) hfirst
  have hwide : one < 2 ^ e := by
    refine Nat.lt_of_mul_lt_mul_left (a := 2 ^ 51) ?_
    calc 2 ^ 51 * one ≤ m * 2 ^ e := by omega
      _ < 2 ^ 51 * 2 ^ e := Nat.mul_lt_mul_of_pos_right hm (Nat.two_pow_pos e)
  have hlast : n.log2 < 51 + e := by
    refine (Nat.pow_lt_pow_iff_right (by decide : 1 < 2)).1 ?_
    calc 2 ^ n.log2 ≤ m * 2 ^ e + half := hlog.trans hupper
      _ < (m + 1) * 2 ^ e := by
        rw [Nat.succ_mul]
        omega
      _ ≤ 2 ^ 51 * 2 ^ e := Nat.mul_le_mul_right _ hm
      _ = 2 ^ (51 + e) := (Nat.pow_add 2 51 e).symm
  refine roundUnits_of_near (Nat.dvd_trans ?_ (Nat.dvd_mul_left _ m)) (by omega) (by omega)
  rw [spacing, Nat.pow_eq, ← pow_succ']
  exact Nat.pow_dvd_pow 2 (by omega)

/-- A half is of the format. -/
theorem toRat?_half : (ofNat 1 / ofNat 2).toRat? = some (1 / 2 : ℚ) := by
  have hone : (ofNat 1).toRat? = some ((1 : ℕ) : ℚ) := toRat?_ofNat_iff.2 (fits_natCast (by decide))
  have htwo : (ofNat 2).toRat? = some ((2 : ℕ) : ℚ) := toRat?_ofNat_iff.2 (fits_natCast (by decide))
  have hhalf := fits_half (j := 1) (by decide)
  simpa using (toRat?_div_iff hone htwo (by simp)).2 (by simpa using hhalf)

theorem exists_half_units : ∃ half, ofNat 1 / ofNat 2 = .finite false half ∧ 2 * half = one := by
  obtain ⟨half, hhalf, -⟩ := exists_half_eq
  have hvalue := toRat?_half
  rw [hhalf, toRat?, signedUnits, if_neg (by decide), Option.some.injEq,
    div_eq_div_iff one_cast_ne_zero two_ne_zero] at hvalue
  refine ⟨half, hhalf, ?_⟩
  rw [Nat.mul_comm]
  exact_mod_cast hvalue.trans (one_mul _)

/-- Where the sum with a half is not a number of the format, it is rounded back. -/
theorem add_half_eq_self {j : ℤ} (hx : x.toRat? = some (j : ℚ)) (hten : Fits (j * 10))
    (hlarge : 2 ^ 53 < (2 * j + 1).natAbs) : x + ofNat 1 / ofNat 2 = x := by
  obtain ⟨half, hhalf, hdouble⟩ := exists_half_units
  obtain ⟨s, k, rfl, rfl⟩ := exists_of_toRat?_intCast hx
  obtain ⟨n, hexact, hlt, hn⟩ := hten
  obtain rfl : 10 * (k * one) = n := by
    rw [abs_mul, abs_signedUnits, Nat.abs_ofNat, mul_comm (k : ℚ), mul_assoc] at hn
    exact_mod_cast hn
  have hpos := oneUnits_pos
  have hround : ∀ n, 2 ^ 52 * one ≤ n → k * one ≤ n + half → n ≤ k * one + half →
      ofFraction s n 1 = .finite s (k * one) := fun n hlarge hlower hupper =>
    ofFraction_eq_finite (roundUnits_of_half hdouble hexact hlarge hlower hupper) (by omega)
  rw [hhalf]
  cases s with
  | false =>
    have hk : 2 ^ 52 ≤ k := by
      simp only [signedUnits, Bool.false_eq_true, if_false] at hlarge
      omega
    have hsteps : 2 ^ 52 * one ≤ k * one := Nat.mul_le_mul_right one hk
    rw [finite_add_finite]
    exact hround _ (by omega) (by omega) (by omega)
  | true =>
    have hk : 2 ^ 52 + 1 ≤ k := by
      simp only [signedUnits, if_true] at hlarge
      omega
    have hsteps : (2 ^ 52 + 1) * one ≤ k * one := Nat.mul_le_mul_right one hk
    have hadd : finite true (k * one) + finite false half =
        ofFraction true (k * one - half) 1 := by
      change add _ _ = _
      rw [add, if_neg (by decide), if_pos (by omega)]
    rw [hadd]
    exact hround _ (by omega) (by omega) (by omega)

/-- A whole number that fits tenfold is not changed by adding a half and rounding down, be the sum
rounded or not. -/
theorem toRat?_floor_add_half {j : ℤ} (hx : x.toRat? = some (j : ℚ)) (hten : Fits (j * 10)) :
    (floor (x + ofNat 1 / ofNat 2)).toRat? = some (j : ℚ) := by
  by_cases hlarge : 2 ^ 53 < (2 * j + 1).natAbs
  · rw [add_half_eq_self hx hten hlarge, toRat?_floor hx, Int.floor_intCast]
  · have hsum : ((2 * j + 1 : ℤ) / 2 : ℚ) = j + 1 / 2 := by
      push_cast
      ring
    have hfits : Fits (j + 1 / 2) := hsum ▸ fits_half (Nat.le_of_not_lt hlarge)
    have hwhole : ⌊(j + 1 / 2 : ℚ)⌋ = j := by
      rw [Int.floor_eq_iff]
      constructor <;> linarith
    rw [toRat?_floor ((toRat?_add_iff hx toRat?_half).2 hfits), hwhole]

/-! ## The negative zero -/

/-- What is at least a unit is not rounded to zero. -/
theorem roundUnits_pos {n : Nat} (h : 0 < n) : 0 < roundUnits n 1 := by
  have hone : roundUnits (1 * 1) 1 = 1 := roundUnits_of_isExact ⟨1, 0, by decide, rfl⟩ Nat.one_pos
  calc 0 < roundUnits (1 * 1) 1 := hone.symm ▸ Nat.one_pos
    _ ≤ roundUnits n 1 := roundUnits_mono Nat.one_pos Nat.one_pos (by omega)

/-- A sum with a number without a minus sign is not the negative zero. -/
theorem add_finite_ne_neg_zero (x : Binary64) (k : Nat) :
    x + .finite false k ≠ .finite true 0 := by
  have hfraction : ∀ s n, (s = true → 0 < n) → ofFraction s n 1 ≠ .finite true 0 := by
    intro s n hn h
    rw [ofFraction] at h
    split at h
    · obtain ⟨rfl, hzero⟩ := finite.inj h
      exact (roundUnits_pos (hn rfl)).ne' hzero
    · cases h
  cases x with
  | nan => intro h; cases h
  | infinite s => intro h; cases h
  | finite s m =>
    change add _ _ ≠ _
    rw [add]
    split_ifs with hs hkm hmk
    · exact hfraction s _ fun hs' => absurd (hs.symm.trans hs') Bool.false_ne_true
    · exact hfraction s _ fun _ => Nat.sub_pos_of_lt hkm
    · exact hfraction false _ fun h => absurd h Bool.false_ne_true
    · intro h; cases h

theorem floor_ne_neg_zero (hx : x ≠ .finite true 0) : floor x ≠ .finite true 0 := by
  intro h
  cases x with
  | nan => cases h
  | infinite s => cases h
  | finite s n =>
    cases s with
    | false => cases h
    | true =>
      have hpos := oneUnits_pos
      have hn : n ≠ 0 := by
        rintro rfl
        exact hx rfl
      have hwhole : 0 < (n + (one - 1)) / one := Nat.div_pos (by omega) hpos
      exact (Nat.mul_pos hwhole hpos).ne' (finite.inj h).2

end Viewport.Binary64
