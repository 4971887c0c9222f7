import Mathlib.Algebra.Order.Ring.Nat
import Mathlib.Data.Nat.Log
import Mathlib.Tactic.Ring
import Viewport.Binary64.Basic

/-!
# Rounding to the format

A fraction of a unit is rounded to a count that the format has. Rounding keeps the order of
fractions, keeps the counts that the format has, and depends on the value of a fraction alone. A
fraction that is close enough to a count of the format is rounded to it.
-/

namespace Viewport

/-! ## To the nearest whole number -/

section RoundHalfEven

variable {num den num' den' q k : Nat}

/-- A quotient is rounded down or up. -/
theorem roundHalfEven_eq_or :
    roundHalfEven num den = num / den ∨ roundHalfEven num den = num / den + 1 := by
  simp only [roundHalfEven]
  split_ifs <;> simp

/-- A quotient without a remainder is not rounded. -/
theorem roundHalfEven_mul_self (hden : 0 < den) : roundHalfEven (q * den) den = q := by
  rw [roundHalfEven, Nat.mul_mod_left, Nat.mul_div_cancel q hden]
  exact if_pos (by omega)

/-- Rounding depends on the value of a fraction alone. -/
theorem roundHalfEven_mul_right (hk : 0 < k) :
    roundHalfEven (num * k) (den * k) = roundHalfEven num den := by
  have hdouble : 2 * (num % den * k) = 2 * (num % den) * k := (Nat.mul_assoc _ _ _).symm
  simp only [roundHalfEven, Nat.mul_div_mul_right _ _ hk, Nat.mul_mod_mul_right, hdouble,
    Nat.mul_lt_mul_right hk]

/-- The order of quotients by cross multiplication. -/
theorem div_le_div_of_mul_le (hden : 0 < den) (hden' : 0 < den') (h : num * den' ≤ num' * den) :
    num / den ≤ num' / den' := by
  rw [Nat.le_div_iff_mul_le hden']
  refine Nat.le_of_mul_le_mul_right ?_ hden
  calc num / den * den' * den = num / den * den * den' := Nat.mul_right_comm _ _ _
    _ ≤ num * den' := Nat.mul_le_mul_right _ (Nat.div_mul_le_self num den)
    _ ≤ num' * den := h

/-- A greater fraction is not rounded to a smaller number. -/
theorem roundHalfEven_mono (hden : 0 < den) (hden' : 0 < den')
    (h : num * den' ≤ num' * den) : roundHalfEven num den ≤ roundHalfEven num' den' := by
  have hnum := Nat.div_add_mod num den
  have hnum' := Nat.div_add_mod num' den'
  have hquot := div_le_div_of_mul_le hden hden' h
  obtain hlt | heq := Nat.lt_or_eq_of_le hquot
  · have hfst := @roundHalfEven_eq_or num den
    have hsnd := @roundHalfEven_eq_or num' den'
    omega
  · -- the whole parts agree, so the remainders decide
    have hrest : num % den * den' ≤ num' % den' * den := by
      rw [← hnum, ← hnum', heq] at h
      have hcomm : den' * (num' / den') * den = den * (num' / den') * den' := by ring
      rw [Nat.add_mul, Nat.add_mul, hcomm] at h
      exact Nat.le_of_add_le_add_left h
    have hlt : den < 2 * (num % den) → den' < 2 * (num' % den') := fun hr => by
      refine Nat.lt_of_mul_lt_mul_right (a := den) ?_
      calc den' * den < 2 * (num % den) * den' := by
            rw [Nat.mul_comm]
            exact Nat.mul_lt_mul_of_pos_right hr hden'
        _ ≤ 2 * (num' % den') * den := by
            rw [Nat.mul_assoc, Nat.mul_assoc]
            exact Nat.mul_le_mul_left 2 hrest
    have hle : den ≤ 2 * (num % den) → den' ≤ 2 * (num' % den') := fun hr => by
      refine Nat.le_of_mul_le_mul_right ?_ hden
      calc den' * den ≤ 2 * (num % den) * den' := by
            rw [Nat.mul_comm]
            exact Nat.mul_le_mul_right _ hr
        _ ≤ 2 * (num' % den') * den := by
            rw [Nat.mul_assoc, Nat.mul_assoc]
            exact Nat.mul_le_mul_left 2 hrest
    simp only [roundHalfEven, heq]
    split_ifs <;> omega

/-- What is at most a whole number is rounded to no more than it. -/
theorem roundHalfEven_le (hden : 0 < den) (h : num ≤ q * den) : roundHalfEven num den ≤ q :=
  (roundHalfEven_mono hden hden (Nat.mul_le_mul_right den h)).trans_eq (roundHalfEven_mul_self hden)

/-- What is at least a whole number is rounded to no less than it. -/
theorem le_roundHalfEven (hden : 0 < den) (h : q * den ≤ num) : q ≤ roundHalfEven num den :=
  (roundHalfEven_mul_self hden).symm.trans_le
    (roundHalfEven_mono hden hden (Nat.mul_le_mul_right den h))

/-- A fraction at most half a step away from an even number is rounded to it. -/
theorem roundHalfEven_of_near_even (hden : 0 < den) (hlower : 2 * (den * (2 * q)) ≤ 2 * num + den)
    (hupper : 2 * num ≤ 2 * (den * (2 * q)) + den) : roundHalfEven num den = 2 * q := by
  obtain hlt | hge := Nat.lt_or_ge num (den * (2 * q))
  · -- the step before the even number is odd, and the rest is at least a half
    obtain ⟨p, rfl⟩ : ∃ p, q = p + 1 := Nat.exists_eq_succ_of_ne_zero (by rintro rfl; omega)
    have hstep : den * (2 * (p + 1)) = den * (2 * p + 1) + den := by ring
    obtain ⟨hquot, hrest⟩ := (Nat.div_mod_unique hden).2
      (⟨by omega, by omega⟩ : num - den * (2 * p + 1) + den * (2 * p + 1) = num ∧
        num - den * (2 * p + 1) < den)
    simp only [roundHalfEven, hquot, hrest]
    split_ifs <;> omega
  · obtain ⟨hquot, hrest⟩ := (Nat.div_mod_unique hden).2
      (⟨by omega, by omega⟩ : num - den * (2 * q) + den * (2 * q) = num ∧
        num - den * (2 * q) < den)
    simp only [roundHalfEven, hquot, hrest]
    split_ifs <;> omega

/-- A fraction less than half a step away from a whole number is rounded to it. -/
theorem roundHalfEven_of_close (hlower : 2 * (den * q) < 2 * num + den)
    (hupper : 2 * num < 2 * (den * q) + den) : roundHalfEven num den = q := by
  have hden : 0 < den := by omega
  obtain hlt | hge := Nat.lt_or_ge num (den * q)
  · obtain ⟨p, rfl⟩ : ∃ p, q = p + 1 := Nat.exists_eq_succ_of_ne_zero (by rintro rfl; omega)
    rw [Nat.mul_add_one] at hlower hupper hlt
    obtain ⟨hquot, hrest⟩ := (Nat.div_mod_unique hden).2
      (⟨by omega, by omega⟩ : num - den * p + den * p = num ∧ num - den * p < den)
    simp only [roundHalfEven, hquot, hrest]
    split_ifs <;> omega
  · obtain ⟨hquot, hrest⟩ := (Nat.div_mod_unique hden).2
      (⟨by omega, by omega⟩ : num - den * q + den * q = num ∧ num - den * q < den)
    simp only [roundHalfEven, hquot, hrest]
    split_ifs <;> omega

end RoundHalfEven

namespace Binary64

/-! ## To the format -/

/-- A count of units that the format has, but for its bound: at most 53 binary digits, and then
zeros. -/
def IsExact (n : Nat) : Prop := ∃ m e, m ≤ 2 ^ 53 ∧ n = m * 2 ^ e

/-- The exponents stay unknown, so that nothing evaluates the powers. -/
theorem exists_one_eq_pow : ∃ e, one = 2 ^ (e + 1) ∧ limit = 2 ^ (e + 1025) :=
  ⟨1073, by decide +kernel⟩

theorem oneUnits_pos : 0 < one := by
  obtain ⟨e, hone, -⟩ := exists_one_eq_pow
  rw [hone]
  exact Nat.two_pow_pos _

theorem spacing_pos (n : Nat) : 0 < spacing n := Nat.two_pow_pos _

/-- A number has fifty-three binary digits at most, counted in the spacing around it. -/
theorem lt_spacing_mul (n : Nat) : n < spacing n * 2 ^ 53 := by
  have h := @Nat.lt_log2_self n
  calc n < 2 ^ (n.log2 + 1) := h
    _ ≤ 2 ^ (n.log2 - 52 + 53) := Nat.pow_le_pow_right (by decide) (by omega)
    _ = spacing n * 2 ^ 53 := Nat.pow_add 2 _ _

theorem isExact_mul_two_pow {m : Nat} (h : m ≤ 2 ^ 53) (e : Nat) : IsExact (m * 2 ^ e) :=
  ⟨m, e, h, rfl⟩

/-- A whole number of at most 53 binary digits is one of the format. -/
theorem isExact_mul_one {m : Nat} (h : m ≤ 2 ^ 53) : IsExact (m * one) := by
  obtain ⟨e, hone, -⟩ := exists_one_eq_pow
  rw [hone]
  exact isExact_mul_two_pow h _

/-- A power of ten has as many binary digits as the power of five, and then zeros. -/
theorem isExact_ten_pow_mul_one {k : Nat} (h : k ≤ 22) : IsExact (10 ^ k * one) := by
  obtain ⟨e, hone, -⟩ := exists_one_eq_pow
  have hfive : 5 ^ k ≤ 2 ^ 53 := (Nat.pow_le_pow_right (by decide) h).trans (by decide)
  have hten : 10 ^ k * 2 ^ (e + 1) = 5 ^ k * 2 ^ (k + (e + 1)) := by
    rw [show 10 = 5 * 2 from rfl, Nat.mul_pow, Nat.mul_assoc, ← Nat.pow_add]
  rw [hone, hten]
  exact isExact_mul_two_pow hfive _

/-- Whole numbers up to `10 ^ 22` are far below the limit. -/
theorem mul_one_lt_limit {n : Nat} (h : n ≤ 10 ^ 22) : n * one < limit := by
  obtain ⟨e, hone, hlimit⟩ := exists_one_eq_pow
  rw [hone, hlimit]
  calc n * 2 ^ (e + 1) ≤ 2 ^ 74 * 2 ^ (e + 1) := Nat.mul_le_mul_right _ (h.trans (by decide))
    _ = 2 ^ (74 + (e + 1)) := (Nat.pow_add 2 74 _).symm
    _ < 2 ^ (e + 1025) := Nat.pow_lt_pow_right (by decide) (by omega)

theorem IsExact.mul_two {n : Nat} (h : IsExact n) : IsExact (n * 2) := by
  obtain ⟨m, e, hm, rfl⟩ := h
  exact ⟨m, e + 1, hm, Nat.mul_assoc m (2 ^ e) 2⟩

/-- An exact number is a multiple of the spacing around it. -/
theorem IsExact.spacing_dvd {n : Nat} (h : IsExact n) : spacing n ∣ n := by
  obtain ⟨m, e, hm, rfl⟩ := h
  obtain h0 | h0 := Nat.eq_zero_or_pos (m * 2 ^ e)
  · rw [h0]
    exact Nat.dvd_zero _
  · by_cases he : (m * 2 ^ e).log2 - 52 ≤ e
    · exact (Nat.pow_dvd_pow 2 he).mul_left m
    · -- more than 53 digits are left of the point, so the count is the power of two itself
      have hle : 2 ^ (m * 2 ^ e).log2 ≤ m * 2 ^ e := Nat.log2_self_le h0.ne'
      have hge : m * 2 ^ e ≤ 2 ^ (m * 2 ^ e).log2 :=
        calc m * 2 ^ e ≤ 2 ^ 53 * 2 ^ e := Nat.mul_le_mul_right _ hm
          _ = 2 ^ (53 + e) := (Nat.pow_add 2 53 e).symm
          _ ≤ 2 ^ (m * 2 ^ e).log2 := Nat.pow_le_pow_right (by decide) (by omega)
      conv => rhs; rw [Nat.le_antisymm hge hle]
      exact Nat.pow_dvd_pow 2 (Nat.sub_le _ _)

section RoundUnits

variable {num den num' den' n k : Nat}

/-- What the format has is not rounded. -/
theorem roundUnits_of_isExact (h : IsExact n) (hden : 0 < den) :
    roundUnits (n * den) den = n := by
  obtain ⟨q, hq⟩ := h.spacing_dvd
  have hnum : n * den = q * (den * spacing n) := by
    conv => lhs; rw [hq]
    ring
  rw [roundUnits, Nat.mul_div_cancel n hden, hnum,
    roundHalfEven_mul_self (Nat.mul_pos hden (spacing_pos n)), Nat.mul_comm]
  exact hq.symm

theorem roundUnits_mul_right (hk : 0 < k) :
    roundUnits (num * k) (den * k) = roundUnits num den := by
  rw [roundUnits, Nat.mul_div_mul_right _ _ hk, Nat.mul_right_comm, roundHalfEven_mul_right hk]
  rfl

/-- A rounded fraction has at most `2 ^ 53` steps. -/
theorem roundHalfEven_spacing_le (hden : 0 < den) :
    roundHalfEven num (den * spacing (num / den)) ≤ 2 ^ 53 := by
  refine roundHalfEven_le (Nat.mul_pos hden (spacing_pos _)) (Nat.le_of_lt ?_)
  have h := (Nat.div_lt_iff_lt_mul hden).1 (lt_spacing_mul (num / den))
  calc num < spacing (num / den) * 2 ^ 53 * den := h
    _ = 2 ^ 53 * (den * spacing (num / den)) := by ring

/-- What is rounded is a number of the format. -/
theorem isExact_roundUnits (hden : 0 < den) : IsExact (roundUnits num den) :=
  isExact_mul_two_pow (roundHalfEven_spacing_le hden) _

/-- A greater fraction of a unit is not rounded to a smaller count. -/
theorem roundUnits_mono (hden : 0 < den) (hden' : 0 < den') (h : num * den' ≤ num' * den) :
    roundUnits num den ≤ roundUnits num' den' := by
  have hquot := div_le_div_of_mul_le hden hden' h
  have hlog : (num / den).log2 ≤ (num' / den').log2 := by
    rw [Nat.log2_eq_log_two, Nat.log2_eq_log_two]
    exact Nat.log_mono_right hquot
  obtain hlt | heq : (num / den).log2 - 52 < (num' / den').log2 - 52 ∨
      (num / den).log2 - 52 = (num' / den').log2 - 52 := by omega
  · -- a power of two lies between the two fractions, and both are rounded towards it at most
    have hpos : num' / den' ≠ 0 := by
      intro h0
      rw [h0, Nat.log2_zero] at hlt
      omega
    have hsteps : 2 ^ 52 * (den' * spacing (num' / den')) ≤ num' := by
      calc 2 ^ 52 * (den' * spacing (num' / den'))
          = 2 ^ 52 * spacing (num' / den') * den' := by ring
        _ = 2 ^ (52 + ((num' / den').log2 - 52)) * den' := by rw [Nat.pow_add]; rfl
        _ = 2 ^ (num' / den').log2 * den' := by rw [Nat.add_sub_cancel' (by omega)]
        _ ≤ num' / den' * den' := Nat.mul_le_mul_right _ (Nat.log2_self_le hpos)
        _ ≤ num' := Nat.div_mul_le_self num' den'
    calc roundUnits num den ≤ 2 ^ 53 * spacing (num / den) :=
          Nat.mul_le_mul_right _ (roundHalfEven_spacing_le hden)
      _ = 2 ^ (53 + ((num / den).log2 - 52)) := (Nat.pow_add 2 53 _).symm
      _ ≤ 2 ^ (52 + ((num' / den').log2 - 52)) := Nat.pow_le_pow_right (by decide) (by omega)
      _ = 2 ^ 52 * spacing (num' / den') := Nat.pow_add 2 52 _
      _ ≤ roundUnits num' den' :=
          Nat.mul_le_mul_right _ (le_roundHalfEven (Nat.mul_pos hden' (spacing_pos _)) hsteps)
  · have hspacing : spacing (num / den) = spacing (num' / den') := congrArg (Nat.pow 2) heq
    rw [roundUnits, roundUnits, hspacing]
    refine Nat.mul_le_mul_right _ (roundHalfEven_mono (Nat.mul_pos hden (spacing_pos _))
      (Nat.mul_pos hden' (spacing_pos _)) ?_)
    rw [← Nat.mul_assoc, ← Nat.mul_assoc]
    exact Nat.mul_le_mul_right _ h

/-- A count at most half a step away from an even number of steps is rounded to them. -/
theorem roundUnits_of_near (hdvd : 2 * spacing n ∣ k) (hlower : 2 * k ≤ 2 * n + spacing n)
    (hupper : 2 * n ≤ 2 * k + spacing n) : roundUnits n 1 = k := by
  obtain ⟨q, rfl⟩ := hdvd
  rw [Nat.mul_comm 2 (spacing n), Nat.mul_assoc] at hlower hupper ⊢
  rw [roundUnits, Nat.div_one, Nat.one_mul,
    roundHalfEven_of_near_even (spacing_pos n) hlower hupper, Nat.mul_comm]

end RoundUnits

/-! ## Close to a number of the format -/

section Close

variable {num den n r : Nat}

/-- The spacing grows by factors with the number of digits. -/
theorem spacing_dvd_spacing {m n : Nat} (h : m.log2 ≤ n.log2) : spacing m ∣ spacing n :=
  Nat.pow_dvd_pow 2 (Nat.sub_le_sub_right h 52)

/-- The steps around a fraction that is close to a number of the format are steps of that number,
and it has few of them. Where the number is a power of two and the fraction is below it, the steps
are half as wide as those of the number. -/
theorem spacing_of_close (hn : IsExact n) (hden : 0 < den)
    (hlower : 2 * (n * den) ≤ 2 * num + r) (hupper : 2 * num ≤ 2 * (n * den) + r)
    (hstep : 2 ^ 53 * r < n * den) :
    spacing (num / den) ∣ n ∧ n ≤ 2 ^ 53 * spacing (num / den) := by
  have hfloor : num / den * den ≤ num := Nat.div_mul_le_self num den
  have hceil : num < (num / den + 1) * den := Nat.lt_mul_of_div_lt (Nat.lt_succ_self _) hden
  generalize num / den = q at hfloor hceil
  have hpos : n ≠ 0 := by
    rintro rfl
    omega
  have hless : r < spacing n * den := by
    have hfew : n * den < spacing n * 2 ^ 53 * den :=
      Nat.mul_lt_mul_of_pos_right (lt_spacing_mul n) hden
    rw [Nat.mul_right_comm] at hfew
    omega
  have hdvd := hn.spacing_dvd
  have hbelow : q < n + spacing n := by
    refine Nat.lt_of_mul_lt_mul_right (a := den) ?_
    rw [Nat.add_mul]
    omega
  have habove : 2 * n < 2 * (q + 1) + spacing n := by
    refine Nat.lt_of_mul_lt_mul_right (a := den) ?_
    rw [Nat.add_mul, Nat.mul_assoc, Nat.mul_assoc]
    omega
  have hq : q.log2 ≤ n.log2 := by
    obtain rfl | hq0 := Nat.eq_zero_or_pos q
    · exact (Nat.log2_zero).trans_le (Nat.zero_le _)
    · refine Nat.lt_succ_iff.1 ((Nat.log2_lt hq0.ne').2 (hbelow.trans_le ?_))
      exact Nat.le_of_lt_add_of_dvd (Nat.add_lt_add_right Nat.lt_log2_self _)
        (Nat.dvd_add_self_right.2 hdvd) (Nat.pow_dvd_pow 2 (by omega))
  refine ⟨(spacing_dvd_spacing hq).trans hdvd, ?_⟩
  obtain hsmall | hlarge := Nat.lt_or_ge n.log2 53
  · calc n ≤ 2 ^ (n.log2 + 1) := Nat.lt_log2_self.le
      _ ≤ 2 ^ 53 := Nat.pow_le_pow_right (by decide) hsmall
      _ ≤ 2 ^ 53 * spacing q := Nat.le_mul_of_pos_right _ (spacing_pos q)
  obtain hle | hlt := Nat.lt_or_ge q (2 ^ n.log2)
  · -- the number is the power of two, and the fraction is not below half of it
    have htwo : 2 ^ n.log2 = 2 * 2 ^ (n.log2 - 1) := by
      rw [← pow_succ', Nat.sub_add_cancel (by omega)]
    have hfine : spacing n ≤ 2 ^ (n.log2 - 1) := Nat.pow_le_pow_right (by decide) (by omega)
    have hwide : 2 ^ 1 ≤ 2 ^ (n.log2 - 1) := Nat.pow_le_pow_right (by decide) (by omega)
    have hle : n ≤ 2 ^ n.log2 :=
      Nat.le_of_lt_add_of_dvd (by omega) hdvd (Nat.pow_dvd_pow 2 (Nat.sub_le _ _))
    have hge : 2 ^ n.log2 ≤ n := Nat.log2_self_le hpos
    have hhalf : n.log2 - 1 ≤ q.log2 := (Nat.le_log2 (by omega)).2 (by omega)
    calc n ≤ 2 ^ (53 + (n.log2 - 1 - 52)) := hle.trans (Nat.pow_le_pow_right (by decide) (by omega))
      _ = 2 ^ 53 * 2 ^ (n.log2 - 1 - 52) := Nat.pow_add 2 _ _
      _ ≤ 2 ^ 53 * spacing q :=
        Nat.mul_le_mul_left _ (Nat.pow_le_pow_right (by decide) (Nat.sub_le_sub_right hhalf 52))
  · have hsame : n.log2 ≤ q.log2 :=
      (Nat.le_log2 (by have := Nat.two_pow_pos n.log2; omega)).2 hlt
    calc n ≤ spacing n * 2 ^ 53 := (lt_spacing_mul n).le
      _ ≤ 2 ^ 53 * spacing q := by
        rw [Nat.mul_comm]
        exact Nat.mul_le_mul_left _ (Nat.le_of_dvd (spacing_pos q) (spacing_dvd_spacing hsame))

/-- A fraction that is closer to a number of the format than half a step is rounded to it. -/
theorem roundUnits_of_close (hn : IsExact n) (hden : 0 < den)
    (hlower : 2 * (n * den) ≤ 2 * num + r) (hupper : 2 * num ≤ 2 * (n * den) + r)
    (hstep : 2 ^ 53 * r < n * den) : roundUnits num den = n := by
  obtain ⟨hdvd, hfew⟩ := spacing_of_close hn hden hlower hupper hstep
  rw [roundUnits]
  generalize spacing (num / den) = s at hdvd hfew
  obtain ⟨q, rfl⟩ := hdvd
  have hless : r < den * s := by
    have hwide : s * q * den ≤ 2 ^ 53 * (den * s) := by
      rw [Nat.mul_comm den, ← Nat.mul_assoc]
      exact Nat.mul_le_mul_right den hfew
    omega
  have hnum : s * q * den = den * s * q := by ring
  rw [hnum] at hlower hupper
  rw [roundHalfEven_of_close (q := q) (by omega) (by omega), Nat.mul_comm]

end Close

end Binary64

end Viewport
