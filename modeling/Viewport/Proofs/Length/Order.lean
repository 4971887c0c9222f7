import Mathlib.Algebra.Order.WithTop.Untop0
import Mathlib.Tactic.FieldSimp
import Viewport.Proofs.Binary64.Decimal
import Viewport.Proofs.Length.Share
import Viewport.Proofs.Length.Threshold

/-!
# Converted lengths in order

Of two numbers, as they are written, the greater one is not converted to a smaller one, and if the
smaller one is converted, so is the greater one. The order is that of the exact fractions that the
texts write, before and after; in between, it is kept by every rounded step.
-/

namespace Viewport

open Binary64

seal one limit

/-! ## Texts of numbers -/

/-- A text of digits, with a point before the last of them or without one, and the fraction that it
writes. Infinity is written as a word. -/
inductive Writes : List Char → WithTop ℚ → Prop
  | whole {n : List Char} (h : IsDigits n) : Writes n (decimalValue n : ℚ)
  | point {n f : List Char} (hn : ∀ c ∈ n, c.isDigit = true) (hf : IsDigits f) :
    Writes (n ++ '.' :: f) (decimalValue (n ++ f) / 10 ^ f.length : ℚ)
  | infinite : Writes "inf".toList ⊤

namespace Writes

variable {text a b : List Char} {v w : WithTop ℚ}

theorem eq_top_or_exists_read? (h : Writes text v) :
    text = "inf".toList ∧ v = ⊤ ∨
      ∃ d : Decimal, read? text = some (ofDecimal false d) ∧ v = (d.value : ℚ) := by
  cases h with
  | whole h =>
    refine .inr ⟨⟨decimalValue text, 0⟩, ?_, ?_⟩
    · rw [read?_of_isNumber h.isNumber, Decimal.read?_of_isDigits h]
      rfl
    · simp [Decimal.value]
  | @point n f hn hf =>
    refine .inr ⟨⟨decimalValue (n ++ f), -f.length⟩, ?_, ?_⟩
    · have hnumber : IsNumber (n ++ '.' :: f) := ⟨n, ['.'], f, hn, .inr rfl, hf, rfl⟩
      rw [read?_of_isNumber hnumber, Decimal.read?_of_point hn hf]
      rfl
    · rw [Decimal.value_neg_natCast]
  | infinite => exact .inl ⟨rfl, rfl⟩

/-- The numbers that texts are read as are in the order of the fractions. -/
theorem exists_read?_le (ha : Writes a v) (hb : Writes b w) (h : v ≤ w) :
    ∃ x y, read? a = some x ∧ read? b = some y ∧ x.Nonneg ∧ y.Nonneg ∧ x ≤ y := by
  have hinf : read? "inf".toList = some (.infinite false) := rfl
  obtain ⟨rfl, rfl⟩ | ⟨e, hread', rfl⟩ := hb.eq_top_or_exists_read?
  · obtain ⟨rfl, rfl⟩ | ⟨d, hread, rfl⟩ := ha.eq_top_or_exists_read?
    · exact ⟨_, _, hinf, hinf, .infinite, .infinite, rfl⟩
    · exact ⟨_, _, hread, hinf, nonneg_ofDecimal d, .infinite, (nonneg_ofDecimal d).le_infinite⟩
  · obtain ⟨rfl, rfl⟩ | ⟨d, hread, rfl⟩ := ha.eq_top_or_exists_read?
    · exact absurd (top_le_iff.1 h) (WithTop.coe_ne_top)
    · exact ⟨_, _, hread, hread', nonneg_ofDecimal d, nonneg_ofDecimal e,
        ofDecimal_le_of_value_le (WithTop.coe_le_coe.1 h)⟩

end Writes

/-! ## The text of a number -/

section Digits

variable {ds : List Char}

/-- Digits are read from the first to the last. -/
theorem decimalValue_eq (h : ∀ c ∈ ds, c.isDigit = true) :
    decimalValue ds = Nat.ofDigitChars 10 ds 0 := by
  rw [decimalValue, valueOf, Nat.ofDigitChars_eq_foldl]
  refine List.foldl_ext _ _ 0 fun n c hc => ?_
  rw [digitValue?, if_pos (h c hc), Option.getD_some]

/-- The digits of a number are read as that number. -/
theorem decimalValue_toDigits (n : Nat) : decimalValue (Nat.toDigits 10 n) = n := by
  rw [decimalValue_eq fun c hc => Nat.isDigit_of_mem_toDigits (by decide) (by decide) hc,
    Nat.ofDigitChars_ten_toDigits]

theorem decimalValue_append_zeros (h : ∀ c ∈ ds, c.isDigit = true) (k : Nat) :
    decimalValue (ds ++ List.replicate k '0') = decimalValue ds * 10 ^ k := by
  have hzeros := forall_isDigit_replicate_zero k
  rw [decimalValue_eq (List.forall_mem_append.2 ⟨h, hzeros⟩), decimalValue_eq h,
    Nat.ofDigitChars_append, Nat.ofDigitChars_replicate_zero, Nat.mul_comm]

theorem decimalValue_zeros_append (h : ∀ c ∈ ds, c.isDigit = true) (k : Nat) :
    decimalValue (List.replicate k '0' ++ ds) = decimalValue ds := by
  have hzeros := forall_isDigit_replicate_zero k
  rw [decimalValue_eq (List.forall_mem_append.2 ⟨hzeros, h⟩), decimalValue_eq h,
    Nat.ofDigitChars_append, Nat.ofDigitChars_replicate_zero, Nat.mul_zero]

/-- Digits are what is left without the zeros at the end, and those zeros. -/
theorem trimmed_append_zeros (ds : List Char) :
    trimmed ds ++ List.replicate (trailingZeros ds) '0' = ds := by
  have hzeros : ds.reverse.takeWhile (· == '0') = List.replicate (trailingZeros ds) '0' :=
    List.eq_replicate_of_mem fun c hc => beq_iff_eq.1 (List.mem_takeWhile_imp (p := (· == '0')) hc)
  have hsplit : ds = (ds.reverse.dropWhile (· == '0')).reverse ++
      List.replicate (trailingZeros ds) '0' := by
    rw [← List.reverse_replicate, ← hzeros, ← List.reverse_append, List.takeWhile_append_dropWhile,
      List.reverse_reverse]
  have hlength : ds.length - trailingZeros ds =
      (ds.reverse.dropWhile (· == '0')).reverse.length := by
    conv => lhs; lhs; rw [hsplit]
    rw [List.length_append, List.length_replicate, Nat.add_sub_cancel]
  have htrimmed : trimmed ds = (ds.reverse.dropWhile (· == '0')).reverse := by
    rw [trimmed, hlength]
    conv => lhs; rhs; rw [hsplit]
    exact List.take_left
  rw [htrimmed]
  exact hsplit.symm

/-- Digits with a point set among them write the decimal that ends with them. -/
theorem writes_setPoint (h : IsDigits ds) (place : Int) :
    Writes (setPoint .plain ds place)
      ((⟨decimalValue ds, place - ds.length⟩ : Decimal).value : ℚ) := by
  rw [setPoint]
  split_ifs with hplace hlen
  · have hzeros := h.append_left (forall_isDigit_replicate_zero (-place).toNat)
    have hvalue : decimalValue (['0'] ++ (List.replicate (-place).toNat '0' ++ ds)) =
        decimalValue ds := by
      rw [← List.append_assoc]
      exact decimalValue_zeros_append (k := (-place).toNat + 1) h.2
    have hexp : place - ds.length = -(List.replicate (-place).toNat '0' ++ ds).length := by
      simp
      omega
    rw [hexp, Decimal.value_neg_natCast, ← hvalue]
    exact .point (n := ['0']) (List.forall_mem_singleton.2 rfl) hzeros
  · have hzeros := h.append_right (forall_isDigit_replicate_zero (place.toNat - ds.length))
    have hwhole : Layout.plain.whole.toList = [] := rfl
    have hexp : place - ds.length = (place.toNat - ds.length : ℕ) := by omega
    rw [hexp, Decimal.value_natCast, ← decimalValue_append_zeros h.2, hwhole, List.append_nil]
    exact .whole hzeros
  · have hdrop : IsDigits (ds.drop place.toNat) :=
      ⟨by simp; omega, fun c hc => h.2 c (List.mem_of_mem_drop hc)⟩
    have hexp : place - ds.length = -(ds.drop place.toNat).length := by
      simp
      omega
    have hwrites := Writes.point (n := ds.take place.toNat)
      (fun c hc => h.2 c (List.mem_of_mem_take hc)) hdrop
    rw [List.take_append_drop, ← Decimal.value_neg_natCast, ← hexp] at hwrites
    exact hwrites

/-- Zeros at the end are left out before the point is set. -/
theorem value_trimmed (d : Decimal) (hds : Nat.toDigits 10 d.digits = ds)
    (h : IsDigits (trimmed ds)) :
    (⟨decimalValue (trimmed ds), ds.length + d.exponent - (trimmed ds).length⟩ : Decimal).value =
      d.value := by
  have hsplit := trimmed_append_zeros ds
  have hlength := congrArg List.length hsplit
  rw [List.length_append, List.length_replicate] at hlength
  have hexp : ds.length + d.exponent - (trimmed ds).length = trailingZeros ds + d.exponent := by
    omega
  have hvalue := decimalValue_append_zeros h.2 (trailingZeros ds)
  rw [hsplit, ← hds, decimalValue_toDigits, hds] at hvalue
  rw [Decimal.value, Decimal.value, hexp, hvalue, zpow_add₀ (by norm_num), zpow_natCast,
    Nat.cast_mul, Nat.cast_pow, Nat.cast_ofNat, mul_assoc]

theorem writes_formatUnits_zero :
    Writes (formatUnits .plain 0) ((⟨0, 0⟩ : Decimal).value : ℚ) := by
  have hformat : formatUnits .plain 0 = setPoint .plain ['0'] 1 := if_pos rfl
  have hzero : (⟨0, 0⟩ : Decimal) = ⟨decimalValue ['0'], 1 - ['0'].length⟩ := rfl
  have hdigits : IsDigits ['0'] := ⟨List.cons_ne_nil _ _, List.forall_mem_singleton.2 rfl⟩
  rw [hformat, hzero]
  exact writes_setPoint hdigits 1

/-- A number of the format is written as a decimal that reads as it. -/
theorem exists_writes_formatUnits {n : Nat} (hn : IsExact n) :
    ∃ d : Decimal, Writes (formatUnits .plain n) (d.value : ℚ) ∧ unitsOf d = n := by
  obtain rfl | hpos := Nat.eq_zero_or_pos n
  · have hzero := roundUnits_of_isExact hn Nat.one_pos
    rw [Nat.zero_mul] at hzero
    refine ⟨⟨0, 0⟩, writes_formatUnits_zero, ?_⟩
    rw [unitsOf_of_nonneg 0 (Int.le_refl 0), Nat.zero_mul, Nat.zero_mul, hzero]
  · refine ⟨shortest .up n, ?_, unitsOf_shortest .up hn hpos⟩
    have hdigits := isDigits_trimmed_toDigits (shortest_digits_pos .up hpos)
    rw [formatUnits_plain_eq hpos, ← value_trimmed _ rfl hdigits]
    exact writes_setPoint hdigits _

end Digits

/-! ## Results of rounding -/

namespace Binary64

/-- What a fraction may be rounded to: a number of the format, or infinity. -/
inductive Rounded : Binary64 → Prop
  | finite {n : Nat} (h : IsExact n) : Rounded (.finite false n)
  | infinite : Rounded (.infinite false)

/-- What comes from a fraction is rounded. -/
theorem rounded_ofFraction {num den : Nat} (hden : 0 < den) :
    Rounded (ofFraction false num den) := by
  obtain h | h := Nat.lt_or_ge (roundUnits num den) limit
  · rw [ofFraction_of_lt h]
    exact .finite (isExact_roundUnits hden)
  · rw [ofFraction_of_le h]
    exact .infinite

theorem rounded_div {x : Binary64} (hx : Nonneg x) {k : Nat} (hk : 0 < k) :
    Rounded (x / .finite false k) := by
  cases hx with
  | finite n =>
    rw [finite_div_finite n hk]
    exact rounded_ofFraction hk
  | infinite => exact .infinite

/-- The texts of two results are in the order of the results. -/
theorem Rounded.exists_writes_le {x y : Binary64} (hx : Rounded x) (hy : Rounded y) (h : x ≤ y) :
    ∃ v w, Writes (format .plain x) v ∧ Writes (format .plain y) w ∧ v ≤ w := by
  cases hx with
  | infinite =>
    obtain rfl := eq_of_infinite_false_le h
    exact ⟨⊤, ⊤, .infinite, .infinite, le_top⟩
  | @finite m hm =>
    obtain ⟨d, hd, hunits⟩ := exists_writes_formatUnits hm
    cases hy with
    | infinite => exact ⟨d.value, ⊤, format_finite .plain m ▸ hd, .infinite, le_top⟩
    | @finite n hn =>
      rw [format_finite, format_finite]
      obtain heq | hne := Nat.eq_or_lt_of_le (finite_le_finite_iff.1 h)
      · subst heq
        exact ⟨_, _, hd, hd, le_rfl⟩
      · -- the greater decimal reads as the greater number
        obtain ⟨d', hd', hunits'⟩ := exists_writes_formatUnits hn
        refine ⟨_, _, hd, hd', WithTop.coe_le_coe.2 (le_of_not_ge fun hle => ?_)⟩
        have hreads := unitsOf_mono_value hle
        omega

end Binary64

/-! ## Conversion -/

/-- Rounding to places keeps the order of all numbers. -/
theorem keepsOrder_roundPlaces {places : UInt32} (h : places.toNat ≤ 21) :
    KeepsOrder (roundPlaces · places) := by
  obtain ⟨half, hhalf, -⟩ := exists_half_eq
  have hround : (roundPlaces · places) = fun x =>
      floor (floor (x * .finite false (10 ^ (places.toNat + 1) * one)) / .finite false (10 * one) +
        .finite false half) * .finite false (10 * one) /
          .finite false (10 ^ (places.toNat + 1) * one) := by
    funext x
    rw [roundPlaces_eq, placesScale_eq h, kept, cut, ofNat_ten_pow (by omega), ofNat_ten, hhalf]
  rw [hround]
  have hscale := ten_pow_mul_one_pos (places.toNat + 1)
  have hten := ten_mul_one_pos
  exact (keepsOrder_div hscale).comp ((keepsOrder_mul hten).comp (keepsOrder_floor.comp
    ((keepsOrder_add false half).comp ((keepsOrder_div hten).comp
      (keepsOrder_floor.comp (keepsOrder_mul hscale))))))

namespace Conversion

variable {c : Conversion}

/-- A greater number has no smaller share. -/
theorem keepsOrder_share (hwidth : IsWidth c.width) (hplaces : c.places.toNat ≤ 21) :
    KeepsOrder c.share := by
  obtain ⟨n, hn, hwidth⟩ := hwidth
  have hshare : c.share = fun x =>
      roundPlaces (x / .finite false n * .finite false (100 * one)) c.places := by
    funext x
    rw [share_eq, hundredths, hwidth, ofNat_hundred]
  rw [hshare]
  exact (keepsOrder_roundPlaces hplaces).comp
    ((keepsOrder_mul (Nat.mul_pos (by decide) oneUnits_pos)).comp (keepsOrder_div hn))

/-- A share is a rounded number. -/
theorem rounded_share (hwidth : IsWidth c.width) (hplaces : c.places.toNat ≤ 15) {x : Binary64}
    (hx : x.Nonneg) : Rounded (c.share x) := by
  have hkept := ((rises_mul ten_mul_one_pos).comp (rises_kept hplaces)).nonneg
    ((rises_hundredths hwidth).nonneg hx)
  rw [ofNat_ten_pow (by omega)] at hkept
  rw [share_eq, roundPlaces_eq, placesScale_eq (by omega), ofNat_ten_pow (by omega), ofNat_ten]
  exact rounded_div hkept (ten_pow_mul_one_pos _)

end Conversion

/-- Rounding to places keeps the order of all numbers, the infinite ones included. Of two texts that
write numbers, if the smaller number is converted then so is the greater one, and the number that is
written for the smaller one is not the greater. -/
theorem Config.convert?_keepsOrder :
    (∀ places : UInt32, places ≤ 21 → KeepsOrder (roundPlaces · places)) ∧
    ∀ o c, (Config.resolve o).1 = .ok c → ∀ a b v w, Writes a v → Writes b w → v ≤ w →
      ∀ target text, c.conversion.convert? a target = some text →
        ∃ m n v' w', text = m ++ target ∧ c.conversion.convert? b target = some (n ++ target) ∧
          Writes m v' ∧ Writes n w' ∧ v' ≤ w' := by
  refine ⟨fun places h => keepsOrder_roundPlaces (UInt32.le_iff_toNat_le.1 h), ?_⟩
  intro o c hc a b v w ha hb hle target text htext
  have hadm := admissible_of_resolve hc
  have hplaces : c.conversion.places.toNat ≤ 15 := hadm.precision_toNat_le
  obtain ⟨x, y, hx, hy, hx0, hy0, hxy⟩ := ha.exists_read?_le hb hle
  rw [c.conversion.convert?_of_read? hx] at htext
  rw [c.conversion.convert?_of_read? hy]
  split at htext
  · cases htext
  · rename_i hthreshold
    obtain rfl := Option.some.inj htext
    have hthreshold' : ¬ y ≤ c.conversion.threshold := fun h => hthreshold (le_trans hxy h)
    obtain ⟨v', w', hv', hw', hvw⟩ :=
      (Conversion.rounded_share hadm.viewportWidth hplaces hx0).exists_writes_le
        (Conversion.rounded_share hadm.viewportWidth hplaces hy0)
        (Conversion.keepsOrder_share hadm.viewportWidth (hplaces.trans (by decide)) hxy)
    rw [if_neg hthreshold']
    exact ⟨_, _, v', w', rfl, rfl, hv', hw', hvw⟩

/-- The tie `-2.5` against infinity, and a whole length against one with a point. -/
theorem Config.convert?_keepsOrder_hundred :
    roundPlaces (finite true (5 * (one / 2))) 0 ≤ roundPlaces (infinite false) 0 ∧
    ∃ m n v' w', "13.33333vmin".toList = m ++ "vmin".toList ∧
      (conversion {}).convert? "200.5".toList "vmin".toList = some (n ++ "vmin".toList) ∧
      Writes m v' ∧ Writes n w' ∧ v' ≤ w' := by
  have hfst : Writes "100".toList (100 : ℚ) :=
    .whole (n := "100".toList) ⟨by decide, List.all_eq_true.1 rfl⟩
  have hsnd : Writes "200.5".toList (2005 / 10 ^ 1 : ℚ) :=
    .point (n := "200".toList) (f := "5".toList) (List.all_eq_true.1 rfl)
      ⟨by decide, List.all_eq_true.1 rfl⟩
  have hle : ((100 : ℚ) : WithTop ℚ) ≤ (2005 / 10 ^ 1 : ℚ) := WithTop.coe_le_coe.2 (by norm_num)
  obtain ⟨hround, hconvert⟩ := convert?_keepsOrder
  exact ⟨hround 0 (by decide) rfl,
    hconvert _ _ resolve_empty _ _ _ _ hfst hsnd hle _ _ convert?_hundred⟩

end Viewport
