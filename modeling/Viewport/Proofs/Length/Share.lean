import Viewport.Proofs.Binary64.Exact
import Viewport.Proofs.Binary64.Plain
import Viewport.Proofs.Config.Resolve
import Viewport.Proofs.Length.Reading
import Viewport.Proofs.Length.Scale

/-!
# The text of a share

A share is computed in steps that keep the order of numbers, so the bounds of a step follow from
what it makes of two fixed numbers. Where the digits that are kept fit the format, the share reads
as a decimal with no more places than it is rounded to; above, it may have one place more. The
scaling of a very large share is infinite.
-/

namespace Viewport

open Binary64

seal one limit

/-! ## The steps of rounding -/

theorem ofNat_ten : ofNat 10 = .finite false (10 * one) := ofNat_of_le (by decide)

theorem ofNat_hundred : ofNat 100 = .finite false (100 * one) := ofNat_of_le (by decide)

theorem ten_mul_one_pos : 0 < 10 * one := Nat.mul_pos (by decide) oneUnits_pos

theorem ten_pow_mul_one_pos (k : Nat) : 0 < 10 ^ k * one :=
  Nat.mul_pos (Nat.pow_pos (by decide)) oneUnits_pos

section Steps

variable {places : Nat}

theorem rises_kept (h : places ≤ 15) : Rises (kept (ofNat (10 ^ (places + 1)))) := by
  obtain ⟨half, hhalf, -⟩ := exists_half_eq
  have hkept : kept (ofNat (10 ^ (places + 1))) = fun x =>
      floor (floor (x * .finite false (10 ^ (places + 1) * one)) / .finite false (10 * one) +
        .finite false half) := by
    funext x
    rw [kept, cut, ofNat_ten_pow (by omega), ofNat_ten, hhalf]
  rw [hkept]
  exact rises_floor.comp ((rises_add half).comp ((rises_div ten_mul_one_pos).comp
    (rises_floor.comp (rises_mul (ten_pow_mul_one_pos _)))))

/-- Rounding to places keeps the order from zero on. -/
theorem rises_roundPlaces {places : UInt32} (h : places.toNat ≤ 15) :
    Rises (roundPlaces · places) := by
  have hround : (roundPlaces · places) = fun x =>
      kept (ofNat (10 ^ (places.toNat + 1))) x * .finite false (10 * one) /
        .finite false (10 ^ (places.toNat + 1) * one) := by
    funext x
    rw [roundPlaces_eq, placesScale_eq (by omega), ← ofNat_ten_pow (by omega), ofNat_ten]
  rw [hround]
  exact (rises_div (ten_pow_mul_one_pos _)).comp ((rises_mul ten_mul_one_pos).comp (rises_kept h))

/-- Of `10 ^ (15 - places)` every step is exact, and `10 ^ 15` steps are kept. -/
theorem kept_ten_pow (h : places ≤ 15) :
    kept (ofNat (10 ^ (places + 1))) (ofNat (10 ^ (15 - places))) =
      .finite false (10 ^ 15 * one) := by
  obtain ⟨half, hhalf, hfloor⟩ := exists_half_eq
  have hpow : 10 ^ (15 - places) * 10 ^ (places + 1) = 10 ^ 16 := by
    rw [← Nat.pow_add]
    congr 1
    omega
  have hscaled : ofNat (10 ^ (15 - places)) * ofNat (10 ^ (places + 1)) =
      .finite false (10 ^ 16 * one) := by
    rw [ofNat_ten_pow (by omega), ofNat_ten_pow (by omega)]
    refine mul_eq_finite (isExact_ten_pow_mul_one (by decide)) (mul_one_lt_limit (by decide)) ?_
    rw [← hpow]
    ring
  have htenth : finite false (10 ^ 16 * one) / ofNat 10 = .finite false (10 ^ 15 * one) := by
    rw [ofNat_ten]
    exact div_eq_finite (isExact_ten_pow_mul_one (by decide)) (mul_one_lt_limit (by decide))
      ten_mul_one_pos (by ring)
  rw [kept, cut, hscaled, floor_mul_one, htenth, hhalf, hfloor _ (Nat.le_refl _)]

end Steps

/-! ## Decimal places -/

section Places

variable {places : Nat} {x : Binary64}

/-- What has been rounded down is a whole number of ones. -/
theorem exists_of_floor_eq {n : Nat} (h : floor x = .finite false n) : ∃ j, n = j * one := by
  rcases x with _ | s | ⟨_ | _, m⟩
  · cases h
  · cases h
  · exact ⟨m / one, (finite.inj h).2.symm⟩
  · cases h

/-- At most `10 ^ 15` steps are moved back by their places without another rounding. -/
theorem moved_back (h : places ≤ 15) {j : Nat} (hj : j ≤ 10 ^ 15) :
    .finite false (j * one) * ofNat 10 / ofNat (10 ^ (places + 1)) =
      .finite false (roundUnits (j * one) (10 ^ places)) := by
  have hten : finite false (j * one) * ofNat 10 = .finite false (j * 10 * one) := by
    have hexact : IsExact (j * 10 * one) := by
      rw [show j * 10 * one = j * 5 * one * 2 by ring]
      exact (isExact_mul_one (by omega)).mul_two
    rw [ofNat_ten]
    exact mul_eq_finite hexact (mul_one_lt_limit (by omega)) (by ring)
  have hback : roundUnits (j * 10 * one * one) (10 ^ (places + 1) * one) =
      roundUnits (j * one) (10 ^ places) := by
    have hnum : j * 10 * one * one = j * one * (10 * one) := by ring
    have hden : 10 ^ (places + 1) * one = 10 ^ places * (10 * one) := by ring
    rw [hnum, hden, roundUnits_mul_right ten_mul_one_pos]
  have hless : roundUnits (j * one) (10 ^ places) < limit := by
    calc roundUnits (j * one) (10 ^ places) ≤ roundUnits (10 ^ 15 * one * 1) 1 :=
          roundUnits_mono (Nat.pow_pos (by decide)) Nat.one_pos (by
            rw [Nat.mul_one, Nat.mul_one]
            exact (Nat.mul_le_mul_right one hj).trans
              (Nat.le_mul_of_pos_right _ (Nat.pow_pos (by decide))))
      _ = 10 ^ 15 * one := roundUnits_of_isExact (isExact_mul_one (by decide)) Nat.one_pos
      _ < limit := mul_one_lt_limit (by decide)
  rw [hten, ofNat_ten_pow (by omega), finite_div_finite _ (ten_pow_mul_one_pos _),
    ofFraction_of_lt (hback.trans_lt hless), hback]

/-- Where no more than `10 ^ 15` steps are kept, all of them are exact, and the result is the number
that a decimal with so many places reads as. -/
theorem roundPlaces_of_le {places : UInt32} (h : places.toNat ≤ 15) (hx : Nonneg x)
    (hle : x ≤ ofNat (10 ^ (15 - places.toNat))) :
    ∃ j, roundPlaces x places = .finite false (roundUnits (j * one) (10 ^ places.toNat)) := by
  have hkept : kept (ofNat (10 ^ (places.toNat + 1))) x ≤ .finite false (10 ^ 15 * one) := by
    rw [← kept_ten_pow h]
    exact (rises_kept h).le hx (nonneg_ofNat _) hle
  obtain ⟨n, hn, hkeptn⟩ := ((rises_kept h).nonneg hx).exists_of_le_finite hkept
  obtain ⟨j, rfl⟩ := exists_of_floor_eq hkeptn
  refine ⟨j, ?_⟩
  rw [roundPlaces_eq, placesScale_eq (by omega), hkeptn]
  exact moved_back h (Nat.le_of_mul_le_mul_right hn oneUnits_pos)

/-- From a power of ten on, what is rounded is not below it. -/
theorem le_roundPlaces {places : UInt32} (h : places.toNat ≤ 15) (hx : Nonneg x)
    (hle : ofNat (10 ^ (15 - places.toNat)) ≤ x) :
    .finite false (10 ^ (15 - places.toNat) * one) ≤ roundPlaces x places := by
  have hbound : roundPlaces (ofNat (10 ^ (15 - places.toNat))) places =
      .finite false (10 ^ (15 - places.toNat) * one) := by
    have hpow : 10 ^ 15 * one = 10 ^ (15 - places.toNat) * one * 10 ^ places.toNat := by
      rw [Nat.mul_right_comm, Nat.pow_sub_mul_pow 10 h]
    rw [roundPlaces_eq, placesScale_eq (by omega), kept_ten_pow h, moved_back h (Nat.le_refl _),
      hpow, roundUnits_of_isExact (isExact_ten_pow_mul_one (by omega)) (Nat.pow_pos (by decide))]
  rw [← hbound]
  exact (rises_roundPlaces h).le (nonneg_ofNat _) hx hle

/-- A number that a decimal reads as is written with no more places than that decimal has. -/
theorem decimals_roundUnits_le (h : places ≤ 15) (j : Nat) :
    decimals (formatUnits .plain (roundUnits (j * one) (10 ^ places))) ≤ places := by
  have hden : 0 < 10 ^ places := Nat.pow_pos (by decide)
  obtain hzero | hpos := Nat.eq_zero_or_pos (roundUnits (j * one) (10 ^ places))
  · rw [hzero, decimals_formatUnits_zero]
    exact Nat.zero_le places
  · obtain hsmall | hlarge := Nat.lt_or_ge j 2
    · -- the power of ten may be rounded down and lose its place, so each is computed
      have hsingle : ∀ j < 2, ∀ p ≤ 15,
          decimals (formatUnits .plain (roundUnits (j * one) (10 ^ p))) ≤ p := by
        decide +kernel
      exact hsingle j hsmall places h
    · have htwo : ∀ p ≤ 15, one ≤ roundUnits (2 * one) (10 ^ p) * 10 ^ p := by decide +kernel
      have hmono : roundUnits (2 * one) (10 ^ places) ≤ roundUnits (j * one) (10 ^ places) :=
        roundUnits_mono hden hden (Nat.mul_le_mul_right _ (Nat.mul_le_mul_right one hlarge))
      have hplace := neg_natCast_lt_firstPlace hpos (by omega)
        ((htwo places h).trans (Nat.mul_le_mul_right _ hmono))
      have hexponent := le_shortest_exponent .up (isExact_roundUnits hden)
        (unitsOf_neg_natCast j places) hplace
      refine (decimals_formatUnits_le hpos).trans ?_
      omega

/-- A number with at least sixteen digits less `places` before the point has at most one place more
than that. -/
theorem decimals_formatUnits_le_succ (h : places ≤ 15) {n : Nat}
    (hn : 10 ^ (15 - places) * one ≤ n) : decimals (formatUnits .plain n) ≤ places + 1 := by
  have hpos : 0 < n := (Nat.mul_pos (Nat.pow_pos (by decide)) oneUnits_pos).trans_le hn
  have hplace := natCast_lt_firstPlace hpos hn
  have hexponent := firstPlace_sub_le_exponent .up n
  refine (decimals_formatUnits_le hpos).trans ?_
  omega

end Places

/-! ## Shares of a width -/

section Share

variable {c : Conversion} {x : Binary64}

/-- A length in hundredths of the width, before it is rounded. -/
def Conversion.hundredths (c : Conversion) (x : Binary64) : Binary64 := x / c.width * ofNat 100

/-- A share is what the hundredths come to, rounded. -/
theorem share_eq (c : Conversion) (x : Binary64) :
    c.share x = roundPlaces (c.hundredths x) c.places := by
  rw [Conversion.share, Conversion.hundredths, cast_eq_ofNat]

theorem rises_hundred : Rises (· * ofNat 100) := by
  rw [ofNat_hundred]
  exact rises_mul (Nat.mul_pos (by decide) oneUnits_pos)

theorem rises_width {width : Binary64} (h : IsWidth width) : Rises (· / width) := by
  obtain ⟨n, hn, rfl⟩ := h
  exact rises_div hn

/-- The hundredths of a width keep the order from zero on. -/
theorem rises_hundredths (h : IsWidth c.width) : Rises c.hundredths :=
  rises_hundred.comp (rises_width h)

/-- A number from zero on has such a share. -/
theorem nonneg_share (hwidth : IsWidth c.width) (hplaces : c.places.toNat ≤ 15) (hx : Nonneg x) :
    Nonneg (c.share x) := by
  rw [share_eq]
  exact (rises_roundPlaces hplaces).nonneg ((rises_hundredths hwidth).nonneg hx)

/-- A share of at most `10 ^ (15 - places)` hundredths has no more places than it is rounded to. -/
theorem decimals_share_le (hwidth : IsWidth c.width) (hplaces : c.places.toNat ≤ 15)
    (hx : Nonneg x) (hle : c.hundredths x ≤ ofNat (10 ^ (15 - c.places.toNat))) :
    decimals ((c.share x).format .plain) ≤ c.places.toNat := by
  obtain ⟨j, hj⟩ := roundPlaces_of_le hplaces ((rises_hundredths hwidth).nonneg hx) hle
  rw [share_eq, hj, format_finite]
  exact decimals_roundUnits_le hplaces j

/-- A share has at most one place more than it is rounded to. -/
theorem decimals_share_le_succ (hwidth : IsWidth c.width) (hplaces : c.places.toNat ≤ 15)
    (hx : Nonneg x) : decimals ((c.share x).format .plain) ≤ c.places.toNat + 1 := by
  have hh := (rises_hundredths hwidth).nonneg hx
  obtain hle | hge := hh.le_total (nonneg_ofNat (10 ^ (15 - c.places.toNat)))
  · exact Nat.le_succ_of_le (decimals_share_le hwidth hplaces hx hle)
  · have hshare := le_roundPlaces hplaces hh hge
    rw [← share_eq] at hshare
    have hnonneg := nonneg_share hwidth hplaces hx
    generalize c.share x = y at hshare hnonneg
    cases hnonneg with
    | finite n =>
      rw [format_finite]
      exact decimals_formatUnits_le_succ hplaces (finite_le_finite_iff.1 hshare)
    | infinite =>
      rw [decimals_format_infinite]
      exact Nat.zero_le _

/-- A share is finite unless the length exceeds the width by a factor of `10 ^ 290`. -/
theorem exists_share_eq_finite (hwidth : IsWidth c.width) (hplaces : c.places.toNat ≤ 15)
    (hx : Nonneg x) (hle : x / c.width ≤ ofNat (10 ^ 290)) :
    ∃ n, c.share x = .finite false n := by
  have hbound : ∀ p ≤ 15,
      (roundPlaces (ofNat (10 ^ 290) * ofNat 100) (.ofNat p)).isFinite = true := by
    decide +kernel
  have hfinite := hbound c.places.toNat hplaces
  rw [UInt32.ofNat_toNat] at hfinite
  have hquotient := (rises_width hwidth).nonneg hx
  have hhundredths := rises_hundred.le hquotient (nonneg_ofNat _) hle
  have hshare := (rises_roundPlaces hplaces).le ((rises_hundredths hwidth).nonneg hx)
    (rises_hundred.nonneg (nonneg_ofNat _)) hhundredths
  obtain ⟨n, hn⟩ := Nonneg.exists_of_isFinite
    ((rises_roundPlaces hplaces).nonneg (rises_hundred.nonneg (nonneg_ofNat _))) hfinite
  rw [hn, ← share_eq] at hshare
  obtain ⟨m, -, hm⟩ := (nonneg_share hwidth hplaces hx).exists_of_le_finite hshare
  exact ⟨m, hm⟩

end Share

/-! ## Lengths that are converted -/

theorem IsPlainNumber.isNumeric {text : List Char} (h : IsPlainNumber text) :
    ∀ c ∈ text, IsNumeric c := by
  obtain ⟨-, h⟩ | ⟨whole, fraction, ⟨-, hw⟩, ⟨-, hf⟩, rfl⟩ := h
  · exact fun c hc => .inl (h c hc)
  · refine List.forall_mem_append.2 ⟨fun c hc => .inl (hw c hc), ?_⟩
    exact List.forall_mem_cons.2 ⟨.inr rfl, fun c hc => .inl (hf c hc)⟩

namespace Config

variable {o : Options} {c : Config} {value target text : List Char} {l : Length}

/-- What options come to can be run with. -/
theorem admissible_of_resolve (h : (resolve o).1 = .ok c) : c.Admissible := by
  obtain ⟨hne, hfollows⟩ := resolve_eq_ok_iff.1 h
  exact hfollows.admissible hne

/-- Without options the defaults are taken. -/
theorem resolve_empty : (resolve {}).1 = .ok {} :=
  resolve_eq_ok_iff.2 ⟨by decide, rfl, rfl, rfl, rfl, rfl, .nil, .nil, rfl, rfl, rfl, rfl⟩

/-- A length is written with at most one place more than the precision, and within the precision
where its share is at most `10 ^ (15 - precision)` hundredths. -/
theorem decimals_converted (h : (resolve o).1 = .ok c)
    (hl : l ∈ lengths c.sourceUnit.toList value)
    (htext : c.conversion.convert? l.number target = some text) :
    ∃ x number, Binary64.read? l.number = some x ∧ text = number ++ target ∧
      decimals number ≤ c.precision.toNat + 1 ∧
      (c.conversion.hundredths x ≤ ofNat (10 ^ (15 - c.precision.toNat)) →
        decimals number ≤ c.precision.toNat) := by
  have hc := admissible_of_resolve h
  obtain ⟨x, hread, hx⟩ := exists_read?_of_isNumber (isNumber_of_mem_lengths hl)
  rw [Conversion.convert?, hread, Option.bind_some] at htext
  split at htext
  · cases htext
  · obtain rfl := Option.some.inj htext
    exact ⟨x, _, hread, rfl, decimals_share_le_succ hc.viewportWidth hc.precision_toNat_le hx,
      decimals_share_le hc.viewportWidth hc.precision_toNat_le hx⟩

theorem convert?_hundred : (conversion {}).convert? "100".toList "vmin".toList =
    some "13.33333vmin".toList := by decide +kernel

theorem decimals_converted_hundred :
    ∃ x number, Binary64.read? "100".toList = some x ∧
      "13.33333vmin".toList = number ++ "vmin".toList ∧ decimals number ≤ 6 ∧
      (Conversion.hundredths ⟨ofNat 750, ofNat 1, 5⟩ x ≤ ofNat (10 ^ 10) → decimals number ≤ 5) :=
  have hl := mem_lengths_px (n := "100".toList) ⟨by decide, List.all_eq_true.1 rfl⟩
  decimals_converted resolve_empty hl convert?_hundred

/-- With a precision of fifteen places, a length is written with sixteen. -/
theorem exists_decimals_gt_precision :
    ∃ o c, (resolve o).1 = .ok c ∧ ∃ value, ∃ l ∈ lengths c.sourceUnit.toList value,
      ∃ number, c.conversion.convert? l.number "vmin".toList = some (number ++ "vmin".toList) ∧
        c.precision.toNat < decimals number := by
  have hresolve : (resolve { precision := some 15 }).1 = .ok { precision := 15 } :=
    resolve_eq_ok_iff.2 ⟨by decide, rfl, rfl, rfl, rfl, rfl, .nil, .nil, rfl, rfl, rfl, rfl⟩
  have hl := mem_lengths_px (n := "20".toList) ⟨by decide, List.all_eq_true.1 rfl⟩
  exact ⟨_, _, hresolve, _, _, hl, "2.6666666666666674".toList, by decide +kernel, by decide⟩

/-- A length is left as written, or written as a plain number with the unit, or its share is
infinite. That happens only where the length exceeds the width by a factor of `10 ^ 290`. -/
theorem replace_cases (h : (resolve o).1 = .ok c) (hl : l ∈ lengths c.sourceUnit.toList value)
    (target : List Char) :
    c.conversion.replace target l.number l.unit = l.number ++ l.unit ∨
    (∃ number, IsPlainNumber number ∧
      c.conversion.replace target l.number l.unit = number ++ target) ∨
    c.conversion.replace target l.number l.unit = "inf".toList ++ target ∧
      ∃ x, Binary64.read? l.number = some x ∧ ¬ x / c.viewportWidth ≤ ofNat (10 ^ 290) := by
  have hc := admissible_of_resolve h
  obtain ⟨x, hread, hx⟩ := exists_read?_of_isNumber (isNumber_of_mem_lengths hl)
  rw [Conversion.replace, Conversion.convert?, hread, Option.bind_some]
  split
  · exact .inl rfl
  · refine .inr ?_
    rw [Option.getD_some]
    by_cases hle : x / c.viewportWidth ≤ ofNat (10 ^ 290)
    · obtain ⟨n, hn⟩ := exists_share_eq_finite (c := c.conversion) hc.viewportWidth
        hc.precision_toNat_le hx hle
      rw [hn, format_finite]
      exact .inl ⟨_, isPlainNumber_formatUnits n, rfl⟩
    · have hnonneg := nonneg_share (c := c.conversion) hc.viewportWidth hc.precision_toNat_le hx
      generalize c.conversion.share x = y at hnonneg
      cases hnonneg with
      | finite n =>
        rw [format_finite]
        exact .inl ⟨_, isPlainNumber_formatUnits n, rfl⟩
      | infinite => exact .inr ⟨rfl, x, rfl, hle⟩

theorem replace_cases_hundred :
    Conversion.replace ⟨ofNat 750, ofNat 1, 5⟩ "vmin".toList "100".toList "px".toList =
        "100px".toList ∨
      (∃ number, IsPlainNumber number ∧
        Conversion.replace ⟨ofNat 750, ofNat 1, 5⟩ "vmin".toList "100".toList "px".toList =
          number ++ "vmin".toList) ∨
      Conversion.replace ⟨ofNat 750, ofNat 1, 5⟩ "vmin".toList "100".toList "px".toList =
          "infvmin".toList ∧
        ∃ x, Binary64.read? "100".toList = some x ∧ ¬ x / ofNat 750 ≤ ofNat (10 ^ 290) :=
  have hl := mem_lengths_px (n := "100".toList) ⟨by decide, List.all_eq_true.1 rfl⟩
  replace_cases resolve_empty hl "vmin".toList

/-- A length whose share is a number of the format may be written as infinite. -/
theorem exists_replace_not_plain :
    ∃ o c, (resolve o).1 = .ok c ∧ ∃ value, ∃ l ∈ lengths c.sourceUnit.toList value,
      c.conversion.replace "vmin".toList l.number l.unit ≠ l.number ++ l.unit ∧
      ∀ number, IsPlainNumber number →
        c.conversion.replace "vmin".toList l.number l.unit ≠ number ++ "vmin".toList := by
  have hdigits : IsDigits ('1' :: List.replicate 304 '0') :=
    ⟨List.cons_ne_nil _ _, List.forall_mem_cons.2 ⟨rfl, forall_isDigit_replicate_zero 304⟩⟩
  have hreplace : Conversion.replace (conversion {}) "vmin".toList
      ('1' :: List.replicate 304 '0') "px".toList = "inf".toList ++ "vmin".toList := by
    decide +kernel
  refine ⟨_, _, resolve_empty, _, _, mem_lengths_px hdigits, ?_⟩
  rw [hreplace]
  refine ⟨by decide +kernel, fun number hnumber h => ?_⟩
  obtain rfl := List.append_cancel_right h
  exact absurd (hnumber.isNumeric 'i' List.mem_cons_self) (by decide)

end Config

end Viewport
