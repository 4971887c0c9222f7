import Mathlib.Data.List.TakeWhile
import Viewport.Proofs.Binary64.Shortest
import Viewport.Proofs.Length.Scan

/-!
# Plain numbers

In the layout of lengths a finite number is written as digits with at most a point between two of
them. After the point stand no more digits than the shortest decimal has there.
-/

namespace Viewport

/-- One digit or more, and then perhaps a point and one digit or more. -/
def IsPlainNumber (text : List Char) : Prop :=
  IsDigits text ∨
    ∃ whole fraction, IsDigits whole ∧ IsDigits fraction ∧ text = whole ++ '.' :: fraction

/-- How many characters follow the point. -/
def decimals (text : List Char) : Nat := (text.dropWhile (· ≠ '.')).tail.length

section Decimals

variable {ds fraction : List Char}

theorem IsDigits.append_left (h : IsDigits ds) (hf : ∀ c ∈ fraction, c.isDigit = true) :
    IsDigits (fraction ++ ds) :=
  ⟨List.append_ne_nil_of_right_ne_nil _ h.1, List.forall_mem_append.2 ⟨hf, h.2⟩⟩

theorem IsDigits.append_right (h : IsDigits ds) (hf : ∀ c ∈ fraction, c.isDigit = true) :
    IsDigits (ds ++ fraction) :=
  ⟨List.append_ne_nil_of_left_ne_nil h.1 _, List.forall_mem_append.2 ⟨h.2, hf⟩⟩

theorem ne_point_of_isDigit {c : Char} (h : c.isDigit = true) : c ≠ '.' := by
  rintro rfl
  exact absurd h (by decide)

/-- Without a point there are no decimal places. -/
theorem decimals_of_forall_isDigit (h : ∀ c ∈ ds, c.isDigit = true) : decimals ds = 0 := by
  have hdrop : ds.dropWhile (· ≠ '.') = [] :=
    List.dropWhile_eq_nil_iff.2 fun c hc => decide_eq_true (ne_point_of_isDigit (h c hc))
  rw [decimals, hdrop]
  rfl

/-- The decimal places are counted behind the only point. -/
theorem decimals_append_point (h : ∀ c ∈ ds, c.isDigit = true) :
    decimals (ds ++ '.' :: fraction) = fraction.length := by
  have hdrop : (ds ++ '.' :: fraction).dropWhile (· ≠ '.') = '.' :: fraction := by
    rw [List.dropWhile_append_of_pos fun c hc => decide_eq_true (ne_point_of_isDigit (h c hc))]
    rfl
  rw [decimals, hdrop]
  rfl

theorem forall_isDigit_replicate_zero (len : Nat) :
    ∀ c ∈ List.replicate len '0', c.isDigit = true := by
  intro c hc
  rw [(List.mem_replicate.1 hc).2]
  rfl

end Decimals

namespace Binary64

/-- Digits with a point set among them are a plain number, with the digits that are left of
the place before the point. -/
theorem setPoint_plain {ds : List Char} (h : IsDigits ds) (place : Int) :
    IsPlainNumber (setPoint .plain ds place) ∧
      decimals (setPoint .plain ds place) = (ds.length - place).toNat := by
  rw [setPoint]
  split
  · have hzero : IsDigits ['0'] := ⟨List.cons_ne_nil _ _, List.forall_mem_singleton.2 rfl⟩
    have hfraction := h.append_left (forall_isDigit_replicate_zero (-place).toNat)
    refine ⟨.inr ⟨['0'], _, hzero, hfraction, rfl⟩, ?_⟩
    rw [List.cons_append, List.cons_append]
    refine (decimals_append_point hzero.2).trans ?_
    rw [List.length_append, List.length_replicate]
    omega
  · rename_i hplace
    split
    · have hdigits := h.append_right (forall_isDigit_replicate_zero (place.toNat - ds.length))
      have hwhole : Layout.plain.whole.toList = [] := rfl
      rw [hwhole, List.append_nil]
      refine ⟨.inl hdigits, ?_⟩
      rw [decimals_of_forall_isDigit hdigits.2]
      omega
    · rename_i hlen
      have htake : IsDigits (ds.take place.toNat) :=
        ⟨by simpa [h.1] using hplace, fun c hc => h.2 c (List.mem_of_mem_take hc)⟩
      have hdrop : IsDigits (ds.drop place.toNat) :=
        ⟨by simp; omega, fun c hc => h.2 c (List.mem_of_mem_drop hc)⟩
      refine ⟨.inr ⟨_, _, htake, hdrop, rfl⟩, ?_⟩
      rw [decimals_append_point htake.2, List.length_drop]
      omega

/-- A number above zero has a digit above zero. -/
theorem exists_mem_toDigits_ne_zero {n : Nat} (hn : 0 < n) : ∃ c ∈ Nat.toDigits 10 n, c ≠ '0' := by
  induction n using Nat.strongRecOn with
  | ind n ih =>
    obtain hlt | hge := Nat.lt_or_ge n 10
    · rw [Nat.toDigits_of_lt_base hlt]
      have hdigit : ∀ m < 10, 0 < m → m.digitChar ≠ '0' := by decide
      exact ⟨_, List.mem_singleton_self _, hdigit n hlt hn⟩
    · obtain ⟨c, hc, hne⟩ := ih (n / 10) (by omega) (by omega)
      rw [Nat.toDigits_of_base_le (by decide) hge]
      exact ⟨c, List.mem_append_left _ hc, hne⟩

/-- Not all digits are zeros at the end if one of them is no zero. -/
theorem trailingZeros_lt {ds : List Char} (h : ∃ c ∈ ds, c ≠ '0') :
    trailingZeros ds < ds.length := by
  obtain ⟨c, hc, hne⟩ := h
  have hsub := List.takeWhile_sublist (l := ds.reverse) (· == '0')
  have hle : trailingZeros ds ≤ ds.length := hsub.length_le.trans_eq List.length_reverse
  refine Nat.lt_of_le_of_ne hle fun heq => hne ?_
  have hall := hsub.eq_of_length (heq.trans List.length_reverse.symm)
  exact beq_iff_eq.1 (List.takeWhile_eq_self_iff.1 hall c (List.mem_reverse.2 hc))

/-- Digits without the zeros at their end. -/
def trimmed (ds : List Char) : List Char := ds.take (ds.length - trailingZeros ds)

/-- Of a positive number digits are left without the zeros at the end. -/
theorem isDigits_trimmed_toDigits {m : Nat} (hm : 0 < m) :
    IsDigits (trimmed (Nat.toDigits 10 m)) := by
  have hlt := trailingZeros_lt (exists_mem_toDigits_ne_zero hm)
  refine ⟨?_, fun c hc => ?_⟩
  · rw [trimmed, Ne, List.take_eq_nil_iff, not_or]
    exact ⟨by omega, Nat.toDigits_ne_nil⟩
  · exact Nat.isDigit_of_mem_toDigits (by decide) (by decide) (List.mem_of_mem_take hc)

/-- The text of a positive number: its shortest digits without the zeros at the end, and the point
where the exponent says. -/
theorem formatUnits_plain_eq {n : Nat} (hn : 0 < n) :
    formatUnits .plain n = setPoint .plain (trimmed (Nat.toDigits 10 (shortest .up n).digits))
      ((Nat.toDigits 10 (shortest .up n).digits).length + (shortest .up n).exponent) := by
  rw [formatUnits, if_neg hn.ne']
  exact if_pos rfl

/-- Every finite number is written as a plain number. -/
theorem isPlainNumber_formatUnits (n : Nat) : IsPlainNumber (formatUnits .plain n) := by
  obtain rfl | hn := Nat.eq_zero_or_pos n
  · exact (setPoint_plain ⟨List.cons_ne_nil '0' [], List.forall_mem_singleton.2 rfl⟩ 1).1
  · rw [formatUnits_plain_eq hn]
    exact (setPoint_plain (isDigits_trimmed_toDigits (shortest_digits_pos .up hn)) _).1

/-- After the point stand no more digits than the shortest decimal has there. -/
theorem decimals_formatUnits_le {n : Nat} (hn : 0 < n) :
    decimals (formatUnits .plain n) ≤ (-(shortest .up n).exponent).toNat := by
  rw [formatUnits_plain_eq hn,
    (setPoint_plain (isDigits_trimmed_toDigits (shortest_digits_pos .up hn)) _).2, trimmed,
    List.length_take]
  omega

/-- The text of a number without a minus sign is the text of its units. -/
theorem format_finite (layout : Layout) (n : Nat) :
    format layout (.finite false n) = formatUnits layout n := by
  rw [format, if_neg Bool.false_ne_true, List.nil_append]

theorem decimals_format_infinite (layout : Layout) :
    decimals (format layout (.infinite false)) = 0 := rfl

theorem decimals_formatUnits_zero : decimals (formatUnits .plain 0) = 0 := rfl

end Binary64

end Viewport
