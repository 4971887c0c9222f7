import Mathlib.Data.List.TakeDrop
import Mathlib.Data.List.TakeWhile
import Viewport.Proofs.Binary64.Order
import Viewport.Proofs.Length.Stable

/-!
# What the number of a length stands for

The number of every length reads as a number from zero on: its digits are a decimal, which the
nearest number of the format stands for.
-/

namespace Viewport

/-! ## Lengths of a value -/

theorem Cut.isNumber_of_mem_lengths {unit : List Char} {c : Cut} (h : c.Valid unit) {start : Nat}
    {l : Length} (hl : l ∈ c.lengths start) : IsNumber l.number := by
  induction c generalizing start with
  | last g => cases hl
  | mark g m c ih =>
    obtain ⟨-, hat, hc⟩ := h
    cases m with
    | sealed t => exact ih hc hl
    | length n u =>
      obtain rfl | hl := List.mem_cons.1 hl
      · exact hat.1
      · exact ih hc hl

/-- The number of every length of a value is one. -/
theorem isNumber_of_mem_lengths {unit value : List Char} {l : Length}
    (h : l ∈ lengths unit value) : IsNumber l.number := by
  obtain ⟨c, rfl, hc⟩ := Cut.exists_valid unit value
  rw [lengths, Cut.pieces_text hc, Cut.ofPieces_pieces] at h
  exact Cut.isNumber_of_mem_lengths hc h

theorem IsDigits.isNumber {n : List Char} (h : IsDigits n) : IsNumber n :=
  ⟨[], [], n, nofun, .inl rfl, h, rfl⟩

/-- A value that is a length in `px` and nothing else. -/
theorem lengths_px {n : List Char} (h : IsNumber n) :
    lengths "px".toList (n ++ "px".toList) =
      [⟨n, "px".toList, 0, byteSize (n ++ "px".toList)⟩] := by
  have hspells : Spells "px".toList "px".toList := spells_px_iff.2 ⟨'p', 'x', rfl, rfl, rfl⟩
  have hpiece : pieceAt? "px".toList (n ++ "px".toList) = some ⟨.length n "px".toList, []⟩ :=
    (pieceAt?_eq_some_iff (m := .length n "px".toList)).2
      ⟨at_px_iff.2 ⟨h, hspells⟩, (List.append_nil _).symm⟩
  have hnil : pieces "px".toList [] = [] := by rw [pieces]
  rw [lengths, pieces_of_some hpiece, hnil, Length.ofPieces, Length.ofPieces, Nat.zero_add]
  rfl

/-- Digits and `px` after them are a length of the value that they make up. -/
theorem mem_lengths_px {n : List Char} (h : IsDigits n) :
    ⟨n, "px".toList, 0, byteSize (n ++ "px".toList)⟩ ∈
      lengths "px".toList (n ++ "px".toList) := by
  rw [lengths_px h.isNumber]
  exact List.mem_singleton_self _

/-! ## Reading a number -/

theorem spanDigits_append {ds rest : List Char} (hds : ∀ c ∈ ds, c.isDigit = true)
    (hrest : ∀ c ∈ rest.head?, c.isDigit = false) : spanDigits (ds ++ rest) = (ds, rest) := by
  have htake : rest.takeWhile Char.isDigit = [] ∧ rest.dropWhile Char.isDigit = rest := by
    cases rest with
    | nil => exact ⟨rfl, rfl⟩
    | cons c cs => simp [hrest c rfl]
  rw [spanDigits, List.span_eq_takeWhile_dropWhile, List.takeWhile_append_of_pos hds,
    List.dropWhile_append_of_pos hds, htake.1, htake.2, List.append_nil]

theorem spanDigits_of_isDigit {ds : List Char} (hds : ∀ c ∈ ds, c.isDigit = true) :
    spanDigits ds = (ds, []) := by
  have h := @spanDigits_append ds [] hds nofun
  rwa [List.append_nil] at h

namespace Decimal

/-- Digits are read as the number that they write. -/
theorem read?_of_isDigits {n : List Char} (h : IsDigits n) :
    read? n = some ⟨decimalValue n, 0⟩ := by
  simp [read?, spanDigits_of_isDigit h.2, h.1]

/-- Digits behind a point are read as digits, with as many places. -/
theorem read?_of_point {whole fraction : List Char} (hw : ∀ c ∈ whole, c.isDigit = true)
    (hf : IsDigits fraction) :
    read? (whole ++ '.' :: fraction) =
      some ⟨decimalValue (whole ++ fraction), -fraction.length⟩ := by
  have hpoint : spanDigits (whole ++ '.' :: fraction) = (whole, '.' :: fraction) :=
    spanDigits_append hw fun c hc => by
      obtain rfl := Option.some.inj hc
      rfl
  simp [read?, hpoint, spanDigits_of_isDigit hf.2, hf.1]

theorem exists_read?_of_isNumber {n : List Char} (h : IsNumber n) : ∃ d, read? n = some d := by
  obtain ⟨whole, point, fraction, hw, rfl | rfl, hf, rfl⟩ := h
  · exact ⟨_, read?_of_isDigits ⟨List.append_ne_nil_of_right_ne_nil _ hf.1,
      List.forall_mem_append.2 ⟨hw, hf.2⟩⟩⟩
  · exact ⟨_, read?_of_point hw hf⟩

end Decimal

namespace Binary64

/-- A decimal without a minus sign is rounded to a number without one. -/
theorem nonneg_ofDecimal (d : Decimal) : Nonneg (ofDecimal false d) := by
  rw [ofDecimal]
  split
  · exact .finite 0
  · split
    · exact .infinite
    · split
      · exact .finite 0
      · split <;> exact nonneg_ofFraction _ _

/-- A text of a number is no word, whatever its letter case. -/
theorem ofList_toLower_ne {c w : Char} (hc : IsNumeric c) (hw : ¬IsNumeric w)
    (cs ws : List Char) : String.ofList ((c :: cs).map Char.toLower) ≠ String.ofList (w :: ws) := by
  intro h
  have hhead : c.toLower = w := (List.cons.inj (String.ofList_injective h)).1
  rw [hc.toLower_eq] at hhead
  exact hw (hhead ▸ hc)

/-- A number has no sign, and is none of the words for infinity and for no number. -/
theorem read?_of_isNumber {n : List Char} (h : IsNumber n) :
    read? n = (Decimal.read? n).map (ofDecimal false) := by
  cases n with
  | nil => exact absurd h not_isNumber_nil
  | cons c cs =>
    have hc := h.isNumeric c List.mem_cons_self
    have hsign : Decimal.readSign (c :: cs) = (false, c :: cs) := by
      rw [Decimal.readSign.eq_3]
      · rintro _ ⟨⟩
        exact absurd hc (by decide)
      · rintro _ ⟨⟩
        exact absurd hc (by decide)
    have hinf : String.ofList ((c :: cs).map Char.toLower) ≠ "inf" :=
      ofList_toLower_ne hc (by decide) cs ['n', 'f']
    have hinfinity : String.ofList ((c :: cs).map Char.toLower) ≠ "infinity" :=
      ofList_toLower_ne hc (by decide) cs "nfinity".toList
    have hnan : String.ofList ((c :: cs).map Char.toLower) ≠ "nan" :=
      ofList_toLower_ne hc (by decide) cs ['a', 'n']
    rw [read?, hsign]
    simp only [hinf, hinfinity, hnan, or_self, if_false]

theorem exists_read?_of_isNumber {n : List Char} (h : IsNumber n) :
    ∃ x, read? n = some x ∧ Nonneg x := by
  obtain ⟨d, hd⟩ := Decimal.exists_read?_of_isNumber h
  exact ⟨_, by rw [read?_of_isNumber h, hd]; rfl, nonneg_ofDecimal d⟩

end Binary64

end Viewport
