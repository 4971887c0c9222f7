import Viewport.Proofs.Length.Splice

/-!
# Lengths that are converted and lengths that are kept

The number of every length is one that reads, whatever the unit, so what is done with a number that
does not read is never done. A length is kept as it is written exactly if its number does not exceed
the threshold.
-/

namespace Viewport.Conversion

seal Binary64.one Binary64.limit

variable (c : Conversion) {number : List Char} {x : Binary64}

/-- A number that is read is converted unless it is at most the threshold. -/
theorem convert?_of_read? (h : Binary64.read? number = some x) (target : List Char) :
    c.convert? number target =
      if x ≤ c.threshold then none else some ((c.share x).format .plain ++ target) := by
  rw [convert?, h, Option.bind_some]

/-- A number that is read is left as it is exactly if it is at most the threshold. -/
theorem convert?_eq_none_iff (h : Binary64.read? number = some x) (target : List Char) :
    c.convert? number target = none ↔ x ≤ c.threshold := by
  rw [c.convert?_of_read? h, ite_eq_left_iff]
  constructor
  · intro hnone
    by_contra hx
    cases hnone hx
  · exact fun hx hnot => absurd hx hnot

theorem replace_of_read? (h : Binary64.read? number = some x) (target unit : List Char) :
    c.replace target number unit =
      if x ≤ c.threshold then number ++ unit else (c.share x).format .plain ++ target := by
  rw [replace, c.convert?_of_read? h]
  split <;> rfl

/-- A length as it is converted, with a text of one's own where the number does not read. -/
def replaceOr (unread : List Char → List Char → List Char) (target number unit : List Char) :
    List Char :=
  match Binary64.read? number with
  | none => unread number unit
  | some x => if x ≤ c.threshold then number ++ unit else (c.share x).format .plain ++ target

theorem replace_eq_replaceOr (h : Binary64.read? number = some x)
    (unread : List Char → List Char → List Char) (target unit : List Char) :
    c.replace target number unit = c.replaceOr unread target number unit := by
  rw [c.replace_of_read? h, replaceOr, h]

/-- The number of a length reads as a number from zero on. The conversion gives nothing exactly if
that is at or below the threshold, and the length is then kept as it stands in the value; otherwise
it becomes its share and the unit. What is done with numbers that do not read has no part in it. -/
theorem replace_of_mem_lengths (unit target value : List Char) :
    (∀ l ∈ lengths unit value, ∃ x, Binary64.read? l.number = some x ∧ x.Nonneg ∧
      (c.convert? l.number target = none ↔ x ≤ c.threshold) ∧
      (x ≤ c.threshold → c.replace target l.number l.unit = l.text ∧
        slice? l.start l.stop value = some l.text) ∧
      (¬x ≤ c.threshold →
        c.replace target l.number l.unit = (c.share x).format .plain ++ target)) ∧
    ∀ unread : List Char → List Char → List Char,
      c.convertAll unit target value = replaceLengths unit (c.replaceOr unread target) value := by
  refine ⟨fun l hl => ?_, fun unread => replaceLengths_congr fun l hl => ?_⟩
  · obtain ⟨x, hread, hx⟩ := Binary64.exists_read?_of_isNumber (isNumber_of_mem_lengths hl)
    refine ⟨x, hread, hx, c.convert?_eq_none_iff hread target,
      fun hle => ⟨?_, slice?_of_mem_lengths hl⟩, fun hgt => ?_⟩
    · rw [c.replace_of_read? hread, if_pos hle]
      rfl
    · rw [c.replace_of_read? hread, if_neg hgt]
  · obtain ⟨x, hread, -⟩ := Binary64.exists_read?_of_isNumber (isNumber_of_mem_lengths hl)
    exact c.replace_eq_replaceOr hread unread target l.unit

/-- At the threshold `1` a length of one is kept, and one of a hundred becomes its share, be the
count of places as great as it may. -/
theorem replace_of_mem_lengths_px :
    let c : Conversion := ⟨Binary64.ofNat 750, Binary64.ofNat 1, 4294967295⟩
    c.convert? "1".toList "vmin".toList = none ∧
      c.replace "vmin".toList "1".toList "px".toList = "1px".toList ∧
      slice? 0 3 "1px".toList = some "1px".toList ∧
      c.convert? "100".toList "vmin".toList ≠ none ∧
      c.replace "vmin".toList "100".toList "px".toList = "10vmin".toList := by
  intro c
  obtain ⟨x, hx, -, hnone, hkept, -⟩ := (c.replace_of_mem_lengths "px".toList "vmin".toList
    "1px".toList).1 _ (mem_lengths_px (n := "1".toList) ⟨by decide, List.all_eq_true.1 rfl⟩)
  obtain ⟨y, hy, -, hsome, -, hconverted⟩ := (c.replace_of_mem_lengths "px".toList "vmin".toList
    "100px".toList).1 _ (mem_lengths_px (n := "100".toList) ⟨by decide, List.all_eq_true.1 rfl⟩)
  have hreads : Binary64.read? "1".toList = some (Binary64.ofNat 1) ∧
      Binary64.read? "100".toList = some (Binary64.ofNat 100) ∧
      Binary64.ofNat 1 ≤ c.threshold ∧ ¬ Binary64.ofNat 100 ≤ c.threshold ∧
      (c.share (Binary64.ofNat 100)).format .plain = "10".toList := by
    decide +kernel
  obtain ⟨hone, hhundred, hle, hgt, hshare⟩ := hreads
  obtain rfl := Option.some.inj (hone.symm.trans hx)
  obtain rfl := Option.some.inj (hhundred.symm.trans hy)
  exact ⟨hnone.2 hle, (hkept hle).1, (hkept hle).2, mt hsome.1 hgt,
    (hconverted hgt).trans (congrArg (· ++ "vmin".toList) hshare)⟩

end Viewport.Conversion
