import Mathlib.Data.Bool.AllAny
import Viewport.Binary64.Shortest

/-!
# The characters of a plain decimal text

A plain text has digits, at most a point and a sign with them, or it is one of the words for
infinity and for no number. It is never empty.
-/

namespace Viewport.Binary64

/-- A character that a plain text may have in it. -/
def IsPlain (c : Char) : Prop := c.isDigit = true ∨ c ∈ ".-infNa".toList

instance (c : Char) : Decidable (IsPlain c) := inferInstanceAs (Decidable (_ ∨ _))

theorem setPoint_ne_nil (layout : Layout) (ds : List Char) (place : Int) :
    setPoint layout ds place ≠ [] := by
  intro h
  rw [setPoint] at h
  split at h
  · exact List.cons_ne_nil _ _ h
  · rename_i hp
    split at h
    · obtain ⟨hds, -⟩ := List.append_eq_nil_iff.1 h
      obtain ⟨rfl, hz⟩ := List.append_eq_nil_iff.1 hds
      rw [List.replicate_eq_nil_iff, List.length_nil] at hz
      omega
    · exact List.cons_ne_nil _ _ (List.append_eq_nil_iff.1 h).2

/-- Setting the point adds no characters but zeros and the point itself. -/
theorem mem_setPoint {ds : List Char} {place : Int} {c : Char}
    (h : c ∈ setPoint .plain ds place) : c ∈ ds ∨ c = '0' ∨ c = '.' := by
  rw [setPoint] at h
  split at h
  · simp only [List.cons_append, List.mem_cons, List.mem_append, List.mem_replicate] at h
    rcases h with h | h | h | h
    · exact .inr (.inl h)
    · exact .inr (.inr h)
    · exact .inr (.inl h.2)
    · exact .inl h
  · split at h
    · have hwhole : Layout.plain.whole.toList = [] := rfl
      rw [hwhole, List.append_nil, List.mem_append, List.mem_replicate] at h
      exact h.imp_right fun h => .inl h.2
    · rw [List.mem_append, List.mem_cons] at h
      rcases h with h | h | h
      · exact .inl (List.mem_of_mem_take h)
      · exact .inr (.inr h)
      · exact .inl (List.mem_of_mem_drop h)

/-- A plain text has no exponent. -/
theorem exists_formatUnits_plain (n : Nat) :
    ∃ ds place, formatUnits .plain n = setPoint .plain ds place ∧
      ∀ c ∈ ds, c.isDigit = true := by
  rw [formatUnits]
  split
  · exact ⟨['0'], 1, rfl, by simp⟩
  · refine ⟨_, _, if_pos rfl, fun c hc => ?_⟩
    exact Nat.isDigit_of_mem_toDigits (by decide) (by decide) (List.mem_of_mem_take hc)

theorem format_plain_ne_nil (x : Binary64) : format .plain x ≠ [] := by
  cases x with
  | nan => simp [format]
  | infinite s => cases s <;> simp [format]
  | finite s n =>
    obtain ⟨ds, place, h, -⟩ := exists_formatUnits_plain n
    rw [format, h]
    exact List.append_ne_nil_of_right_ne_nil _ (setPoint_ne_nil _ _ _)

/-- All characters in the text of a number are those of plain numbers. -/
theorem isPlain_of_mem_format {x : Binary64} {c : Char} (h : c ∈ format .plain x) :
    IsPlain c := by
  have hnan : ∀ c ∈ "NaN".toList, IsPlain c := List.all_iff_forall_prop.1 (by decide)
  have hinf (s : Bool) : ∀ c ∈ (if s then "-inf" else "inf").toList, IsPlain c := by
    cases s <;> exact List.all_iff_forall_prop.1 (by decide)
  cases x with
  | nan => exact hnan c h
  | infinite s => exact hinf s c h
  | finite s n =>
    obtain ⟨ds, place, hset, hds⟩ := exists_formatUnits_plain n
    rw [format, hset, List.mem_append] at h
    rcases h with h | h
    · obtain rfl : c = '-' := by cases s <;> simp_all
      decide
    · rcases mem_setPoint h with h | rfl | rfl
      · exact .inl (hds c h)
      · decide
      · decide

end Viewport.Binary64
