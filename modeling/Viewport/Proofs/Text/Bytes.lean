import Mathlib.Data.List.Basic
import Viewport.Text.Bytes

/-!
# Places in a text

A cut succeeds exactly at the ends of characters, and a slice is the text that stands between
two of them.
-/

namespace Viewport

theorem byteSize_append (s t : List Char) : byteSize (s ++ t) = byteSize s + byteSize t := by
  induction s with
  | nil => exact (Nat.zero_add _).symm
  | cons c s ih => rw [List.cons_append, byteSize, byteSize, ih, Nat.add_assoc]

/-- Every character takes a byte at least. -/
theorem byteSize_pos {t : List Char} (h : t ≠ []) : 0 < byteSize t := by
  obtain ⟨c, t, rfl⟩ := List.exists_cons_of_ne_nil h
  exact Nat.add_pos_left c.utf8Size_pos _

/-- A text can be cut where a first part of it ends. -/
theorem splitBytes?_append (s t : List Char) : splitBytes? (byteSize s) (s ++ t) = some (s, t) := by
  induction s with
  | nil => rw [byteSize, List.nil_append, splitBytes?]
  | cons c s ih =>
    obtain ⟨n, hn⟩ := Nat.exists_eq_add_one.2 (Nat.add_pos_left c.utf8Size_pos (byteSize s))
    have hle : c.utf8Size ≤ n + 1 := hn ▸ Nat.le_add_right _ _
    have hrest : n + 1 - c.utf8Size = byteSize s := by rw [← hn, Nat.add_sub_cancel_left]
    rw [byteSize, hn, List.cons_append, splitBytes?, if_pos hle, hrest, ih, Option.map_some]

/-- A text is cut into two parts that make it up, the first of the size asked for. -/
theorem splitBytes?_eq_some_iff {n : Nat} {text s t : List Char} :
    splitBytes? n text = some (s, t) ↔ text = s ++ t ∧ byteSize s = n := by
  constructor
  · intro h
    fun_induction splitBytes? n text generalizing s t with
    | case1 cs =>
      obtain ⟨rfl, rfl⟩ := Prod.mk.inj (Option.some.inj h)
      exact ⟨rfl, rfl⟩
    | case2 n => cases h
    | case3 n c cs hc ih =>
      obtain ⟨⟨s, t⟩, hsplit, hst⟩ := Option.map_eq_some_iff.1 h
      obtain ⟨rfl, rfl⟩ := Prod.mk.inj hst
      obtain ⟨rfl, hs⟩ := ih hsplit
      exact ⟨rfl, by rw [byteSize, hs, Nat.add_sub_cancel' hc]⟩
    | case4 n c cs hc => cases h
  · rintro ⟨rfl, rfl⟩
    exact splitBytes?_append s t

/-- A slice stands between two parts of the text, and both its ends are ends of characters. -/
theorem slice?_eq_some_iff {start stop : Nat} {text t : List Char} :
    slice? start stop text = some t ↔
      ∃ s rest, text = s ++ (t ++ rest) ∧ byteSize s = start ∧ start + byteSize t = stop := by
  constructor
  · intro h
    rw [slice?] at h
    split at h
    · rename_i hle
      obtain ⟨⟨s, u⟩, hu, h⟩ := Option.bind_eq_some_iff.1 h
      obtain ⟨⟨t, rest⟩, ht, rfl⟩ := Option.map_eq_some_iff.1 h
      obtain ⟨rfl, hs⟩ := splitBytes?_eq_some_iff.1 hu
      obtain ⟨rfl, hsize⟩ := splitBytes?_eq_some_iff.1 ht
      exact ⟨s, rest, rfl, hs, by rw [hsize, Nat.add_sub_cancel' hle]⟩
    · cases h
  · rintro ⟨s, rest, rfl, rfl, rfl⟩
    rw [slice?, if_pos (Nat.le_add_right _ _), splitBytes?_append, Nat.add_sub_cancel_left]
    exact congrArg (Option.map (·.1)) (splitBytes?_append t rest)

end Viewport
