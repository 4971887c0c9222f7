import Mathlib.Data.Bool.AllAny
import Mathlib.Data.List.Chain
import Mathlib.Data.List.Pairwise
import Viewport.Text.CaseFold

/-!
# Orbits of letters

Two characters agree up to letter case exactly if one is in the orbit of the other, so for a given
character the orbit can be computed. Most ASCII characters have no letter cases but the ASCII
ones: `k` and `s` are the letters that fold with characters elsewhere.
-/

namespace Viewport

namespace FoldRun

variable {r : FoldRun} {c k : Nat}

theorem fold?_eq_some_iff :
    r.fold? c = some k ↔
      (r.first ≤ c ∧ c ≤ r.last ∧ (c - r.first) % r.step = 0) ∧ r.base + (c - r.first) = k := by
  unfold fold?
  split <;> simp_all

/-- Where a run folds a character, it finds the way back. -/
theorem source?_of_fold? (h : r.fold? c = some k) : r.source? k = some c := by
  obtain ⟨hc, rfl⟩ := fold?_eq_some_iff.1 h
  rw [source?, if_pos]
  · rw [Nat.add_sub_cancel_left, Nat.add_sub_cancel' hc.1]
  · rw [Nat.add_sub_cancel_left]
    exact ⟨Nat.le_add_right _ _, by omega, hc.2.2⟩

/-- A run folds each character that it finds the way back to. -/
theorem fold?_of_source? (hr : r.first ≤ r.last) (h : r.source? k = some c) :
    r.fold? c = some k := by
  unfold source? at h
  split at h
  · rename_i hk
    obtain rfl : r.first + (k - r.base) = c := by simpa using h
    refine fold?_eq_some_iff.2 ⟨⟨Nat.le_add_right _ _, by omega, ?_⟩, ?_⟩
    · rw [Nat.add_sub_cancel_left]
      exact hk.2.2
    · rw [Nat.add_sub_cancel_left, Nat.add_sub_cancel' hk.1]
  · contradiction

/-- Nothing that the first run folds to is folded by the second one. -/
def avoids (r s : FoldRun) : Bool :=
  s.last.blt r.base || (r.base + (r.last - r.first)).blt s.first ||
    (List.range (r.last - r.first + 1)).all fun i =>
      i % r.step != 0 || (s.fold? (r.base + i)).isNone

theorem fold?_eq_none_of_avoids {s : FoldRun} (h : r.avoids s = true) (hk : r.fold? c = some k) :
    s.fold? k = none := by
  obtain ⟨hc, rfl⟩ := fold?_eq_some_iff.1 hk
  rw [avoids, Bool.or_eq_true, Bool.or_eq_true, Nat.blt_eq, Nat.blt_eq] at h
  obtain (h | h) | h := h
  · exact if_neg (by omega)
  · exact if_neg (by omega)
  · have hi := List.all_eq_true.1 h (c - r.first) (List.mem_range.2 (by omega))
    simpa [hc.2.2] using hi

/-- The run is not empty, and no run folds what it folds to. -/
def isFinal (r : FoldRun) : Bool := r.first.ble r.last && foldRuns.all r.avoids

/-- The run ends before another one that is not empty. -/
def Precedes (r s : FoldRun) : Prop := r.last < s.first ∧ s.first ≤ s.last

instance (r s : FoldRun) : Decidable (r.Precedes s) := inferInstanceAs (Decidable (_ ∧ _))

instance : Trans Precedes Precedes Precedes where
  trans h h' := ⟨h.1.trans_le (h.2.trans h'.1.le), h'.2⟩

/-- No character is in both runs. -/
def Apart (r s : FoldRun) : Prop := r.last < s.first ∨ s.last < r.first

instance : Std.Symm Apart where
  symm _ _ := Or.symm

end FoldRun

theorem isFinal_foldRuns : foldRuns.all FoldRun.isFinal = true := by decide +kernel

/-- The runs stand in order. -/
theorem isChain_foldRuns : foldRuns.IsChain FoldRun.Precedes := by decide +kernel

section Runs

variable {r s : FoldRun} {c k l : Nat}

theorem first_le_last (hr : r ∈ foldRuns) : r.first ≤ r.last := by
  have h := List.all_eq_true.1 isFinal_foldRuns r hr
  rw [FoldRun.isFinal, Bool.and_eq_true, Nat.ble_eq] at h
  exact h.1

theorem avoids_of_mem (hr : r ∈ foldRuns) (hs : s ∈ foldRuns) : r.avoids s = true := by
  have h := List.all_eq_true.1 isFinal_foldRuns r hr
  rw [FoldRun.isFinal, Bool.and_eq_true] at h
  exact List.all_eq_true.1 h.2 s hs

/-- No character is in two runs. -/
theorem eq_of_fold? (hr : r ∈ foldRuns) (hs : s ∈ foldRuns) (hk : r.fold? c = some k)
    (hl : s.fold? c = some l) : r = s := by
  by_contra hne
  have hapart : foldRuns.Pairwise FoldRun.Apart :=
    isChain_foldRuns.pairwise.imp fun h => .inl h.1
  have hrs := hapart.forall hr hs hne
  obtain ⟨hc, -⟩ := FoldRun.fold?_eq_some_iff.1 hk
  obtain ⟨hd, -⟩ := FoldRun.fold?_eq_some_iff.1 hl
  unfold FoldRun.Apart at hrs
  omega

end Runs

section Orbit

variable {a c k : Nat}

/-- A character is folded by a run, or by none and stays. -/
theorem foldCode_cases (c : Nat) :
    (∃ r ∈ foldRuns, r.fold? c = some (foldCode c)) ∨
      (∀ r ∈ foldRuns, r.fold? c = none) ∧ foldCode c = c := by
  rw [foldCode]
  cases h : foldRuns.findSome? (·.fold? c) with
  | none => exact .inr ⟨List.findSome?_eq_none_iff.1 h, rfl⟩
  | some k => exact .inl (List.exists_of_findSome?_eq_some h)

/-- A character folds as the run says that it is in. -/
theorem foldCode_of_fold? {r : FoldRun} (hr : r ∈ foldRuns) (h : r.fold? c = some k) :
    foldCode c = k := by
  obtain ⟨s, hs, hc⟩ | ⟨hnone, -⟩ := foldCode_cases c
  · obtain rfl := eq_of_fold? hr hs h hc
    exact Option.some.inj (hc.symm.trans h)
  · rw [hnone r hr] at h
    contradiction

/-- What a character folds to folds to itself. -/
theorem foldCode_foldCode (c : Nat) : foldCode (foldCode c) = foldCode c := by
  obtain ⟨r, hr, hc⟩ | ⟨-, hc⟩ := foldCode_cases c
  · obtain ⟨s, hs, hk⟩ | ⟨-, hk⟩ := foldCode_cases (foldCode c)
    · have hnone := FoldRun.fold?_eq_none_of_avoids (avoids_of_mem hr hs) hc
      rw [hk] at hnone
      contradiction
    · exact hk
  · rw [hc, hc]

/-- The characters of an orbit are those that fold to one. -/
theorem mem_foldOrbit_iff : c ∈ foldOrbit a ↔ foldCode c = foldCode a := by
  rw [foldOrbit, List.mem_cons, List.mem_filterMap]
  constructor
  · rintro (rfl | ⟨r, hr, h⟩)
    · exact foldCode_foldCode a
    · exact foldCode_of_fold? hr (FoldRun.fold?_of_source? (first_le_last hr) h)
  · intro h
    rw [← h]
    obtain ⟨r, hr, hc⟩ | ⟨-, hc⟩ := foldCode_cases c
    · exact .inr ⟨r, hr, FoldRun.source?_of_fold? hc⟩
    · exact .inl hc.symm

end Orbit

/-- Characters agree up to letter case if they have one orbit. -/
theorem sameFold_iff_foldCode_eq {c d : Char} :
    sameFold c d = true ↔ foldCode c.toNat = foldCode d.toNat := by
  rw [sameFold, Bool.or_eq_true, beq_iff_eq, beq_iff_eq]
  constructor
  · rintro (rfl | h)
    · rfl
    · exact h
  · exact .inr

/-- Folding together goes both ways. -/
theorem sameFold_comm (c d : Char) : sameFold c d = sameFold d c := by
  rw [Bool.eq_iff_iff, sameFold_iff_foldCode_eq, sameFold_iff_foldCode_eq, eq_comm]

theorem mem_foldOrbit_of_sameFold {a c : Char} (h : sameFold a c = true) :
    c.toNat ∈ foldOrbit a.toNat :=
  mem_foldOrbit_iff.2 (sameFold_iff_foldCode_eq.1 h).symm

/-- Of a character and its lower case holds what holds of each ASCII capital and its small letter
and of each character and itself. -/
theorem toLower_cases {P : Char → Char → Prop}
    (hcapital : ∀ n : Fin 26, P (Char.ofNat (65 + n)) (Char.ofNat (65 + n)).toLower)
    (hsame : ∀ c, P c c) (c : Char) : P c c.toLower := by
  by_cases hc : 65 ≤ c.toNat ∧ c.toNat ≤ 90
  · have h := hcapital ⟨c.toNat - 65, by omega⟩
    rwa [Nat.add_sub_cancel' hc.1, Char.ofNat_toNat] at h
  · have h : c.toLower = c := dif_neg hc
    rw [h]
    exact hsame c

theorem foldCode_toLower (c : Char) : foldCode c.toLower.toNat = foldCode c.toNat :=
  toLower_cases (P := fun c l => foldCode l.toNat = foldCode c.toNat) (by decide) (fun _ => rfl) c

/-- An ASCII letter folds with its lower case. -/
theorem sameFold_toLower (c : Char) : sameFold c.toLower c = true :=
  sameFold_iff_foldCode_eq.2 (foldCode_toLower c)

/-- A character in lower case that has no letter cases but the ASCII ones. -/
def FoldsInAscii (b : Char) : Prop := ∀ n ∈ foldOrbit b.toNat, (Char.ofNat n).toLower = b

instance (b : Char) : Decidable (FoldsInAscii b) := inferInstanceAs (Decidable (∀ _ ∈ _, _))

/-- With a letter that has the ASCII cases only, those two fold and nothing else does. -/
theorem FoldsInAscii.sameFold_iff {b c : Char} (h : FoldsInAscii b) :
    sameFold b c = true ↔ c.toLower = b := by
  constructor
  · intro hc
    rw [← h _ (mem_foldOrbit_of_sameFold hc), Char.ofNat_toNat]
  · rintro rfl
    exact sameFold_toLower c

/-- A character without letter cases. -/
def IsCaseless (b : Char) : Prop := foldOrbit b.toNat = [b.toNat]

instance (b : Char) : Decidable (IsCaseless b) := inferInstanceAs (Decidable (_ = _))

/-- With a character without letter cases nothing else folds. -/
theorem IsCaseless.sameFold_iff {b c : Char} (h : IsCaseless b) : sameFold b c = true ↔ c = b := by
  constructor
  · intro hc
    have hmem := mem_foldOrbit_of_sameFold hc
    rw [h, List.mem_singleton] at hmem
    exact Char.toNat_inj.1 hmem
  · rintro rfl
    exact sameFold_iff_foldCode_eq.2 rfl

theorem sameFold_u_iff {c : Char} : sameFold 'u' c = true ↔ c = 'u' ∨ c = 'U' := by
  constructor
  · intro hc
    have hmem : c.toNat ∈ ['U'.toNat, 'u'.toNat] := mem_foldOrbit_of_sameFold hc
    simp only [List.mem_cons, List.not_mem_nil, or_false, Char.toNat_inj] at hmem
    exact hmem.symm
  · rintro (rfl | rfl) <;> decide

theorem foldsInAscii_url : ∀ b ∈ "url(".toList, FoldsInAscii b :=
  List.all_iff_forall_prop.1 (by decide)

theorem foldsInAscii_px : ∀ b ∈ "px".toList, FoldsInAscii b :=
  List.all_iff_forall_prop.1 (by decide)

end Viewport
