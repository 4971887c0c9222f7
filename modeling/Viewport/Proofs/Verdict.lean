import Viewport.Verdict
import Mathlib.Tactic.SplitIfs

/-!
# When a declaration is converted

The checks of a verdict come in a fixed order. Here each part of the verdict is said as one
condition, from which it is seen what the verdict depends on.
-/

namespace Viewport

namespace Config

variable {c : Config} {d : Candidate}

/-- A declaration is converted if its value has the source unit in it, its selector is not
blacklisted, and it is enabled, or neither disabled nor blacklisted by its property. -/
theorem action_verdict_eq_convert_iff :
    (c.verdict d).action = .convert ↔
      c.mentionsUnit d.value = true ∧ d.selector.any c.selectorBlacklist.covers = false ∧
        (d.comment.bind c.directive? = some .enable ∨
          d.comment.bind c.directive? = none ∧ c.propertyBlacklist.covers d.property = false) := by
  rw [verdict]
  cases hdir : d.comment.bind c.directive? with
  | none => split_ifs <;> simp_all
  | some directive => cases directive <;> split_ifs <;> simp_all

/-- A comment is used up if it disables, or if it enables what it can. -/
theorem consumesComment_verdict_iff :
    (c.verdict d).consumesComment = true ↔
      d.comment.bind c.directive? = some .disable ∨
        d.comment.bind c.directive? = some .enable ∧ c.mentionsUnit d.value = true ∧
          d.selector.any c.selectorBlacklist.covers = false := by
  rw [verdict]
  cases hdir : d.comment.bind c.directive? with
  | none => split_ifs <;> simp_all
  | some directive => cases directive <;> split_ifs <;> simp_all

/-- A comment that is used up is there, and directs. -/
theorem directive?_of_consumesComment (h : (c.verdict d).consumesComment = true) :
    (d.comment.bind c.directive?).isSome = true := by
  rcases consumesComment_verdict_iff.1 h with hdir | ⟨hdir, -⟩ <;> rw [hdir] <;> rfl

theorem consumesComment_of_comment_eq_none (h : d.comment = none) :
    (c.verdict d).consumesComment = false := by
  rw [Bool.eq_false_iff]
  intro hc
  simpa [h] using directive?_of_consumesComment hc

theorem directive?_eq_none {t : String} (h : ¬(t = c.enableComment ∨ t = c.disableComment)) :
    c.directive? t = none := by
  rw [directive?, if_neg fun hdis => h (.inr hdis), if_neg fun hen => h (.inl hen)]

/-- A comment that does not direct is as none. -/
theorem verdict_of_directive?_eq_none (h : d.comment.bind c.directive? = none) :
    c.verdict d = c.verdict { d with comment := none } := by
  rw [verdict, verdict, h]
  rfl

/-- A selector counts only as far as it is blacklisted. -/
theorem verdict_congr_selector {selector : Option String}
    (h : d.selector.any c.selectorBlacklist.covers = selector.any c.selectorBlacklist.covers) :
    c.verdict d = c.verdict { d with selector } := by
  rw [verdict, verdict, h]

end Config

end Viewport
