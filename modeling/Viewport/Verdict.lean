import Viewport.Config.Basic

/-!
# Verdicts

Whether a declaration is converted, and whether the comment after it is used up. A comment that
is the disable or the enable string directs the declaration before it.
-/

namespace Viewport

inductive Directive where
  | enable
  | disable
deriving DecidableEq, Repr

inductive Action where
  | convert
  | skip (reason : SkipReason)
deriving DecidableEq, Repr

structure Verdict where
  action : Action
  /-- The comment after the declaration is used up. -/
  consumesComment : Bool
deriving DecidableEq, Repr

/-- What a verdict looks at. -/
structure Candidate where
  property : String
  value : String
  /-- The selector of the rule that directly holds the declaration. -/
  selector : Option String
  /-- The text of the comment right after the declaration. -/
  comment : Option String
deriving DecidableEq, Repr

namespace Config

/-- What a comment directs. Where both strings are the same it disables. -/
def directive? (c : Config) (comment : String) : Option Directive :=
  if comment = c.disableComment then some .disable
  else if comment = c.enableComment then some .enable
  else none

/-- A value without the source unit is skipped, though a disabling comment is used up with it.
Then a disabling comment, a blacklisted selector, an enabling comment and a blacklisted property
decide, in this order. -/
def verdict (c : Config) (d : Candidate) : Verdict :=
  let directive := d.comment.bind c.directive?
  if !c.mentionsUnit d.value then ⟨.skip .noSourceUnit, directive = some .disable⟩
  else if directive = some .disable then ⟨.skip .disabledByComment, true⟩
  else if d.selector.any c.selectorBlacklist.covers then ⟨.skip .selectorBlacklisted, false⟩
  else if directive = some .enable then ⟨.convert, true⟩
  else if c.propertyBlacklist.covers d.property then ⟨.skip .propertyBlacklisted, false⟩
  else ⟨.convert, false⟩

end Config

end Viewport
