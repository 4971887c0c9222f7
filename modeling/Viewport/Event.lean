import Viewport.Json.Value

/-!
# Events

What a run has to tell, in the order it happens.
-/

namespace Viewport

/-- Why a declaration is not converted. -/
inductive SkipReason where
  | noSourceUnit
  | disabledByComment
  | selectorBlacklisted
  | propertyBlacklisted
deriving DecidableEq, Repr

def SkipReason.name : SkipReason → String
  | .noSourceUnit => "NoSourceUnit"
  | .disabledByComment => "DisabledByComment"
  | .selectorBlacklisted => "SelectorBlacklisted"
  | .propertyBlacklisted => "PropertyBlacklisted"

inductive Event where
  | malformedOption (value : Json.Value) (problem : Json.Error)
  | widthNotPositive (width : Binary64)
  | precisionTooLarge (precision : UInt32)
  | thresholdNotFinite (threshold : Binary64)
  | converted (property before after : String)
  | skipped (property : String) (reason : SkipReason)
  | mediaConverted (before after : String)
  | finished (converted : Nat)
deriving Repr

inductive Level where
  | warn
  | debug
  | trace
deriving DecidableEq, Repr

def Level.name : Level → String
  | .warn => "WARN"
  | .debug => "DEBUG"
  | .trace => "TRACE"

namespace Event

def level : Event → Level
  | .malformedOption _ _ | .widthNotPositive _ | .precisionTooLarge _ | .thresholdNotFinite _ =>
    .warn
  | .converted _ _ _ | .skipped _ _ | .finished _ => .debug
  | .mediaConverted _ _ => .trace

def message : Event → String
  | .malformedOption _ _ => "malformed option, using default"
  | .widthNotPositive _ => "viewportWidth must be a positive number, using default"
  | .precisionTooLarge _ => "precision out of range, using default"
  | .thresholdNotFinite _ => "minPixelValue must be finite, using default"
  | .converted _ _ _ => "converted"
  | .skipped _ _ => "skipped"
  | .mediaConverted _ _ => "media params"
  | .finished _ => "transform done"

end Event

end Viewport
