import Viewport.Config.Basic

/-!
# Options

What a caller asks for. Options are merged over the defaults; a number out of range falls back
to its default with a warning.
-/

namespace Viewport

structure Options where
  sourceUnit : Option String := none
  viewportWidth : Option Binary64 := none
  viewportUnit : Option String := none
  precision : Option UInt32 := none
  fontViewportUnit : Option String := none
  propertyBlacklist : Option (List EntrySpec) := none
  selectorBlacklist : Option (List EntrySpec) := none
  minPixelValue : Option Binary64 := none
  enableComment : Option String := none
  disableComment : Option String := none
  convertMediaQueries : Option Bool := none
deriving DecidableEq, Repr

/-- Keeps a value that is admissible, and drops another one with a warning. -/
def keepIf {α : Type} (admissible : α → Bool) (warning : α → Event) :
    Option α → Option α × List Event
  | none => (none, [])
  | some a => if admissible a then (some a, []) else (none, [warning a])

namespace Options

def admissibleWidth (x : Binary64) : Bool := x.isFinite && x.isPositive

/-- The options without the numbers that are out of range, and a warning for each of those. -/
def screened (o : Options) : Options × List Event :=
  let (width, w) := keepIf admissibleWidth .widthNotPositive o.viewportWidth
  let (precision, p) := keepIf (· ≤ maxPrecision) .precisionTooLarge o.precision
  let (least, m) := keepIf Binary64.isFinite .thresholdNotFinite o.minPixelValue
  ({ o with viewportWidth := width, precision := precision, minPixelValue := least }, w ++ p ++ m)

/-- The default configuration with the options that are given in their places, as they are. -/
def assigned (o : Options) : Except ConfigError Config := do
  let d : Config := {}
  return {
    sourceUnit := o.sourceUnit.getD d.sourceUnit
    viewportWidth := o.viewportWidth.getD d.viewportWidth
    viewportUnit := o.viewportUnit.getD d.viewportUnit
    precision := o.precision.getD d.precision
    fontViewportUnit := o.fontViewportUnit.getD d.fontViewportUnit
    propertyBlacklist := ← Blacklist.read .propertyBlacklist (o.propertyBlacklist.getD [])
    selectorBlacklist := ← Blacklist.read .selectorBlacklist (o.selectorBlacklist.getD [])
    minPixelValue := o.minPixelValue.getD d.minPixelValue
    enableComment := o.enableComment.getD d.enableComment
    disableComment := o.disableComment.getD d.disableComment
    convertMediaQueries := o.convertMediaQueries.getD d.convertMediaQueries }

end Options

/-- The configuration for options, with the warnings on the way to it. -/
def Config.resolve (o : Options) : Except ConfigError Config × List Event :=
  if o.sourceUnit = some "" then (.error .emptySourceUnit, [])
  else
    let (screened, log) := o.screened
    (screened.assigned, log)

end Viewport
