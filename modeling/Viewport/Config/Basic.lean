import Viewport.Blacklist
import Viewport.Event
import Viewport.Length.Conversion

/-!
# Configuration

What a run needs to know, and what is used where nothing is said.
-/

namespace Viewport

structure Config where
  sourceUnit : String := "px"
  viewportWidth : Binary64 := .ofNat 750
  viewportUnit : String := "vmin"
  precision : UInt32 := 5
  fontViewportUnit : String := "vw"
  propertyBlacklist : Blacklist := .empty
  selectorBlacklist : Blacklist := .empty
  /-- Lengths at or below it are left as written. -/
  minPixelValue : Binary64 := .ofNat 1
  enableComment : String := "on"
  disableComment : String := "off"
  convertMediaQueries : Bool := false
deriving DecidableEq, Repr

/-- The largest precision that is accepted. -/
def maxPrecision : UInt32 := 15

/-- The name of the stage in a pipeline. -/
def stageName : String := "postcss-pixel-to-viewport"

/-- The option that a pattern comes from. -/
inductive PatternSource where
  | sourceUnit
  | propertyBlacklist
  | selectorBlacklist
deriving DecidableEq, Repr

def PatternSource.text : PatternSource → String
  | .sourceUnit => "sourceUnit"
  | .propertyBlacklist => "propertyBlacklist"
  | .selectorBlacklist => "selectorBlacklist"

/-- Why there is no configuration. -/
inductive ConfigError where
  | emptySourceUnit
  | invalidPattern (source : PatternSource) (pattern : String) (error : Pattern.Error)
  | json (e : Json.Error)
deriving DecidableEq, Repr

def ConfigError.message : ConfigError → String
  | .emptySourceUnit => "Config error: source unit must not be empty"
  | .invalidPattern source pattern e =>
    "Config error: invalid " ++ source.text ++ " pattern '" ++ pattern ++ "': error: " ++ e.message
  | .json e => "Config error: " ++ e.message

/-- Reads the entries of a blacklist. -/
def Blacklist.read (source : PatternSource) (specs : List EntrySpec) :
    Except ConfigError Blacklist :=
  match Blacklist.ofSpecs specs with
  | .ok b => .ok b
  | .error (pattern, e) => .error (.invalidPattern source pattern e)

namespace Config

/-- Font properties have a unit of their own. -/
def unitFor (c : Config) (property : String) : String :=
  if contains "font".toList property.toList then c.fontViewportUnit else c.viewportUnit

def conversion (c : Config) : Conversion := ⟨c.viewportWidth, c.minPixelValue, c.precision⟩

/-- Whether a text has the source unit in it, in this letter case. -/
def mentionsUnit (c : Config) (text : String) : Bool :=
  contains c.sourceUnit.toList text.toList

end Config

end Viewport
