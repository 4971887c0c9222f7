import Viewport.Binary64.Shortest
import Viewport.Length.Basic
import Viewport.Length.Rounding

/-!
# Converting lengths

A length is converted to a share of the viewport width, in hundredths, rounded half up.
-/

namespace Viewport

structure Conversion where
  width : Binary64
  /-- Lengths at or below it are left as written. -/
  threshold : Binary64
  places : UInt32
deriving DecidableEq, Repr

namespace Conversion

/-- The share of the width that a length takes, in hundredths. -/
def share (c : Conversion) (length : Binary64) : Binary64 :=
  roundPlaces (length / c.width * ((100 : Nat) : Binary64)) c.places

/-- The text a number is converted to: nothing if it does not read as a number or does not
exceed the threshold. -/
def convert? (c : Conversion) (number unit : List Char) : Option (List Char) :=
  (Binary64.read? number).bind fun length =>
    if length ≤ c.threshold then none
    else some ((c.share length).format .plain ++ unit)

/-- The converted text of a length, or the length as written. -/
def replace (c : Conversion) (target number unit : List Char) : List Char :=
  (c.convert? number target).getD (number ++ unit)

/-- Converts every length of a value. -/
def convertAll (c : Conversion) (unit target value : List Char) : List Char :=
  replaceLengths unit (c.replace target) value

end Conversion

end Viewport
