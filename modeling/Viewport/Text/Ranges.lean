import Viewport.Text.Digits

/-!
# Sets of code points by their bounds

A set is kept as the increasing list of the code points where it begins and ends, so that a
code point belongs to it when an odd number of bounds is at or below it.
-/

namespace Viewport

/-- How many of the increasing numbers between the places `lo` and `hi` are at most `c`, plus
`lo`. -/
def countBetween (a : Array Nat) (c lo hi : Nat) : Nat :=
  if h : lo < hi then
    let mid := (lo + hi) / 2
    if a.getD mid 0 ≤ c then countBetween a c (mid + 1) hi else countBetween a c lo mid
  else lo
termination_by hi - lo
decreasing_by all_goals omega

/-- How many of the increasing numbers are at most `c`. -/
def countUpTo (a : Array Nat) (c : Nat) : Nat :=
  countBetween a c 0 a.size

/-- The parts of a text between its blanks and ends of lines. -/
def words (text : String) : List String :=
  (text.splitToList Char.isWhitespace).filter (!·.isEmpty)

structure Ranges where
  bounds : Array Nat
deriving DecidableEq, Repr

namespace Ranges

def contains (r : Ranges) (c : Nat) : Bool :=
  countUpTo r.bounds c % 2 == 1

/-- The bounds of one range: a first and a last code point, or a single one. -/
def readRange (text : String) : List Nat :=
  match text.splitOn "-" with
  | [a, b] => [hexValue a.toList, hexValue b.toList + 1]
  | _ => [hexValue text.toList, hexValue text.toList + 1]

/-- Reads increasing ranges of hexadecimal code points with blanks between them. -/
def read (text : String) : Ranges :=
  ⟨((words text).flatMap readRange).toArray⟩

end Ranges

end Viewport
