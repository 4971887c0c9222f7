/-!
# Digits

The digits of a number system with at most sixteen of them, and the numbers they write.
-/

namespace Viewport

def digitValue? (c : Char) : Option Nat :=
  if c.isDigit then some (c.toNat - '0'.toNat)
  else if 'a' ≤ c ∧ c ≤ 'f' then some (c.toNat - 'a'.toNat + 10)
  else if 'A' ≤ c ∧ c ≤ 'F' then some (c.toNat - 'A'.toNat + 10)
  else none

def isHexDigit (c : Char) : Bool := (digitValue? c).isSome

/-- The number that digits write in a number system. -/
def valueOf (radix : Nat) (ds : List Char) : Nat :=
  ds.foldl (fun n c => radix * n + (digitValue? c).getD 0) 0

def decimalValue (ds : List Char) : Nat := valueOf 10 ds

def hexValue (ds : List Char) : Nat := valueOf 16 ds

/-- The digits at the front, and what follows them. -/
def spanDigits (cs : List Char) : List Char × List Char :=
  cs.span Char.isDigit

end Viewport
