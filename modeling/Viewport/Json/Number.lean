import Viewport.Binary64.Basic
import Viewport.Text.Digits

/-!
# JSON numbers

A number without a point and an exponent is an integer if it fits 64 bits. Any other is computed
from the digits that fit 64 bits and a power of ten, with a rounding at each step.
-/

namespace Viewport.Json

inductive Number where
  | integer (i : Int)
  | float (x : Binary64)
deriving DecidableEq, Repr

/-- The parts of a written number. -/
structure Numeral where
  negative : Bool
  whole : List Char
  fraction : List Char
  /-- Whether the exponent is negative, and its digits. -/
  exponent : Option (Bool × List Char)
deriving DecidableEq, Repr

namespace Numeral

/-- Appends digits to a number as long as it fits 64 bits: the number, and how many digits went
in. -/
def accumulate (n : Nat) : List Char → Nat × Nat
  | [] => (n, 0)
  | c :: cs =>
    let next := 10 * n + (digitValue? c).getD 0
    if next < UInt64.size then
      let (n, taken) := accumulate next cs
      (n, taken + 1)
    else (n, 0)

def powerOfTen (e : Nat) : Binary64 := .ofNat (Nat.pow 10 e)

/-- Divides by a power of ten, by `10 ^ 308` at a time. -/
def divPow (x : Binary64) (e : Nat) : Binary64 :=
  if e ≤ 308 then x / powerOfTen e
  else if x = .zero then x
  else divPow (x / powerOfTen 308) (e - 308)
termination_by e
decreasing_by omega

/-- A number times a power of ten, unless it is too large. -/
def scale? (n : Nat) (e : Int) : Option Binary64 :=
  let x := Binary64.ofNat n
  if e < 0 then some (divPow x (-e).toNat)
  else if 308 < e then if n = 0 then some x else none
  else
    let y := x * powerOfTen e.toNat
    if y.isFinite then some y else none

def signed (negative : Bool) (x : Binary64) : Binary64 := if negative then -x else x

/-- The value of an exponent, unless it is too large. -/
def exponentValue? (digits : List Char) : Option Nat :=
  let e := decimalValue digits
  if e < UInt32.size / 2 then some e else none

/-- The value of a numeral, unless it is too large. -/
def value? (n : Numeral) : Option Number :=
  let (digits, taken) := accumulate 0 n.whole
  let dropped := n.whole.length - taken
  if n.fraction = [] ∧ n.exponent = none ∧ dropped = 0 then
    if !n.negative then some (.integer digits)
    else if 0 < digits ∧ digits ≤ UInt64.size / 2 then some (.integer (-digits))
    else some (.float (-Binary64.ofNat digits))
  else
    let (digits, places) := accumulate digits n.fraction
    let e : Int := dropped - places
    let result := match n.exponent with
      | none => scale? digits e
      | some (below, ds) =>
        match exponentValue? ds with
        | some power => scale? digits (if below then e - power else e + power)
        | none => if below ∨ digits = 0 then some .zero else none
    result.map fun x => .float (signed n.negative x)

end Numeral

end Viewport.Json
