import Viewport.Binary64.Basic

/-!
# Rounding to decimal places

A number is rounded half up to a number of places. The rule is stated for any number system
with a whole part, so that it means the same over the fractions as over the 64-bit numbers. The
power of ten that a number is scaled by is computed in the same system, by repeated squaring.
-/

namespace Viewport

/-- A number system with the operations that rounding needs. -/
class Arithmetic (α : Type) extends Add α, Mul α, Div α, NatCast α where
  floor : α → α

instance : Arithmetic Binary64 where
  floor := Binary64.floor

variable {α : Type} [Arithmetic α]

/-- A power of a number, times what the lower digits of the exponent have come to: the exponent is
taken apart from its last binary digit on, and there are no more than so many. -/
def powerFrom (acc base : α) : (digits exponent : Nat) → α
  | 0, _ => acc
  | digits + 1, exponent =>
    let acc := if exponent % 2 = 1 then acc * base else acc
    let rest := exponent / 2
    if rest = 0 then acc else powerFrom acc (base * base) digits rest

/-- A whole power of a number; a negative one is the reciprocal of a power. -/
def wholePower (base : α) (exponent : Int32) : α :=
  let one : α := ((1 : Nat) : α)
  let power := powerFrom one base 32 exponent.toInt.natAbs
  if exponent < 0 then one / power else power

/-- The power of ten for so many places and one more. The exponent is signed and of 32 bits like the
count, so it wraps around where there are too many. -/
def placesScale (places : UInt32) : α := wholePower ((10 : Nat) : α) (places.toInt32 + 1)

/-- Rounds half up to `places` decimal places: the digits after one extra place are dropped
first, and then that place is rounded away. -/
def roundPlaces (x : α) (places : UInt32) : α :=
  let ten : α := ((10 : Nat) : α)
  let half : α := ((1 : Nat) : α) / ((2 : Nat) : α)
  let scale : α := placesScale places
  let cut := Arithmetic.floor (x * scale)
  Arithmetic.floor (cut / ten + half) * ten / scale

end Viewport
