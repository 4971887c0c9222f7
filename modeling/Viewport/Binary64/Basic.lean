/-!
# Binary floating-point numbers

The 64-bit numbers that lengths are computed with. A finite number is counted in units of
`2 ^ (-1074)`, the finest step of the format, so that every operation is an exact fraction
which is rounded once: to the nearest number of the format, a tie to the even one.
-/

namespace Viewport

/-- A number is a sign and a count of units of `2 ^ (-1074)`; zero has both signs. -/
inductive Binary64 where
  | nan
  | infinite (negative : Bool)
  | finite (negative : Bool) (units : Nat)
deriving DecidableEq, Repr, Inhabited

/-- The nearest whole number to `num / den`, a tie going to the even one. -/
def roundHalfEven (num den : Nat) : Nat :=
  let q := num / den
  let r := num % den
  if 2 * r < den then q
  else if den < 2 * r then q + 1
  else if q % 2 = 0 then q else q + 1

namespace Binary64

/-- The number one, in units. -/
def one : Nat := Nat.pow 2 1074

/-- The least count of units that is too large for a finite number. -/
def limit : Nat := Nat.pow 2 2098

/-- The distance of neighbouring numbers from `n` units on: 53 binary digits are kept. -/
def spacing (n : Nat) : Nat := Nat.pow 2 (n.log2 - 52)

/-- The fraction `num / den` of a unit, rounded to the format without a bound on its size. -/
def roundUnits (num den : Nat) : Nat :=
  let s := spacing (num / den)
  roundHalfEven num (den * s) * s

/-- The number nearest to the fraction `num / den` of a unit. -/
def ofFraction (negative : Bool) (num den : Nat) : Binary64 :=
  let n := roundUnits num den
  if n < limit then .finite negative n else .infinite negative

def ofNat (n : Nat) : Binary64 := ofFraction false (n * one) 1

def ofInt (i : Int) : Binary64 := ofFraction (i < 0) (i.natAbs * one) 1

def zero : Binary64 := .finite false 0

def isFinite : Binary64 → Bool
  | .finite _ _ => true
  | _ => false

/-- A number other than zero, above it. -/
def isPositive : Binary64 → Bool
  | .nan => false
  | .infinite s => !s
  | .finite s n => !s && n != 0

def neg : Binary64 → Binary64
  | .nan => .nan
  | .infinite s => .infinite !s
  | .finite s n => .finite (!s) n

def mul : Binary64 → Binary64 → Binary64
  | .nan, _ | _, .nan => .nan
  | .infinite s, .infinite t => .infinite (s != t)
  | .infinite s, .finite t n | .finite s n, .infinite t =>
    if n = 0 then .nan else .infinite (s != t)
  | .finite s m, .finite t n => ofFraction (s != t) (m * n) one

def div : Binary64 → Binary64 → Binary64
  | .nan, _ | _, .nan => .nan
  | .infinite _, .infinite _ => .nan
  | .infinite s, .finite t _ => .infinite (s != t)
  | .finite s _, .infinite t => .finite (s != t) 0
  | .finite s m, .finite t n =>
    if n ≠ 0 then ofFraction (s != t) (m * one) n
    else if m = 0 then .nan else .infinite (s != t)

/-- A sum of opposite numbers is the positive zero. -/
def add : Binary64 → Binary64 → Binary64
  | .nan, _ | _, .nan => .nan
  | .infinite s, .infinite t => if s = t then .infinite s else .nan
  | .infinite s, .finite _ _ | .finite _ _, .infinite s => .infinite s
  | .finite s m, .finite t n =>
    if s = t then ofFraction s (m + n) 1
    else if n < m then ofFraction s (m - n) 1
    else if m < n then ofFraction t (n - m) 1
    else zero

/-- The largest whole number that is not above. -/
def floor : Binary64 → Binary64
  | .finite false n => .finite false (n / one * one)
  | .finite true n => .finite true ((n + (one - 1)) / one * one)
  | x => x

/-- The units as a signed number. -/
def signedUnits (negative : Bool) (n : Nat) : Int :=
  if negative then -n else n

/-- The order of the numbers; `nan` is not comparable. -/
def le : Binary64 → Binary64 → Bool
  | .nan, _ | _, .nan => false
  | .infinite true, _ | _, .infinite false => true
  | .infinite false, _ | _, .infinite true => false
  | .finite s m, .finite t n => signedUnits s m ≤ signedUnits t n

instance : Neg Binary64 := ⟨neg⟩
instance : Mul Binary64 := ⟨mul⟩
instance : Div Binary64 := ⟨div⟩
instance : Add Binary64 := ⟨add⟩
instance : NatCast Binary64 := ⟨ofNat⟩
instance : LE Binary64 := ⟨fun x y => x.le y = true⟩
instance (x y : Binary64) : Decidable (x ≤ y) := inferInstanceAs (Decidable (x.le y = true))

end Binary64

end Viewport
