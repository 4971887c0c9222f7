import Viewport.Binary64.Decimal

/-!
# Shortest decimal text

A number is written with the fewest decimal digits that read back as it, and among those with
the nearest ones. A `Layout` says how the digits are set.
-/

namespace Viewport

/-- Which of two equally near decimals is written. -/
inductive Tie where
  | up
  | even
deriving DecidableEq, Repr

namespace Binary64

/-- The place of the first digit of `n` units: `10 ^ (p - 1) ≤ n * 2 ^ (-1074) < 10 ^ p`. -/
def firstPlace (n : Nat) : Int :=
  (Nat.toDigits 10 (n * Nat.pow 10 340 / one)).length - 340

/-- The fraction `n * 2 ^ (-1074) / 10 ^ e`, as numerator and denominator. -/
def scaled (n : Nat) (e : Int) : Nat × Nat :=
  if 0 ≤ e then (n, one * Nat.pow 10 e.toNat) else (n * Nat.pow 10 (-e).toNat, one)

/-- The units of the number a positive decimal reads as. -/
def unitsOf (d : Decimal) : Nat :=
  if 0 ≤ d.exponent then roundUnits (d.digits * Nat.pow 10 d.exponent.toNat * one) 1
  else roundUnits (d.digits * one) (Nat.pow 10 (-d.exponent).toNat)

/-- Of the two decimals with unit `10 ^ e` around `n` units, the nearest that reads back. -/
def nearestAt? (tie : Tie) (n : Nat) (e : Int) : Option Decimal :=
  let (num, den) := scaled n e
  let below : Decimal := ⟨num / den, e⟩
  let above : Decimal := ⟨num / den + 1, e⟩
  let r := num % den
  match unitsOf below == n, unitsOf above == n with
  | false, false => none
  | true, false => some below
  | false, true => some above
  | true, true =>
    if 2 * r < den then some below
    else if den < 2 * r then some above
    else if tie = .even ∧ below.digits % 2 = 0 then some below
    else some above

/-- The shortest decimal that reads back as `n` units; 17 digits are always enough. -/
def shortest (tie : Tie) (n : Nat) : Decimal :=
  let place := firstPlace n
  let found := (List.range 17).findSome? fun k : Nat => nearestAt? tie n (place - (k + 1))
  found.getD ⟨(scaled n (place - 17)).1 / (scaled n (place - 17)).2, place - 17⟩

/-- How the digits of a number are set. -/
structure Layout where
  tie : Tie
  /-- Numbers below `10 ^ lowest` are written with an exponent. -/
  lowest : Option Int
  /-- Numbers from `10 ^ highest` on are written with an exponent. -/
  highest : Option Int
  /-- What follows a whole number that has no exponent. -/
  whole : String

def trailingZeros (ds : List Char) : Nat :=
  (ds.reverse.takeWhile (· == '0')).length

/-- Digits set with a point after the first `place` of them. -/
def setPoint (layout : Layout) (ds : List Char) (place : Int) : List Char :=
  if place ≤ 0 then '0' :: '.' :: List.replicate (-place).toNat '0' ++ ds
  else if ds.length ≤ place then
    ds ++ List.replicate (place.toNat - ds.length) '0' ++ layout.whole.toList
  else ds.take place.toNat ++ '.' :: ds.drop place.toNat

/-- Digits set with a point after the first of them and a signed power of ten. -/
def setExponent (ds : List Char) (place : Int) : List Char :=
  let power := place - 1
  let point := if ds.length ≤ 1 then ds else ds.take 1 ++ '.' :: ds.drop 1
  let sign := if power < 0 then '-' else '+'
  point ++ 'e' :: sign :: Nat.toDigits 10 power.natAbs

/-- The text of a finite number without its sign. -/
def formatUnits (layout : Layout) (n : Nat) : List Char :=
  if n = 0 then setPoint layout ['0'] 1
  else
    let d := shortest layout.tie n
    let ds := Nat.toDigits 10 d.digits
    let place := ds.length + d.exponent
    let ds := ds.take (ds.length - trailingZeros ds)
    if layout.lowest.all (· < place) && layout.highest.all (place ≤ ·) then
      setPoint layout ds place
    else setExponent ds place

def format (layout : Layout) : Binary64 → List Char
  | .nan => "NaN".toList
  | .infinite s => (if s then "-inf" else "inf").toList
  | .finite s n => (if s then ['-'] else []) ++ formatUnits layout n

/-- The layout of lengths: never an exponent, no point in a whole number. -/
def Layout.plain : Layout := ⟨.up, none, none, ""⟩

/-- The plain decimal text of a number. -/
def plain (x : Binary64) : String := String.ofList (format .plain x)

end Binary64

end Viewport
