import Viewport.Binary64.Basic
import Viewport.Text.Digits

/-!
# Decimal text of a number

A decimal text is an optional sign, digits with an optional point and an optional power of ten,
or one of the words for infinity and for no number. It stands for the number nearest to its value.
-/

namespace Viewport

/-- The value `digits * 10 ^ exponent`. -/
structure Decimal where
  digits : Nat
  exponent : Int
deriving DecidableEq, Repr

namespace Binary64

/-- The number nearest to a decimal. A decimal at or above `10 ^ 310` is infinite and one below
`10 ^ (-324)`, less than half a unit, is zero; so no power is formed for them. -/
def ofDecimal (negative : Bool) (d : Decimal) : Binary64 :=
  if d.digits = 0 then .finite negative 0
  else if 310 ≤ d.exponent then .infinite negative
  else if d.exponent + (d.digits.log2 + 1) ≤ -324 then .finite negative 0
  else if 0 ≤ d.exponent then
    ofFraction negative (d.digits * Nat.pow 10 d.exponent.toNat * one) 1
  else
    ofFraction negative (d.digits * one) (Nat.pow 10 (-d.exponent).toNat)

end Binary64

namespace Decimal

/-- A plus or minus sign at the front: whether it is a minus, and what follows. -/
def readSign : List Char → Bool × List Char
  | '-' :: cs => (true, cs)
  | '+' :: cs => (false, cs)
  | cs => (false, cs)

/-- A whole exponent, with nothing after it. -/
def readExponent? (cs : List Char) : Option Int :=
  let (negative, cs) := readSign cs
  if cs ≠ [] ∧ cs.all Char.isDigit then
    some (if negative then -decimalValue cs else decimalValue cs)
  else none

/-- Digits with an optional point and an optional exponent, and nothing after them. -/
def read? (cs : List Char) : Option Decimal :=
  let (whole, rest) := spanDigits cs
  let (fraction, rest) := match rest with
    | '.' :: cs => spanDigits cs
    | cs => ([], cs)
  if whole = [] ∧ fraction = [] then none
  else
    let digits := decimalValue (whole ++ fraction)
    match rest with
    | [] => some ⟨digits, -fraction.length⟩
    | c :: cs =>
      if c = 'e' ∨ c = 'E' then
        (readExponent? cs).map fun e => ⟨digits, e - fraction.length⟩
      else none

end Decimal

namespace Binary64

/-- The number a decimal text stands for. -/
def read? (text : List Char) : Option Binary64 :=
  let (negative, cs) := Decimal.readSign text
  let word := String.ofList (cs.map Char.toLower)
  if word = "inf" ∨ word = "infinity" then some (.infinite negative)
  else if word = "nan" then some .nan
  else (Decimal.read? cs).map (ofDecimal negative)

end Binary64

end Viewport
