import Viewport.Pattern.Expr

/-!
# Patterns on their way through a text

A run goes through a text once, from left to right, and holds the points inside a pattern that
matches have come to. At every place matches may enter it and others leave it; then each that is
inside takes the next character or ends.
-/

namespace Viewport.Pattern

/-- A pattern and the matches inside it. -/
inductive Run where
  /-- No match is inside. -/
  | idle (e : Expr)
  /-- A match has just taken a character of the set. -/
  | past (s : CharSet)
  | seq (a b : Run)
  | either (a b : Run)
  | star (r : Run)
deriving DecidableEq, Repr

namespace Run

/-! ## Parts that no match is inside make a whole that none is inside. -/

def joinSeq : Run → Run → Run
  | idle a, idle b => idle (.seq a b)
  | a, b => seq a b

def joinEither : Run → Run → Run
  | idle a, idle b => idle (.either a b)
  | a, b => either a b

def joinStar : Run → Run
  | idle e => idle (.star e)
  | r => star r

/-! ## Steps -/

/-- What a pattern becomes when a match enters it at a place and takes the next character. -/
def enter (p : Place) : Expr → Run
  | .empty => idle .empty
  | .set s => if p.isBefore s then past s else idle (.set s)
  | .look l => idle (.look l)
  | .seq a b => joinSeq (enter p a) (if a.passes p then enter p b else idle b)
  | .either a b => joinEither (enter p a) (enter p b)
  | .star e => joinStar (enter p e)

/-- Whether a match leaves at a place; `entry` tells if one enters there. -/
def leaves (p : Place) (entry : Bool) : Run → Bool
  | idle e => entry && e.passes p
  | past _ => true
  | seq a b => b.leaves p (a.leaves p entry)
  | either a b => a.leaves p entry || b.leaves p entry
  | star r => entry || r.leaves p false

/-- The run after the next character. What leaves the first of two patterns in a row enters the
second, and what leaves a repeated pattern enters it again. -/
def take (p : Place) (entry : Bool) : Run → Run
  | idle e => if entry then enter p e else idle e
  | past s => if entry && p.isBefore s then past s else idle (.set s)
  | seq a b => joinSeq (a.take p entry) (b.take p (a.leaves p entry))
  | either a b => joinEither (a.take p entry) (b.take p entry)
  | star r => joinStar (r.take p (entry || r.leaves p false))

/-- Whether a match leaves at some place of a text, where one enters at every place. The text
stands after the character `before`. -/
def finds (r : Run) (before : Option Char) : List Char → Bool
  | [] => r.leaves ⟨before, none⟩ true
  | c :: cs =>
    let p : Place := ⟨before, some c⟩
    r.leaves p true || (r.take p true).finds (some c) cs

end Run

/-- Whether the pattern matches somewhere in a text. -/
def Expr.occursIn (e : Expr) (text : List Char) : Bool := (Run.idle e).finds none text

end Viewport.Pattern
