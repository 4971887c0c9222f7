import Viewport.Text.CharSet

/-!
# Patterns

A pattern is made of sets of characters and of conditions on places in a text. A place lies
between two characters, before the first or after the last one. Counted repetitions are written
out.
-/

namespace Viewport.Pattern

/-- The characters on the two sides of a place; none stands for an end of the text. -/
structure Place where
  before : Option Char
  after : Option Char
deriving DecidableEq, Repr

/-- What is asked of the word characters on the two sides of a place. -/
inductive WordEdge where
  | boundary
  | noBoundary
  | start
  | finish
  | startHalf
  | finishHalf
deriving DecidableEq, Repr

/-- A condition on the characters on the two sides of a place. -/
inductive Look where
  | textStart
  | textEnd
  | lineStart
  | lineEnd
  /-- A line ends with a return, a line feed, or both. -/
  | crlfStart
  | crlfEnd
  | word (set : CharSet) (edge : WordEdge)
deriving DecidableEq, Repr

inductive Expr where
  | empty
  | set (s : CharSet)
  | look (l : Look)
  | seq (a b : Expr)
  | either (a b : Expr)
  | star (e : Expr)
deriving DecidableEq, Repr

namespace WordEdge

def holds : WordEdge → (before after : Bool) → Bool
  | boundary, b, a => b != a
  | noBoundary, b, a => b == a
  | start, b, a => !b && a
  | finish, b, a => b && !a
  | startHalf, b, _ => !b
  | finishHalf, _, a => !a

end WordEdge

namespace Place

/-- Whether the place stands before a character of the set. -/
def isBefore (p : Place) (s : CharSet) : Bool := p.after.any (s.contains ·.toNat)

/-- Whether the place stands after a character of the set. -/
def isAfter (p : Place) (s : CharSet) : Bool := p.before.any (s.contains ·.toNat)

end Place

namespace Look

/-- Whether a place meets the condition. -/
def holds (p : Place) : Look → Bool
  | textStart => p.before.isNone
  | textEnd => p.after.isNone
  | lineStart => p.before.all (· == '\n')
  | lineEnd => p.after.all (· == '\n')
  | crlfStart => p.before.all fun c => c == '\n' || (c == '\r' && p.after != some '\n')
  | crlfEnd => p.after.all fun c => c == '\r' || (c == '\n' && p.before != some '\r')
  | word s e => e.holds (p.isAfter s) (p.isBefore s)

end Look

namespace Expr

/-- Whether the pattern matches at a place without taking a character. -/
def passes (p : Place) : Expr → Bool
  | empty => true
  | set _ => false
  | look l => l.holds p
  | seq a b => a.passes p && b.passes p
  | either a b => a.passes p || b.passes p
  | star _ => true

/-- Whether there are only conditions in the pattern, and nothing that takes a character. -/
def isBlank : Expr → Bool
  | empty => true
  | set _ => false
  | look _ => true
  | seq a b => a.isBlank && b.isBlank
  | either a b => a.isBlank && b.isBlank
  | star e => e.isBlank

/-- A pattern so many times in a row, made of two halves that are the same. -/
def power (e : Expr) : Nat → Expr
  | 0 => empty
  | 1 => e
  | n + 2 =>
    let half := e.power (n / 2 + 1)
    if n % 2 = 0 then seq half half else seq e (seq half half)

/-- A pattern from `min` to `max` times in a row. Once is enough of one that takes no character,
for it asks the same of the same place each time. -/
def repeated (e : Expr) (min : Nat) (max : Option Nat) : Expr :=
  let times (n : Nat) := if e.isBlank then n.min 1 else n
  match max with
  | none => seq (e.power (times min)) (star e)
  | some max => seq (e.power (times min)) ((either e empty).power (times (max - min)))

end Expr

end Viewport.Pattern
