import Viewport.Text.CaseFold
import Viewport.Text.Category

/-!
# Sets of characters

A set is kept as it is made up, and asked whether it holds a code point.
-/

namespace Viewport

inductive CharSet where
  | range (first last : Nat)
  /-- Of a range the first code point and each that comes whole steps after it. -/
  | every (step first last : Nat)
  | table (ranges : Ranges)
  | categories (cs : List Category)
  /-- The code points that another one differs from in letter case only. -/
  | folding
  | union (s t : CharSet)
  | inter (s t : CharSet)
  | diff (s t : CharSet)
  | compl (s : CharSet)
  /-- The set with the other letter cases of what is in it. -/
  | fold (s : CharSet)
  /-- The set with the other letter cases of the ASCII letters in it. -/
  | foldAscii (s : CharSet)
deriving DecidableEq, Repr

/-- An ASCII letter in the other case; all else is kept. -/
def swapAsciiCase (c : Nat) : Nat :=
  if 'A'.toNat ≤ c ∧ c ≤ 'Z'.toNat then c + 32
  else if 'a'.toNat ≤ c ∧ c ≤ 'z'.toNat then c - 32
  else c

namespace CharSet

instance : Union CharSet := ⟨union⟩
instance : Inter CharSet := ⟨inter⟩
instance : SDiff CharSet := ⟨diff⟩

/-- No character. -/
def none : CharSet := .range 1 0

def single (c : Nat) : CharSet := .range c c

/-- A code point in all its letter cases. -/
def anyCase (c : Nat) : CharSet := (foldOrbit c).foldr (fun d s => single d ∪ s) none

/-- The set with hexadecimal ranges. -/
def of (ranges : String) : CharSet := .table (.read ranges)

def symmDiff (s t : CharSet) : CharSet := (s \ t) ∪ (t \ s)

def contains : CharSet → Nat → Bool
  | range a b, c => a ≤ c && c ≤ b
  | every n a b, c => a ≤ c && c ≤ b && (c - a) % n == 0
  | table r, c => r.contains c
  | categories cs, c => cs.contains (Category.of c)
  | folding, c => (foldOrbit c).length != 1
  | union s t, c => s.contains c || t.contains c
  | inter s t, c => s.contains c && t.contains c
  | diff s t, c => s.contains c && !t.contains c
  | compl s, c => !s.contains c
  | fold s, c => (foldOrbit c).any s.contains
  | foldAscii s, c => s.contains c || s.contains (swapAsciiCase c)

end CharSet

end Viewport
