/-!
# Patterns as written

The parts of a regular expression, as its text sets them down.
-/

namespace Viewport.Pattern

inductive Flag where
  | caseInsensitive
  | multiLine
  | dotAll
  | swapGreed
  | unicode
  | crlf
  | spaced
deriving DecidableEq, Repr

/-- Flags to be switched on or off. -/
abbrev Switches := List (Flag × Bool)

/-- A character that stands for itself. -/
structure Literal where
  char : Char
  /-- It is written by two hexadecimal digits, which can name a byte. -/
  byte : Bool
deriving DecidableEq, Repr

/-- What holds between two characters. -/
inductive Assertion where
  | lineStart
  | lineEnd
  | textStart
  | textEnd
  | wordBoundary
  | notWordBoundary
  | wordStart
  | wordEnd
  | wordStartHalf
  | wordEndHalf
deriving DecidableEq, Repr

inductive PerlClass where
  | digit
  | space
  | word
deriving DecidableEq, Repr

inductive AsciiClass where
  | alnum
  | alpha
  | ascii
  | blank
  | cntrl
  | digit
  | graph
  | lower
  | print
  | punct
  | space
  | upper
  | word
  | xdigit
deriving DecidableEq, Repr

/-- A question for a property of characters. -/
inductive Query where
  | name (text : List Char)
  /-- Whether a property has a value, or differs from it. -/
  | value (property text : List Char) (differs : Bool)
deriving DecidableEq, Repr

inductive SetOp where
  | intersection
  | difference
  | symmetricDifference
deriving DecidableEq, Repr

/-- What stands between brackets. -/
inductive ClassItem where
  | literal (l : Literal)
  | range (first last : Literal)
  | ascii (negated : Bool) (c : AsciiClass)
  | perl (negated : Bool) (c : PerlClass)
  | property (negated : Bool) (q : Query)
  | bracketed (negated : Bool) (item : ClassItem)
  | union (items : List ClassItem)
  | op (o : SetOp) (lhs rhs : ClassItem)
deriving Repr

inductive Tree where
  | empty
  | switches (s : Switches)
  | literal (l : Literal)
  | dot
  | assertion (a : Assertion)
  | perl (negated : Bool) (c : PerlClass)
  | property (negated : Bool) (q : Query)
  | bracketed (negated : Bool) (item : ClassItem)
  | repetition (body : Tree) (min : Nat) (max : Option Nat)
  | group (s : Switches) (body : Tree)
  | alternation (ts : List Tree)
  | concat (ts : List Tree)
deriving Repr

mutual

/-- How many parts that can hold others lie inside one another. -/
def ClassItem.depth : ClassItem → Nat
  | .union [] => 0
  | .union (i :: is) => 1 + max i.depth (ClassItem.maxDepth is)
  | .bracketed _ i => 1 + i.depth
  | .op _ a b => 1 + max a.depth b.depth
  | _ => 0

def ClassItem.maxDepth : List ClassItem → Nat
  | [] => 0
  | i :: is => max i.depth (maxDepth is)

end

mutual

def Tree.depth : Tree → Nat
  | .bracketed _ i => 1 + i.depth
  | .repetition t _ _ | .group _ t => 1 + t.depth
  | .alternation ts | .concat ts => 1 + Tree.maxDepth ts
  | _ => 0

def Tree.maxDepth : List Tree → Nat
  | [] => 0
  | t :: ts => max t.depth (maxDepth ts)

end

end Viewport.Pattern
