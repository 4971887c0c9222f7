import Viewport.Pattern.Resolve
import Viewport.Pattern.Run

/-!
# Blacklists

An entry names the texts that contain a string or in which a pattern occurs; a list of entries
names the texts that one of them names.
-/

namespace Viewport

/-- Whether a text contains another. -/
def contains (needle : List Char) : List Char → Bool
  | [] => needle.isEmpty
  | c :: cs => needle.isPrefixOf (c :: cs) || contains needle cs

/-- An entry as it is given. -/
inductive EntrySpec where
  | substring (needle : String)
  | pattern (text : String)
deriving DecidableEq, Repr

inductive Entry where
  | substring (needle : String)
  | pattern (e : Pattern.Expr)
deriving DecidableEq, Repr

namespace Entry

/-- Reads an entry; a pattern that is none comes back with what is wrong with it. -/
def ofSpec : EntrySpec → Except (String × Pattern.Error) Entry
  | .substring needle => .ok (.substring needle)
  | .pattern text =>
    match Pattern.Expr.read text.toList with
    | .ok e => .ok (.pattern e)
    | .error e => .error (text, e)

def covers (text : String) : Entry → Bool
  | .substring needle => contains needle.toList text.toList
  | .pattern e => e.occursIn text.toList

end Entry

structure Blacklist where
  entries : List Entry
deriving DecidableEq, Repr

namespace Blacklist

def empty : Blacklist := ⟨[]⟩

/-- Reads the entries in order, up to the first that is none. -/
def ofSpecs : List EntrySpec → Except (String × Pattern.Error) Blacklist
  | [] => .ok empty
  | s :: ss => do
    let e ← Entry.ofSpec s
    let rest ← ofSpecs ss
    return ⟨e :: rest.entries⟩

def covers (b : Blacklist) (text : String) : Bool := b.entries.any (·.covers text)

end Blacklist

end Viewport
