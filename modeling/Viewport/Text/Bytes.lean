/-!
# Sizes of texts

Places in a text are counted in the bytes of its encoding. A text can be cut only where a
character ends.
-/

namespace Viewport

/-- The number of bytes of a text. -/
def byteSize : List Char → Nat
  | [] => 0
  | c :: cs => c.utf8Size + byteSize cs

/-- A text cut `n` bytes in, if a character ends there. -/
def splitBytes? : Nat → List Char → Option (List Char × List Char)
  | 0, cs => some ([], cs)
  | _ + 1, [] => none
  | n + 1, c :: cs =>
    if c.utf8Size ≤ n + 1 then
      (splitBytes? (n + 1 - c.utf8Size) cs).map fun (s, t) => (c :: s, t)
    else none

/-- The text between two places, if characters end at both. -/
def slice? (start stop : Nat) (text : List Char) : Option (List Char) :=
  if start ≤ stop then
    (splitBytes? start text).bind fun (_, rest) => (splitBytes? (stop - start) rest).map (·.1)
  else none

end Viewport
