import Viewport.Pattern.Parser

/-!
# The pattern of lengths

What a value is searched for, as a pattern: quoted strings and `url(...)` calls, or numbers with
the unit after them, in which every character stands for itself.
-/

namespace Viewport

/-- The pattern of quoted strings, `url(...)` calls and numbers with the unit after them. -/
def lengthPattern (unit : List Char) : List Char :=
  "\"[^\"]+\"|'[^']+'|url\\([^)]+\\)|([0-9]*\\.?[0-9]+)".toList ++ Pattern.quote unit

end Viewport
