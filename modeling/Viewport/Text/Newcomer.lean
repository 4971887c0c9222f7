import Viewport.Text.Property

/-!
# Newcomers among the characters

Patterns know the characters of the sixteenth version of the tables. Messages and the names of
groups go by the seventeenth, which adds the characters below.
-/

namespace Viewport.CharSet

def newLetters : CharSet := of "
  88f c5c cdc a7ce-a7cf a7d2 a7d4 a7f1 10940-10959 10ec5-10ec7 10efa-10efb 11b60-11b67 11db0-11ddb
  16ea0-16eb8 16ebb-16ed3 16ff2-16ff6 187f8-187ff 18d09-18d1e 18d80-18df2 1e6c0-1e6de 1e6e0-1e6f5
  1e6fe-1e6ff 2b73a-2b73f 2cea2-2cead 323b0-33479"

def newDigits : CharSet := of "11de0-11de9"

/-- The new marks that join with what stands before them. -/
def newMarks : CharSet := of "
  1acf-1add 1ae0-1aeb 10efa-10efb 11b60 11b62-11b64 11b66 1e6e3 1e6e6 1e6ee-1e6ef 1e6f5"

/-- The new characters that are no letters, digits or marks. -/
def newSymbols : CharSet := of "
  20c1 2b96 fbc3-fbd2 fd90-fd91 fdc8-fdce 10ed0-10ed8 1ccfa-1ccfc 1ceba-1ced0 1cee0-1cef0 1f6d8
  1f777-1f77a 1f8d0-1f8d8 1fa54-1fa57 1fa8a 1fa8e 1fac8 1facd 1faea 1faef 1fbfa"

/-! ## Sets with the newcomers -/

/-- The characters that names of groups may begin with, besides the underscore. -/
def nameLetter : CharSet := alphabetic ∪ newLetters

def nameDigit : CharSet := categories [.decimalNumber, .letterNumber, .otherNumber] ∪ newDigits

/-- The characters that leave no mark of their own. -/
def unprintable : CharSet :=
  categories [.control, .format, .surrogate, .privateUse, .unassigned, .lineSeparator,
    .paragraphSeparator, .spaceSeparator] \ ((newLetters ∪ newDigits ∪ newSymbols) \ newMarks)

/-- The characters that do not show where they stand, or not apart from what stands before them.
The halfwidth sound marks do: they take a place of their own. -/
def hidden : CharSet :=
  unprintable ∪ defaultIgnorableCodePoint ∪ newMarks ∪ (graphemeExtend \ of "ff9e-ff9f")

end Viewport.CharSet
