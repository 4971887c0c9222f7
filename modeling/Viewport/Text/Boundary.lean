import Viewport.Text.Property
import Viewport.Text.Script

/-!
# Where texts may be divided

The classes of characters that tell where a text divides into graphemes, words and sentences.
Each division has the classes by their names, in small letters and run together.
-/

namespace Viewport

open CharSet

/-- The characters of a script. -/
def scriptSet (name : String) : CharSet :=
  ((Script.find? name).map fun s => table s.ranges).getD none

def carriageReturn : CharSet := single 0xd

def lineFeed : CharSet := single 0xa

def zeroWidthJoiner : CharSet := single 0x200d

/-! ## Graphemes -/

namespace Grapheme

def extend : CharSet := graphemeExtend ∪ emojiModifier

def control : CharSet :=
  (categories [.lineSeparator, .paragraphSeparator, .control, .format] ∪
    (categories [.unassigned] ∩ defaultIgnorableCodePoint)) \
  (carriageReturn ∪ lineFeed ∪ zeroWidthJoiner ∪ prependedConcatenationMark ∪ graphemeExtend)

def prepend : CharSet := prependedConcatenationMark ∪ of "
  d4e 111c2-111c3 113d1 1193f 11941 11a3a 11a84-11a89 11d46 11f02"

def spacingMark : CharSet :=
  ((categories [.spacingMark] \ graphemeExtend) ∪ of "e33 eb3") \ of "
  102b-102c 1038 1062-1064 1067-106d 1083 1087-108c 108f 109a-109c 1a61 1a63-1a64 aa7b aa7d
  11720-11721"

def leadingJamo : CharSet := of "1100-115f a960-a97c"

def vowelJamo : CharSet := of "1160-11a7 d7b0-d7c6 16d63 16d67-16d6a"

def trailingJamo : CharSet := of "11a8-11ff d7cb-d7fb"

/-- The syllables of a leading consonant and a vowel: of each such pair the first syllable, after
which come those with one of the twenty-seven trailing consonants. -/
def openSyllable : CharSet := every 28 0xac00 0xd7a3

def closedSyllable : CharSet := range 0xac00 0xd7a3 \ openSyllable

def classes : List (List String × CharSet) := [
  (["cn", "control"], control),
  (["cr"], carriageReturn),
  (["ex", "extend"], extend),
  (["l"], leadingJamo),
  (["lf"], lineFeed),
  (["lv"], openSyllable),
  (["lvt"], closedSyllable),
  (["pp", "prepend"], prepend),
  (["ri", "regionalindicator"], regionalIndicator),
  (["sm", "spacingmark"], spacingMark),
  (["t"], trailingJamo),
  (["v"], vowelJamo),
  (["zwj"], zeroWidthJoiner)]

end Grapheme

/-! ## Words -/

namespace Word

/-- The marks before numbers that are no part of words. -/
def numberMark : CharSet := prependedConcatenationMark \ single 0x70f

def extend : CharSet :=
  (graphemeExtend ∪ categories [.spacingMark] ∪ emojiModifier) \ zeroWidthJoiner

def format : CharSet :=
  categories [.format] \ (range 0x200b 0x200d ∪ graphemeExtend ∪ prependedConcatenationMark)

def katakana : CharSet := scriptSet "katakana" ∪ of "3031-3035 309b-309c 30a0 30fc ff70"

def hebrewLetter : CharSet := scriptSet "hebrew" ∩ categories [.otherLetter]

def numeric : CharSet := categories [.decimalNumber] ∪ numberMark ∪ of "66b 19da"

def extendNumLet : CharSet := categories [.connectorPunctuation] ∪ single 0x202f

def segmentSpace : CharSet := categories [.spaceSeparator] \ of "a0 2007 202f"

def midLetter : CharSet := of "3a b7 387 55f 5f4 2027 fe13 fe55 ff1a"

def midNum : CharSet := of "2c 3b 37e 589 60c-60d 66c 7f8 2044 fe50 fe54 ff0c ff1b"

def midNumLet : CharSet := of "2e 2018-2019 2024 fe52 ff07 ff0e"

def newline : CharSet := of "b-c 85 2028-2029"

/-- The scripts in which words have no mark between them. -/
def unspaced : CharSet :=
  ["thai", "lao", "myanmar", "khmer", "taile", "newtailue", "taitham", "taiviet", "ahom",
    "hiragana"].foldl (fun s name => s ∪ scriptSet name) none

def letter : CharSet :=
  (alphabetic \ (ideographic ∪ katakana ∪ unspaced ∪ extend ∪ hebrewLetter)) ∪ of "
  2c2-2c5 2d2-2d7 2de-2df 2e5-2eb 2ed 2ef-2ff 55a-55c 55e 58a 5f3 70f a708-a716 a720-a721
  a789-a78a ab5b"

def classes : List (List String × CharSet) := [
  (["le", "aletter"], letter),
  (["cr"], carriageReturn),
  (["dq", "doublequote"], single 0x22),
  (["extend"], extend),
  (["ex", "extendnumlet"], extendNumLet),
  (["fo", "format"], format),
  (["hl", "hebrewletter"], hebrewLetter),
  (["ka", "katakana"], katakana),
  (["lf"], lineFeed),
  (["ml", "midletter"], midLetter),
  (["mn", "midnum"], midNum),
  (["mb", "midnumlet"], midNumLet),
  (["nl", "newline"], newline),
  (["nu", "numeric"], numeric),
  (["ri", "regionalindicator"], regionalIndicator),
  (["sq", "singlequote"], single 0x27),
  (["wsegspace"], segmentSpace),
  (["zwj"], zeroWidthJoiner)]

end Word

/-! ## Sentences -/

namespace Sentence

def extend : CharSet := graphemeExtend ∪ categories [.spacingMark] ∪ zeroWidthJoiner

def format : CharSet :=
  categories [.format] \ (range 0x200c 0x200d ∪ graphemeExtend ∪ Word.numberMark)

def separator : CharSet := of "85 2028-2029"

def space : CharSet := whiteSpace \ (separator ∪ carriageReturn ∪ lineFeed)

/-- Georgian letters begin no sentence of their own, in whichever case. -/
def lower : CharSet := lowercase \ (graphemeExtend ∪ of "10d0-10fa 10fd-10ff")

def upper : CharSet := (categories [.titlecaseLetter] ∪ uppercase) \ of "1c90-1cba 1cbd-1cbf"

def letter : CharSet := (alphabetic \ (lower ∪ upper ∪ extend)) ∪ single 0x5f3

def numeric : CharSet := Word.numeric ∪ single 0x66c

def fullStop : CharSet := of "2e 2024 fe52 ff0e"

def terminal : CharSet := sentenceTerminal \ fullStop

def goesOn : CharSet := of "
  2c-2d 3a-3b 37e 55d 60c-60d 7f8 1802 1808 2013-2014 3001 fe10-fe11 fe13-fe14 fe31-fe32
  fe50-fe51 fe54-fe55 fe58 fe63 ff0c-ff0d ff1a-ff1b ff64"

def close : CharSet :=
  categories [.openPunctuation, .closePunctuation, .initialPunctuation, .finalPunctuation] ∪
    of "22 27 275b-2760 2e00-2e01 2e06-2e08 2e0b 1f676-1f678"

def classes : List (List String × CharSet) := [
  (["at", "aterm"], fullStop),
  (["cl", "close"], close),
  (["cr"], carriageReturn),
  (["ex", "extend"], extend),
  (["fo", "format"], format),
  (["lf"], lineFeed),
  (["lo", "lower"], lower),
  (["nu", "numeric"], numeric),
  (["le", "oletter"], letter),
  (["sc", "scontinue"], goesOn),
  (["se", "sep"], separator),
  (["sp"], space),
  (["st", "sterm"], terminal),
  (["up", "upper"], upper)]

end Sentence

end Viewport
