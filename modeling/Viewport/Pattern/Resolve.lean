import Viewport.Pattern.Expr
import Viewport.Pattern.Parser
import Viewport.Text.Age
import Viewport.Text.Boundary

/-!
# The meaning of written patterns

Switches hold from where they stand to the end of the group. Letter case is taken into sets of
characters, the classes get their characters, and what could match less than a whole character
is refused.
-/

namespace Viewport.Pattern

/-- How the parts of a pattern are meant where they stand. -/
structure Modes where
  caseInsensitive : Bool := false
  multiLine : Bool := false
  dotAll : Bool := false
  unicode : Bool := true
  crlf : Bool := false
deriving DecidableEq, Repr

namespace Modes

def set (m : Modes) : Switches → Modes
  | [] => m
  | (f, on) :: s =>
    let m : Modes := match f with
      | .caseInsensitive => { m with caseInsensitive := on }
      | .multiLine => { m with multiLine := on }
      | .dotAll => { m with dotAll := on }
      | .unicode => { m with unicode := on }
      | .crlf => { m with crlf := on }
      | .swapGreed | .spaced => m
    m.set s

/-- Takes in the other letter cases if they are to match. -/
def fold (m : Modes) (s : CharSet) : CharSet :=
  match m.caseInsensitive, m.unicode with
  | false, _ => s
  | true, true => .fold s
  | true, false => .foldAscii s

/-- A character, and its other letter cases if they are to match. -/
def single (m : Modes) (c : Nat) : CharSet :=
  match m.caseInsensitive, m.unicode with
  | true, true => .anyCase c
  | _, _ => m.fold (.single c)

/-- The complement of a set of bytes holds bytes that are no characters. -/
def negate (m : Modes) (negated : Bool) (s : CharSet) : Except Error CharSet :=
  match negated, m.unicode with
  | false, _ => return s
  | true, true => return .compl s
  | true, false => throw .bytesNotText

end Modes

/-! ## Properties -/

/-- A name in small letters, without blanks, hyphens and underscores, and without `is` in front
of it. -/
def plainName (text : List Char) : String :=
  let (isWord, rest) := match text with
    | a :: b :: cs =>
      if (a = 'i' ∨ a = 'I') ∧ (b = 's' ∨ b = 'S') then (true, cs) else (false, text)
    | cs => (false, cs)
  let kept := rest.filter fun c => c.toNat < 128 && c != ' ' && c != '_' && c != '-'
  let name := String.ofList (kept.map Char.toLower)
  if isWord ∧ name = "c" then "isc" else name

/-- The set with a name. -/
def find? (sets : List (List String × CharSet)) (name : String) : Option CharSet :=
  (sets.find? (name ∈ ·.1)).map (·.2)

def category? (name : String) : Option CharSet :=
  match name with
  | "any" => some (.compl .none)
  | "assigned" => some (.compl (.categories [.unassigned]))
  | "ascii" => some (.range 0 127)
  | _ => (Category.names.find? (name ∈ ·.1)).map fun p => .categories p.2

def script? (name : String) : Option CharSet :=
  (Script.find? name).map fun s => .table s.ranges

/-- The characters that are used with a script. What is shared with scripts by name is in
common use no more. -/
def scriptExtension? (name : String) : Option CharSet :=
  (Script.find? name).map fun s =>
    if "zyyy" ∈ s.names ∨ "zinh" ∈ s.names then
      Script.shared.foldl (fun r p => r \ .table p.2) (.table s.ranges)
    else
      Script.shared.foldl (fun r p => if p.1 ∈ s.names then r ∪ .table p.2 else r)
        (.table s.ranges)

/-- The sets of the values of a property, by the names of the values. -/
def values? (property : String) : Option (String → Option CharSet) :=
  match property with
  | "age" => some fun v => TableVersion.assigned? v .none TableVersion.all
  | "gc" | "generalcategory" => some category?
  | "gcb" | "graphemeclusterbreak" => some (find? Grapheme.classes)
  | "sb" | "sentencebreak" => some (find? Sentence.classes)
  | "sc" | "script" => some script?
  | "scx" | "scriptextensions" => some scriptExtension?
  | "wb" | "wordbreak" => some (find? Word.classes)
  | _ => none

/-- Properties with values that are not kept here. -/
def otherProperties : List String := words "
  bc bidiclass bidimirroringglyph bmg bidipairedbracket bpb bidipairedbrackettype bpt blk block
  canonicalcombiningclass ccc casefolding cf ce compositionexclusion changeswhennfkccasefolded
  cwkcf cjkaccountingnumeric kaccountingnumeric cjkcompatibilityvariant kcompatibilityvariant
  cjkiicore kiicore cjkirggsource kirggsource cjkirghsource kirghsource cjkirgjsource kirgjsource
  cjkirgkpsource kirgkpsource cjkirgksource kirgksource cjkirgmsource kirgmsource cjkirgssource
  kirgssource cjkirgtsource kirgtsource cjkirguksource kirguksource cjkirgusource kirgusource
  cjkirgvsource kirgvsource cjkothernumeric kothernumeric cjkprimarynumeric kprimarynumeric
  cjkrsunicode krsunicode unicoderadicalstroke urs compex fullcompositionexclusion
  decompositionmapping dm decompositiontype dt ea eastasianwidth equideo
  equivalentunifiedideograph expandsonnfc xonfc expandsonnfd xonfd expandsonnfkc xonfkc
  expandsonnfkd xonfkd fcnfkc fcnfkcclosure hangulsyllabletype hst incb indicconjunctbreak
  indicpositionalcategory inpc indicsyllabiccategory insc isc ocomment jamoshortname jsn jg
  joininggroup joiningtype jt kehcat kehdesc kehhg kehifao kehjsesh kehnomirror kehnorotate lb
  linebreak lc lowercasemapping na name na1 unicode1name namealias nfcqc nfcquickcheck nfdqc
  nfdquickcheck nfkccasefold nfkccf nfkcqc nfkcquickcheck nfkcscf nfkcsimplecasefold nfkdqc
  nfkdquickcheck nt numerictype numericvalue nv scf sfc simplecasefolding simplelowercasemapping
  slc simpletitlecasemapping stc simpleuppercasemapping suc tc titlecasemapping uc
  uppercasemapping verticalorientation vo"

/-- Names of categories and scripts that no character has. -/
def withoutCharacters : List String :=
  ["cs", "surrogate", "zzzz", "unknown", "hrkt", "katakanaorhiragana"]

/-- The characters that a question asks for, be it to have them or to be without them. A name that
means a property as well as a category is taken for the category. -/
def Query.resolve : Query → Except Error CharSet
  | .name text =>
    let name := plainName text
    let property := if name ∈ ["cf", "sc", "lc"] then none else find? CharSet.properties name
    match property <|> category? name <|> script? name with
    | some s => return s
    | none =>
      if name ∈ withoutCharacters then throw .propertyValueUnknown else throw .propertyUnknown
  | .value text wanted _ =>
    let property := plainName text
    match values? property with
    | some sets =>
      match sets (plainName wanted) with
      | some s => return s
      | none => throw .propertyValueUnknown
    | none =>
      if (find? CharSet.properties property).isSome ∨ property ∈ otherProperties then
        throw .propertyValueUnknown
      else throw .propertyUnknown

def Query.differs : Query → Bool
  | .name _ => false
  | .value _ _ differs => differs

/-! ## Classes -/

namespace CharSets

def asciiDigit : CharSet := .range 48 57
def asciiUpper : CharSet := .range 65 90
def asciiLower : CharSet := .range 97 122
def asciiAlpha : CharSet := asciiUpper ∪ asciiLower
def asciiWord : CharSet := asciiAlpha ∪ asciiDigit ∪ .single 95
def asciiSpace : CharSet := .range 9 13 ∪ .single 32

end CharSets

open CharSets

def AsciiClass.set : AsciiClass → CharSet
  | alnum => asciiAlpha ∪ asciiDigit
  | alpha => asciiAlpha
  | ascii => .range 0 127
  | blank => .single 9 ∪ .single 32
  | cntrl => .range 0 31 ∪ .single 127
  | digit => asciiDigit
  | graph => .range 33 126
  | lower => asciiLower
  | print => .range 32 126
  | punct => .range 33 47 ∪ .range 58 64 ∪ .range 91 96 ∪ .range 123 126
  | space => asciiSpace
  | upper => asciiUpper
  | word => asciiWord
  | xdigit => asciiDigit ∪ .range 65 70 ∪ .range 97 102

def PerlClass.set (unicode : Bool) : PerlClass → CharSet
  | digit => if unicode then .digit else asciiDigit
  | space => if unicode then .whiteSpace else asciiSpace
  | word => if unicode then .word else asciiWord

def SetOp.apply : SetOp → CharSet → CharSet → CharSet
  | intersection, s, t => s ∩ t
  | difference, s, t => s \ t
  | symmetricDifference, s, t => s.symmDiff t

/-- The code point of a literal; a byte that is no character of its own is refused. -/
def Literal.code (m : Modes) (l : Literal) : Except Error Nat :=
  if !m.unicode && l.byte && 127 < l.char.toNat then throw .bytesNotText
  else return l.char.toNat

/-- The code point of a literal between brackets, where sets of bytes hold ASCII only. -/
def Literal.member (m : Modes) (l : Literal) : Except Error Nat := do
  let c ← l.code m
  if !m.unicode && 127 < c then throw .unicodeNotAllowed
  return c

def propertySet (m : Modes) (negated : Bool) (q : Query) : Except Error CharSet := do
  if !m.unicode then throw .unicodeNotAllowed
  m.negate (negated != q.differs) (m.fold (← q.resolve))

mutual

def ClassItem.resolve (m : Modes) : ClassItem → Except Error CharSet
  | .literal l => return .single (← l.member m)
  | .range a b => return .range (← a.member m) (← b.member m)
  | .ascii n c => m.negate n (m.fold c.set)
  | .perl n c => m.negate n (c.set m.unicode)
  | .property n q => propertySet m n q
  | .bracketed n i => do m.negate n (m.fold (← i.resolve m))
  | .union is => ClassItem.resolveAll m is
  | .op o a b => do
    let s ← a.resolve m
    let t ← b.resolve m
    return o.apply (m.fold s) (m.fold t)

def ClassItem.resolveAll (m : Modes) : List ClassItem → Except Error CharSet
  | [] => return .none
  | i :: is => return (← i.resolve m) ∪ (← resolveAll m is)

end

/-! ## Patterns -/

def Assertion.resolve (m : Modes) (a : Assertion) : Look :=
  let word := PerlClass.word.set m.unicode
  match a with
  | .lineStart => if !m.multiLine then .textStart else if m.crlf then .crlfStart else .lineStart
  | .lineEnd => if !m.multiLine then .textEnd else if m.crlf then .crlfEnd else .lineEnd
  | .textStart => .textStart
  | .textEnd => .textEnd
  | .wordBoundary => .word word .boundary
  | .notWordBoundary => .word word .noBoundary
  | .wordStart => .word word .start
  | .wordEnd => .word word .finish
  | .wordStartHalf => .word word .startHalf
  | .wordEndHalf => .word word .finishHalf

def Modes.dot (m : Modes) : Except Error CharSet :=
  if !m.unicode then throw .bytesNotText
  else if m.dotAll then return .compl .none
  else if m.crlf then return .compl (.single 10 ∪ .single 13)
  else return .compl (.single 10)

mutual

/-- The meaning of a tree, and the modes after it. -/
def Tree.resolve (m : Modes) : Tree → Except Error (Expr × Modes)
  | .empty => return (.empty, m)
  | .switches s => return (.empty, m.set s)
  | .literal l => return (.set (m.single (← l.code m)), m)
  | .dot => return (.set (← m.dot), m)
  | .assertion a => return (.look (a.resolve m), m)
  | .perl n c => return (.set (← m.negate n (c.set m.unicode)), m)
  | .property n q => return (.set (← propertySet m n q), m)
  | .bracketed n i => return (.set (← m.negate n (m.fold (← i.resolve m))), m)
  | .repetition t min max => do
    let (e, m) ← t.resolve m
    return (.repeated e min max, m)
  | .group s t => do
    let (e, _) ← t.resolve (m.set s)
    return (e, m)
  | .alternation ts => Tree.resolveEither m ts
  | .concat ts => Tree.resolveSeq m ts

def Tree.resolveSeq (m : Modes) : List Tree → Except Error (Expr × Modes)
  | [] => return (.empty, m)
  | [t] => t.resolve m
  | t :: ts => do
    let (a, m) ← t.resolve m
    let (b, m) ← resolveSeq m ts
    return (.seq a b, m)

def Tree.resolveEither (m : Modes) : List Tree → Except Error (Expr × Modes)
  | [] => return (.set .none, m)
  | [t] => t.resolve m
  | t :: ts => do
    let (a, m) ← t.resolve m
    let (b, m) ← resolveEither m ts
    return (.either a b, m)

end

/-- The pattern that a text writes, if it is meant in these modes from the start. -/
def Expr.readIn (m : Modes) (text : List Char) : Except Error Expr := do
  let tree ← Tree.read text
  let (e, _) ← tree.resolve m
  return e

/-- The pattern that a text writes. -/
def Expr.read (text : List Char) : Except Error Expr := Expr.readIn {} text

end Viewport.Pattern
