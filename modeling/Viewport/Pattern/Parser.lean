import Viewport.Pattern.Error
import Viewport.Pattern.Tree
import Viewport.Text.Newcomer

/-!
# Reading patterns

A pattern is read from left to right; the first thing wrong with it is the error. Open groups
and open brackets are kept on a stack of levels.
-/

namespace Viewport.Pattern

/-- What is left to read. -/
structure Input where
  rest : List Char
  /-- Blanks and comments are passed over. -/
  spaced : Bool
  /-- The names of groups so far. -/
  names : List (List Char)

abbrev Parser := StateT Input (Except Error)

/-- Drops blanks, and comments from a number sign to the end of the line. -/
def dropSpace : (comment : Bool) → List Char → List Char
  | _, [] => []
  | true, c :: cs => if c = '\n' then dropSpace false cs else dropSpace true cs
  | false, c :: cs =>
    if CharSet.whiteSpace.contains c.toNat then dropSpace false cs
    else if c = '#' then dropSpace true cs
    else c :: cs

namespace Parser

def fail {α : Type} (e : Error) : Parser α := throw e

def peek? : Parser (Option Char) := return (← get).rest.head?

def skip : Parser Unit := modify fun s => { s with rest := s.rest.tail }

def skipSpace : Parser Unit :=
  modify fun s => if s.spaced then { s with rest := dropSpace false s.rest } else s

/-- Passes over a character and the space after it. -/
def advance : Parser Unit := do
  skip
  skipSpace

/-- The next character, or an error at the end of the pattern. -/
def peekOr (e : Error) : Parser Char := do
  match ← peek? with
  | some c => return c
  | none => fail e

def accept (word : String) : Parser Bool := do
  let s ← get
  if word.toList.isPrefixOf s.rest then
    set { s with rest := s.rest.drop word.length }
    return true
  else return false

/-- Collects what a step finds until it finds nothing; every find passes over a character. -/
def collectUpTo {α : Type} (step : Parser (Option α)) : Nat → Parser (List α)
  | 0 => return []
  | n + 1 => do
    match ← step with
    | some a => return a :: (← collectUpTo step n)
    | none => return []

def collect {α : Type} (step : Parser (Option α)) : Parser (List α) := do
  collectUpTo step (← get).rest.length

/-- The characters of a class at the front, with space between them. -/
def charsWhile (p : Char → Bool) : Parser (List Char) :=
  collect do
    match ← peek? with
    | some c => if p c then advance; return some c else return none
    | none => return none

/-- The characters that come after the next one, without what is passed over. -/
def peekSecond? : Parser (Option Char) := return (← get).rest.tail.head?

/-- The character after the next one and the space after that, as far as blanks and the
beginning of a comment go. -/
def peekBeyondSpace? : Parser (Option Char) := do
  let s ← get
  let rest := s.rest.tail
  if s.spaced then return (beyond false rest).or rest.head? else return rest.head?
where
  beyond : (comment : Bool) → List Char → Option Char
    | _, [] => none
    | comment, c :: cs =>
      if CharSet.whiteSpace.contains c.toNat then beyond comment cs
      else if !comment && c == '#' then beyond true cs
      else some c

end Parser

open Viewport.Pattern.Parser

/-! ## Escapes -/

def isMeta (c : Char) : Bool :=
  "\\.+*?()|[]\x7b\x7d^$#&-~".toList.contains c

/-- A pattern that matches a text and nothing else. -/
def quote (text : List Char) : List Char :=
  text.flatMap fun c => if isMeta c then ['\\', c] else [c]

/-- ASCII other than letters, digits and angle brackets stands for itself after a backslash. -/
def isPlainEscape (c : Char) : Bool :=
  isMeta c || (c.toNat < 128 && !c.isAlphanum && c != '<' && c != '>')

/-- The character with a code, if there is one. -/
def charOfHex (ds : List Char) : Parser Char :=
  let n := hexValue ds
  if n.isValidChar then return Char.ofNat n else fail .hexNoCharacter

def hexDigits : Nat → Parser (List Char)
  | 0 => return []
  | n + 1 => do
    let c ← peekOr .escapeUnfinished
    if !isHexDigit c then fail .hexDigit
    advance
    return c :: (← hexDigits n)

/-- A character by its code: in braces, or by a fixed number of digits. -/
def hexLiteral (digits : Nat) : Parser Literal := do
  advance
  if (← peekOr .escapeUnfinished) = '\x7b' then
    advance
    let ds ← charsWhile isHexDigit
    let c ← peekOr .escapeUnfinished
    if c ≠ '\x7d' then fail .hexDigit
    advance
    if ds = [] then fail .hexEmpty
    return ⟨← charOfHex ds, false⟩
  else
    return ⟨← charOfHex (← hexDigits digits), digits = 2⟩

/-- The text before and after the first place where a word stands. -/
def splitAtWord? (word : List Char) : List Char → Option (List Char × List Char)
  | [] => none
  | c :: cs =>
    if word.isPrefixOf (c :: cs) then some ([], (c :: cs).drop word.length)
    else (splitAtWord? word cs).map fun (a, b) => (c :: a, b)

def Query.ofText (text : List Char) : Query :=
  match splitAtWord? ['!', '='] text, splitAtWord? [':'] text <|> splitAtWord? ['='] text with
  | some (property, wanted), _ => .value property wanted true
  | none, some (property, wanted) => .value property wanted false
  | none, none => .name text

def query : Parser Query := do
  advance
  let c ← peekOr .escapeUnfinished
  if c = '\x7b' then
    advance
    let text ← charsWhile (· ≠ '\x7d')
    let _ ← peekOr .escapeUnfinished
    skip
    return .ofText text
  else if c = '\\' then fail .propertyEscape
  else
    advance
    return .name [c]

/-- A word boundary by name, in braces; anything else that a brace opens is left alone. -/
def namedBoundary? : Parser (Option Assertion) := do
  let s ← get
  advance
  let isName (c : Char) : Bool := c.isAlpha || c == '-'
  let c ← peekOr .wordBoundaryUnfinished
  if !isName c then
    set s
    return none
  let name ← charsWhile isName
  if (← peekOr .wordBoundaryUnclosed) ≠ '\x7d' then fail .wordBoundaryUnclosed
  skip
  match String.ofList name with
  | "start" => return some .wordStart
  | "end" => return some .wordEnd
  | "start-half" => return some .wordStartHalf
  | "end-half" => return some .wordEndHalf
  | _ => fail .wordBoundaryUnknown

/-- A letter that has a meaning of its own after a backslash. -/
def letterEscape (c : Char) : Parser Tree := do
  skip
  let control (n : Nat) : Tree := .literal ⟨Char.ofNat n, false⟩
  match c with
  | 'a' => return control 7
  | 'f' => return control 12
  | 't' => return control 9
  | 'n' => return control 10
  | 'r' => return control 13
  | 'v' => return control 11
  | 'A' => return .assertion .textStart
  | 'z' => return .assertion .textEnd
  | 'b' =>
    if (← peek?) = some '\x7b' then return .assertion ((← namedBoundary?).getD .wordBoundary)
    else return .assertion .wordBoundary
  | 'B' => return .assertion .notWordBoundary
  | '<' => return .assertion .wordStart
  | '>' => return .assertion .wordEnd
  | _ => if isPlainEscape c then return .literal ⟨c, false⟩ else fail .escapeUnknown

def perlClass (negated : Bool) (c : PerlClass) : Parser Tree := do
  skip
  return .perl negated c

def escape : Parser Tree := do
  skip
  let c ← peekOr .escapeUnfinished
  if c.isDigit then fail .backreference
  match c with
  | 'x' => return .literal (← hexLiteral 2)
  | 'u' => return .literal (← hexLiteral 4)
  | 'U' => return .literal (← hexLiteral 8)
  | 'p' => return .property false (← query)
  | 'P' => return .property true (← query)
  | 'd' => perlClass false .digit
  | 'D' => perlClass true .digit
  | 's' => perlClass false .space
  | 'S' => perlClass true .space
  | 'w' => perlClass false .word
  | 'W' => perlClass true .word
  | _ => letterEscape c

/-! ## Brackets -/

/-- An open bracket: what has been read of it, last first, and the set and operation before. -/
structure ClassLevel where
  negated : Bool
  left : Option (SetOp × ClassItem)
  items : List ClassItem

namespace ClassLevel

/-- What has been read, as one item. -/
def item (l : ClassLevel) : ClassItem :=
  let right := match l.items with
    | [i] => i
    | is => .union is.reverse
  match l.left with
  | some (o, left) => .op o left right
  | none => right

def push (l : ClassLevel) (i : ClassItem) : ClassLevel := { l with items := i :: l.items }

def combine (l : ClassLevel) (o : SetOp) : ClassLevel :=
  { l with left := some (o, l.item), items := [] }

end ClassLevel

/-- An opening bracket: hyphens, or else a closing bracket, stand for themselves at the front. -/
def openClass : Parser ClassLevel := do
  advance
  let mut negated := false
  if (← peekOr .classUnclosed) = '^' then
    negated := true
    advance
  let hyphens ← charsWhile (· = '-')
  let items := hyphens.map fun c => ClassItem.literal ⟨c, false⟩
  if (← peekOr .classUnclosed) = ']' ∧ items = [] then
    advance
    let _ ← peekOr .classUnclosed
    return ⟨negated, none, [.literal ⟨']', false⟩]⟩
  else return ⟨negated, none, items⟩

def AsciiClass.ofName? : String → Option AsciiClass
  | "alnum" => some .alnum
  | "alpha" => some .alpha
  | "ascii" => some .ascii
  | "blank" => some .blank
  | "cntrl" => some .cntrl
  | "digit" => some .digit
  | "graph" => some .graph
  | "lower" => some .lower
  | "print" => some .print
  | "punct" => some .punct
  | "space" => some .space
  | "upper" => some .upper
  | "word" => some .word
  | "xdigit" => some .xdigit
  | _ => none

/-- A named class such as `[:alpha:]`; anything else is left alone. -/
def asciiClass? : Parser (Option ClassItem) := do
  let s ← get
  if !(← accept "[:") then return none
  let negated ← accept "^"
  let t ← get
  let (name, rest) := t.rest.span (· ≠ ':')
  set { t with rest := rest }
  let closed ← accept ":]"
  match closed, AsciiClass.ofName? (String.ofList name) with
  | true, some c => return some (.ascii negated c)
  | _, _ =>
    set s
    return none

def classAtom : Parser Tree := do
  match ← peek? with
  | some '\\' => escape
  | some c =>
    skip
    return .literal ⟨c, false⟩
  | none => fail .classUnclosed

def ClassItem.ofTree : Tree → Parser ClassItem
  | .literal l => return .literal l
  | .perl n c => return .perl n c
  | .property n q => return .property n q
  | _ => fail .classEscape

def boundary : Tree → Parser Literal
  | .literal l => return l
  | _ => fail .classRangeBoundary

def classRange : Parser ClassItem := do
  let first ← classAtom
  skipSpace
  let c ← peekOr .classUnclosed
  let beyond ← peekBeyondSpace?
  if c ≠ '-' ∨ beyond = some ']' ∨ beyond = some '-' then ClassItem.ofTree first
  else
    advance
    let last ← classAtom
    let first ← boundary first
    let last ← boundary last
    if last.char < first.char then fail .classRangeOrder
    return .range first last

/-- Either what is still open, or the whole class. -/
abbrev ClassStep := (ClassLevel × List ClassLevel) ⊕ Tree

def classStep (level : ClassLevel) (outer : List ClassLevel) : Parser ClassStep := do
  skipSpace
  let c ← peekOr .classUnclosed
  let second ← peekSecond?
  if c = '[' then
    match ← asciiClass? with
    | some i => return .inl (level.push i, outer)
    | none => return .inl (← openClass, level :: outer)
  else if c = ']' then
    skip
    match outer with
    | [] => return .inr (.bracketed level.negated level.item)
    | l :: ls => return .inl (l.push (.bracketed level.negated level.item), ls)
  else if c = '&' ∧ second = some '&' then
    skip
    skip
    return .inl (level.combine .intersection, outer)
  else if c = '-' ∧ second = some '-' then
    skip
    skip
    return .inl (level.combine .difference, outer)
  else if c = '~' ∧ second = some '~' then
    skip
    skip
    return .inl (level.combine .symmetricDifference, outer)
  else return .inl (level.push (← classRange), outer)

/-- Every step passes over a character, so that as many steps as there are characters do. -/
def classLoop : Nat → ClassLevel → List ClassLevel → Parser Tree
  | 0, _, _ => fail .classUnclosed
  | n + 1, level, outer => do
    match ← classStep level outer with
    | .inl (level, outer) => classLoop n level outer
    | .inr tree => return tree

def bracketed : Parser Tree := do
  let n := (← get).rest.length
  classLoop n (← openClass) []

/-! ## Groups -/

def Flag.ofChar? : Char → Option Flag
  | 'i' => some .caseInsensitive
  | 'm' => some .multiLine
  | 's' => some .dotAll
  | 'U' => some .swapGreed
  | 'u' => some .unicode
  | 'R' => some .crlf
  | 'x' => some .spaced
  | _ => none

/-- The flags up to a colon or a closing parenthesis. After a hyphen flags are switched off. -/
def switches (on : Bool) (last : Option Char) (seen : Switches) :
    List Char → Except Error (Switches × List Char)
  | [] => throw .flagUnfinished
  | c :: cs =>
    if c = ':' ∨ c = ')' then
      if last = some '-' then throw .flagDanglingNegation else return (seen.reverse, c :: cs)
    else if c = '-' then
      if on then switches false (some c) seen cs else throw .flagRepeatedNegation
    else
      match Flag.ofChar? c with
      | none => throw .flagUnknown
      | some f =>
        if seen.any (·.1 = f) then throw .flagDuplicate
        else switches on (some c) ((f, on) :: seen) cs

def isNameChar (first : Bool) (c : Char) : Bool :=
  c == '_' || CharSet.nameLetter.contains c.toNat ||
    (!first && (c == '.' || c == '[' || c == ']' || CharSet.nameDigit.contains c.toNat))

def groupName (first : Bool) : List Char → Except Error (List Char × List Char)
  | [] => throw .nameUnclosed
  | c :: cs =>
    if c = '>' then return ([], cs)
    else if isNameChar first c then do
      let (name, rest) ← groupName false cs
      return (c :: name, rest)
    else throw .nameCharacter

/-- What a parenthesis opens: a group, or switches for what follows. -/
inductive Opening where
  | group (s : Switches)
  | switches (s : Switches)

def opening : Parser Opening := do
  advance
  for word in ["?=", "?!", "?<=", "?<!"] do
    if ← accept word then fail .lookAround
  if ← accept "?P<" then named
  else if ← accept "?<" then named
  else if ← accept "?" then
    let s ← get
    if s.rest = [] then fail .groupUnclosed
    let (flags, rest) ← switches true none [] s.rest
    set { s with rest := rest.tail }
    if rest.head? = some ')' then
      if flags = [] then fail .repetitionOfNothing
      return .switches flags
    else return .group flags
  else return .group []
where
  named : Parser Opening := do
    let s ← get
    let (name, rest) ← groupName true s.rest
    if name = [] then fail .nameEmpty
    if s.names.contains name then fail .nameDuplicate
    set { s with rest := rest, names := name :: s.names }
    return .group []

/-! ## Repetition -/

def decimal? : Parser (Except Error Nat) := do
  modify fun s => { s with rest := s.rest.dropWhile (CharSet.whiteSpace.contains ·.toNat) }
  let ds ← charsWhile Char.isDigit
  let _ ← charsWhile (CharSet.whiteSpace.contains ·.toNat)
  if ds = [] then return .error .repetitionNumber
  else if decimalValue ds < UInt32.size then return .ok (decimalValue ds)
  else return .error .decimalTooLarge

/-- The bounds of a counted repetition, in braces. -/
def counts : Parser (Nat × Option Nat) := do
  advance
  let _ ← peekOr .repetitionUnclosed
  let least ← decimal?
  let c ← peekOr .repetitionUnclosed
  let bounds ← if c = ',' then do
      advance
      if (← peekOr .repetitionUnclosed) = '\x7d' then pure (← least, none)
      else
        let least ← least
        pure (least, some (← (← decimal?)))
    else do
      let n ← least
      pure (n, some n)
  if (← peekOr .repetitionUnclosed) ≠ '\x7d' then fail .repetitionUnclosed
  advance
  if (← peek?) = some '?' then skip
  if bounds.2.any (· < bounds.1) then fail .repetitionOrder
  return bounds

/-! ## Patterns -/

/-- An open group: its switches, whether space was passed over before it, the alternatives
and the parts of the last one that have been read, each last first. -/
structure Level where
  switches : Switches
  spaced : Bool
  branches : List Tree
  items : List Tree

namespace Level

def branch (l : Level) : Tree :=
  match l.items with
  | [] => .empty
  | [t] => t
  | ts => .concat ts.reverse

/-- What has been read, as one tree. -/
def tree (l : Level) : Tree :=
  match l.branches with
  | [] => l.branch
  | ts => .alternation (l.branch :: ts).reverse

def push (l : Level) (t : Tree) : Level := { l with items := t :: l.items }

/-- Repeats the last part. -/
def repeatLast (l : Level) (bounds : Nat × Option Nat) : Parser Level :=
  match l.items with
  | [] | .switches _ :: _ => fail .repetitionOfNothing
  | t :: ts => return { l with items := .repetition t bounds.1 bounds.2 :: ts }

end Level

def uncounted (l : Level) (bounds : Nat × Option Nat) : Parser Level := do
  let l ← l.repeatLast bounds
  skip
  if (← peek?) = some '?' then skip
  return l

/-- Reads the next part of a pattern, which is not at its end. -/
def step (level : Level) (outer : List Level) (c : Char) : Parser (Level × List Level) := do
  match c with
  | '(' =>
    let before := (← get).spaced
    match ← opening with
    | .switches s =>
      for (f, on) in s do
        if f = .spaced then modify ({ · with spaced := on })
      return (level.push (.switches s), outer)
    | .group s =>
      for (f, on) in s do
        if f = .spaced then modify ({ · with spaced := on })
      return (⟨s, before, [], []⟩, level :: outer)
  | ')' =>
    match outer with
    | [] => fail .groupUnopened
    | l :: ls =>
      modify ({ · with spaced := level.spaced })
      skip
      return (l.push (.group level.switches level.tree), ls)
  | '|' =>
    skip
    return ({ level with branches := level.branch :: level.branches, items := [] }, outer)
  | '[' => return (level.push (← bracketed), outer)
  | '?' => return (← uncounted level (0, some 1), outer)
  | '*' => return (← uncounted level (0, none), outer)
  | '+' => return (← uncounted level (1, none), outer)
  | '\x7b' =>
    let _ ← level.repeatLast (0, none)
    return (← level.repeatLast (← counts), outer)
  | '\\' => return (level.push (← escape), outer)
  | '.' =>
    skip
    return (level.push .dot, outer)
  | '^' =>
    skip
    return (level.push (.assertion .lineStart), outer)
  | '$' =>
    skip
    return (level.push (.assertion .lineEnd), outer)
  | c =>
    skip
    return (level.push (.literal ⟨c, false⟩), outer)

/-- The end of a pattern, where no group may be open. -/
def finish (level : Level) (outer : List Level) : Parser Tree :=
  if outer.isEmpty then return level.tree else fail .groupUnclosed

/-- Every step passes over a character, so that as many steps as there are characters do. -/
def loop : Nat → Level → List Level → Parser Tree
  | 0, level, outer => finish level outer
  | n + 1, level, outer => do
    skipSpace
    match ← peek? with
    | some c =>
      let (level, outer) ← step level outer c
      loop n level outer
    | none => finish level outer

/-- Patterns nest at most so deep. -/
def nestLimit : Nat := 250

/-- The parts of a pattern. -/
def Tree.read (text : List Char) : Except Error Tree := do
  let (tree, _) ← (loop text.length ⟨[], false, [], []⟩ []).run ⟨text, false, []⟩
  if nestLimit < tree.depth then throw (.tooDeep nestLimit)
  return tree

end Viewport.Pattern
