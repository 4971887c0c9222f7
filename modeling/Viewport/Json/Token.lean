import Viewport.Json.Error
import Viewport.Json.Number
import Viewport.Text.Bytes

/-!
# JSON tokens

A text is cut into tokens up to the first place where it is no JSON whatever stands around it.
-/

namespace Viewport.Json

inductive Token where
  | openList
  | closeList
  | openObject
  | closeObject
  | comma
  | colon
  | null
  | bool (b : Bool)
  /-- No value stands for a number that is too large. -/
  | number (n : Option Number)
  /-- A string that is well formed but for a surrogate without its partner is a fault. -/
  | string (s : Except Fault String)
  /-- A string that breaks off. -/
  | brokenString (b : Break)
  /-- Anything else that begins no token or breaks off. -/
  | broken (b : Break)

def isBlank (c : Char) : Bool := c == ' ' || c == '\t' || c == '\n' || c == '\r'

/-! ## Strings -/

/-- The four hexadecimal digits of an escape. Too few bytes are the end of the string. -/
def hexEscape (cs : List Char) : Except Fault Nat :=
  let ds := cs.take 4
  if byteSize ds < 4 then .error .endInString
  else if ds.length = 4 ∧ ds.all isHexDigit then .ok (hexValue ds)
  else .error .badEscape

def isHighSurrogate (n : Nat) : Bool := 0xD800 ≤ n && n < 0xDC00
def isLowSurrogate (n : Nat) : Bool := 0xDC00 ≤ n && n < 0xE000

/-- The character that a letter stands for after a backslash. -/
def escapeOf? : Char → Option Char
  | '"' => some '"'
  | '\\' => some '\\'
  | '/' => some '/'
  | 'b' => some '\x08'
  | 'f' => some '\x0c'
  | 'n' => some '\n'
  | 'r' => some '\r'
  | 't' => some '\t'
  | _ => none

/-- What is known of a string so far: its characters, last first, a high surrogate that waits
for its partner, and the first of its faults that do not break it off. -/
structure StringState where
  chars : List Char
  high : Option Nat
  flaw : Option Fault

namespace StringState

def empty : StringState := ⟨[], none, none⟩

def push (s : StringState) (c : Char) : StringState := { s with chars := c :: s.chars }

def mark (s : StringState) (f : Fault) : StringState := { s with flaw := s.flaw <|> some f }

/-- Something other than the partner of a high surrogate comes. -/
def settle (s : StringState) : StringState :=
  match s.high with
  | some _ => { s.mark .unfinishedPair with high := none }
  | none => s

/-- A unit that is written by its code. -/
def unit (s : StringState) (n : Nat) : StringState :=
  match s.high with
  | some high =>
    let s := { s with high := none }
    if isLowSurrogate n then
      s.push (Char.ofNat (0x10000 + (high - 0xD800) * 0x400 + (n - 0xDC00)))
    else s.mark .loneSurrogate
  | none =>
    if isLowSurrogate n then s.mark .loneSurrogate
    else if isHighSurrogate n then { s with high := some n }
    else s.push (Char.ofNat n)

def brokenBy (s : StringState) (f : Fault) : Break := ⟨s.flaw.getD f, f⟩

def content (s : StringState) : Except Fault String :=
  match s.flaw with
  | some f => .error f
  | none => .ok (String.ofList s.chars.reverse)

end StringState

/-- The string that the text after a quotation mark begins, and what follows it. -/
def readString (s : StringState) : List Char → Except Break (Except Fault String × List Char)
  | [] => .error (s.brokenBy .endInString)
  | '"' :: cs => .ok (s.settle.content, cs)
  | ['\\'] => .error (s.brokenBy .endInString)
  | '\\' :: 'u' :: a :: b :: c :: d :: cs =>
    match hexEscape [a, b, c, d] with
    | .error f => .error (s.brokenBy f)
    | .ok n => readString (s.unit n) cs
  | '\\' :: 'u' :: cs =>
    match hexEscape cs with
    | .error f => .error (s.brokenBy f)
    | .ok _ => .error (s.brokenBy .badEscape)
  | '\\' :: c :: cs =>
    match escapeOf? c with
    | some e => readString (s.settle.push e) cs
    | none => .error (s.settle.brokenBy .badEscape)
  | c :: cs =>
    if c.toNat < 0x20 then .error (s.settle.brokenBy .controlCharacter)
    else readString (s.settle.push c) cs

/-! ## Numbers -/

/-- One digit or more; without one the number breaks off. -/
def readDigits (cs : List Char) : Except Break (List Char × List Char) :=
  match spanDigits cs with
  | ([], []) => .error ⟨.endInValue, .badNumber⟩
  | ([], _) => .error (.same .badNumber)
  | found => .ok found

/-- The digits before the point: a zero stands alone. -/
def readWhole (cs : List Char) : Except Break (List Char × List Char) := do
  let (ds, rest) ← readDigits cs
  if ds.head? = some '0' ∧ 1 < ds.length then .error (.same .badNumber) else .ok (ds, rest)

def readFraction : List Char → Except Break (List Char × List Char)
  | '.' :: cs => readDigits cs
  | cs => .ok ([], cs)

def readExponent : List Char → Except Break (Option (Bool × List Char) × List Char)
  | [] => .ok (none, [])
  | c :: cs =>
    if c = 'e' ∨ c = 'E' then do
      let (below, cs) := match cs with
        | '-' :: cs => (true, cs)
        | '+' :: cs => (false, cs)
        | cs => (false, cs)
      let (ds, rest) ← readDigits cs
      .ok (some (below, ds), rest)
    else .ok (none, c :: cs)

def readNumeral (negative : Bool) (cs : List Char) : Except Break (Numeral × List Char) := do
  let (whole, cs) ← readWhole cs
  let (fraction, cs) ← readFraction cs
  let (exponent, cs) ← readExponent cs
  .ok (⟨negative, whole, fraction, exponent⟩, cs)

/-! ## Tokens -/

/-- The rest of a word of which the first letter is known. -/
def readWord : List Char → List Char → Except Break (List Char)
  | [], cs => .ok cs
  | _ :: _, [] => .error (.same .endInValue)
  | w :: ws, c :: cs => if c = w then readWord ws cs else .error (.same .noIdent)

def wordToken (t : Token) (ws cs : List Char) : Token × List Char :=
  match readWord ws cs with
  | .ok rest => (t, rest)
  | .error b => (.broken b, [])

def numberToken (negative : Bool) (cs : List Char) : Token × List Char :=
  match readNumeral negative cs with
  | .ok (n, rest) => (.number n.value?, rest)
  | .error b => (.broken b, [])

/-- The token that begins with a character, and the text after it; nothing follows a break. -/
def readToken (c : Char) (cs : List Char) : Token × List Char :=
  match c with
  | '[' => (.openList, cs)
  | ']' => (.closeList, cs)
  | '\x7b' => (.openObject, cs)
  | '\x7d' => (.closeObject, cs)
  | ',' => (.comma, cs)
  | ':' => (.colon, cs)
  | 'n' => wordToken .null "ull".toList cs
  | 't' => wordToken (.bool true) "rue".toList cs
  | 'f' => wordToken (.bool false) "alse".toList cs
  | '-' => numberToken true cs
  | '"' =>
    match readString .empty cs with
    | .ok (s, rest) => (.string s, rest)
    | .error b => (.brokenString b, [])
  | _ => if c.isDigit then numberToken false (c :: cs) else (.broken (.same .noValue), [])

/-- The tokens of a text. The bound is its length. -/
def tokensUpTo : Nat → List Char → List Token
  | 0, _ => []
  | _ + 1, [] => []
  | n + 1, c :: cs =>
    if isBlank c then tokensUpTo n cs
    else
      let (t, rest) := readToken c cs
      t :: tokensUpTo n rest

def tokens (text : List Char) : List Token := tokensUpTo text.length text

end Viewport.Json
