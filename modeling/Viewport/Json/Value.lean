import Viewport.Json.Draft

/-!
# JSON values

Values are taken from drafts, at most so deep, and written without blanks.
-/

namespace Viewport.Json

inductive Value where
  | null
  | bool (b : Bool)
  | number (n : Number)
  | string (s : String)
  | list (items : List Value)
  | object (members : List (String × Value))
deriving Repr

/-- Less than so many lists and objects may be open at once. -/
def depthLimit : Nat := 128

/-- How many may be opened inside one that is open. -/
def innerRoom : Nat := depthLimit - 2

def Number.found : Number → Found
  | .integer i => .integer i
  | .float x => .float x

def Value.found : Value → Found
  | .null => .null
  | .bool b => .bool b
  | .number n => n.found
  | .string s => .string s
  | .list _ => .list
  | .object _ => .object

abbrev Result (α : Type) := Except Error α

namespace Value

/-- The string that a value is. -/
def asString : Value → Result String
  | .string s => .ok s
  | v => .error (.wrongType v.found "a string")

/-- The truth value that a value is. -/
def asBool : Value → Result Bool
  | .bool b => .ok b
  | v => .error (.wrongType v.found "a boolean")

end Value

/-- What has been taken of a list or an object, unless it breaks off. -/
def failAt {α : Type} (b : Option Break) (a : α) : Result α :=
  match b with
  | some b => .error (.fault b.read)
  | none => .ok a

def wholeNumber : Option Number → Result Number
  | some n => .ok n
  | none => .error (.fault .numberTooLarge)

def wholeString : Except Fault String → Result String
  | .ok s => .ok s
  | .error f => .error (.fault f)

/-- Steps into a list or an object if there is room for it. -/
def enter {α : Type} (room : Nat) (inside : Nat → Result α) : Result α :=
  match room with
  | 0 => .error (.fault .tooDeep)
  | room + 1 => inside room

namespace Draft

mutual

/-- The value of a draft in which at most `room` lists and objects are open at once. -/
def value (room : Nat) : Draft → Result Value
  | .null => .ok .null
  | .bool b => .ok (.bool b)
  | .number n => (wholeNumber n).map .number
  | .string s => (wholeString s).map .string
  | .list items b => enter room fun room => do failAt b (.list (← values room items))
  | .object members b => enter room fun room => do failAt b (.object (← memberValues room members))
  | .broken b => .error (.fault b.read)

def values (room : Nat) : List Draft → Result (List Value)
  | [] => .ok []
  | d :: ds => do
    let v ← value room d
    let vs ← values room ds
    .ok (v :: vs)

def memberValues (room : Nat) : List (Except Fault String × Draft) → Result (List (String × Value))
  | [] => .ok []
  | (k, d) :: ms => do
    let k ← wholeString k
    let v ← value room d
    let vs ← memberValues room ms
    .ok ((k, v) :: vs)

end

mutual

/-- Passes over a draft, with a look at its shape only. -/
def skip : Draft → Result Unit
  | .list items b => do
    skipAll items
    match b with
    | some b => .error (.fault b.skipped)
    | none => .ok ()
  | .object members b => do
    skipMembers members
    match b with
    | some b => .error (.fault b.skipped)
    | none => .ok ()
  | .broken b => .error (.fault b.skipped)
  | _ => .ok ()

def skipAll : List Draft → Result Unit
  | [] => .ok ()
  | d :: ds => do
    skip d
    skipAll ds

def skipMembers : List (Except Fault String × Draft) → Result Unit
  | [] => .ok ()
  | (_, d) :: ms => do
    skip d
    skipMembers ms

end

/-- What a draft holds where something else is wanted. A list or an object is not looked into. -/
def found : Draft → Result Found
  | .null => .ok .null
  | .bool b => .ok (.bool b)
  | .number n => (wholeNumber n).map Number.found
  | .string s => (wholeString s).map .string
  | .list _ _ => .ok .list
  | .object _ _ => .ok .object
  | .broken b => .error (.fault b.read)

/-- Fails because of what a draft holds. -/
def refuse {α : Type} (d : Draft) (wanted : String) : Result α := do
  .error (.wrongType (← d.found) wanted)

end Draft

/-- The end of a list all items of which have been taken: nothing may follow but its closing. -/
def endOfList (rest : List Draft) (b : Option Break) : Result Unit :=
  match rest, b with
  | _ :: _, _ => .error (.fault .trailingCharacters)
  | [], none => .ok ()
  | [], some b =>
    if b.read = .noListEnd then .error (.fault .trailingCharacters) else .error (.fault b.read)

/-- Takes a value from the whole of a text. -/
def Reading.take {α : Type} (r : Reading) (take : Draft → Result α) : Result α := do
  let a ← take r.draft
  if r.trailing then .error (.fault .trailingCharacters) else .ok a

/-! ## Order of members -/

/-- Puts a member in its place among members in the order of their keys, instead of one that
has the same key. -/
def putMember (k : String) (v : Value) : List (String × Value) → List (String × Value)
  | [] => [(k, v)]
  | (l, w) :: ms =>
    if k < l then (k, v) :: (l, w) :: ms
    else if k = l then (k, v) :: ms
    else (l, w) :: putMember k v ms

namespace Value

mutual

/-- The value with members in the order of their keys; the last of several of one key stays. -/
def sorted : Value → Value
  | .list items => .list (sortedAll items)
  | .object members => .object ((sortedMembers members).foldl (fun ms m => putMember m.1 m.2 ms) [])
  | v => v

def sortedAll : List Value → List Value
  | [] => []
  | v :: vs => v.sorted :: sortedAll vs

def sortedMembers : List (String × Value) → List (String × Value)
  | [] => []
  | (k, v) :: ms => (k, v.sorted) :: sortedMembers ms

end

end Value

/-! ## Writing -/

/-- A character of a string. Quotation marks, backslashes and control characters are escaped. -/
def escapeChar (c : Char) : List Char :=
  match c with
  | '"' => "\\\"".toList
  | '\\' => "\\\\".toList
  | '\x08' => "\\b".toList
  | '\x0c' => "\\f".toList
  | '\n' => "\\n".toList
  | '\r' => "\\r".toList
  | '\t' => "\\t".toList
  | _ =>
    if c.toNat < 0x20 then
      "\\u00".toList ++ [Nat.digitChar (c.toNat / 16), Nat.digitChar (c.toNat % 16)]
    else [c]

def writeString (s : String) : List Char :=
  '"' :: s.toList.flatMap escapeChar ++ ['"']

def Number.write : Number → List Char
  | .integer i => (toString i).toList
  | .float x => x.format floatLayout

namespace Value

mutual

/-- The text of a value without blanks. -/
def write : Value → List Char
  | .null => "null".toList
  | .bool b => (toString b).toList
  | .number n => n.write
  | .string s => writeString s
  | .list items => '[' :: writeItems items ++ [']']
  | .object members => '\x7b' :: writeMembers members ++ ['\x7d']

def writeItems : List Value → List Char
  | [] => []
  | [v] => v.write
  | v :: vs => v.write ++ ',' :: writeItems vs

def writeMembers : List (String × Value) → List Char
  | [] => []
  | [(k, v)] => writeString k ++ ':' :: v.write
  | (k, v) :: ms => writeString k ++ ':' :: v.write ++ ',' :: writeMembers ms

end

def text (v : Value) : String := String.ofList v.write

end Value

end Viewport.Json
