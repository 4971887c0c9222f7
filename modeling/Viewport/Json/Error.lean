import Viewport.Binary64.Shortest
import Viewport.Text.Newcomer

/-!
# What can be wrong with a JSON text

A text can break the rules of JSON, which is a fault, or hold something other than is wanted.
-/

namespace Viewport.Json

/-- A breach of the rules of JSON. -/
inductive Fault where
  | endInValue
  | endInObject
  | endInList
  | endInString
  | noValue
  | noIdent
  | noColon
  | noListEnd
  | noObjectEnd
  | trailingComma
  | trailingCharacters
  | keyNotString
  | badNumber
  | numberTooLarge
  | badEscape
  | controlCharacter
  | unfinishedPair
  | loneSurrogate
  | tooDeep
deriving DecidableEq, Repr

def Fault.message : Fault → String
  | .endInValue => "EOF while parsing a value"
  | .endInObject => "EOF while parsing an object"
  | .endInList => "EOF while parsing a list"
  | .endInString => "EOF while parsing a string"
  | .noValue => "expected value"
  | .noIdent => "expected ident"
  | .noColon => "expected `:`"
  | .noListEnd => "expected `,` or `]`"
  | .noObjectEnd => "expected `,` or `\x7d`"
  | .trailingComma => "trailing comma"
  | .trailingCharacters => "trailing characters"
  | .keyNotString => "key must be a string"
  | .badNumber => "invalid number"
  | .numberTooLarge => "number out of range"
  | .badEscape => "invalid escape"
  | .controlCharacter => "control character (\\u0000-\\u001F) found while parsing a string"
  | .unfinishedPair => "unexpected end of hex escape"
  | .loneSurrogate => "lone leading surrogate in hex escape"
  | .tooDeep => "recursion limit exceeded"

/-- A fault as it is met by who reads a value and by who passes over it: the latter checks the
shape of the text only. -/
structure Break where
  read : Fault
  skipped : Fault
deriving DecidableEq, Repr

def Break.same (f : Fault) : Break := ⟨f, f⟩

/-- A value found where something else is wanted. -/
inductive Found where
  | null
  | bool (b : Bool)
  | integer (i : Int)
  | float (x : Binary64)
  | string (s : String)
  | list
  | object
deriving DecidableEq, Repr

/-- Numbers below `10 ^ (-5)` and from `10 ^ 16` on have an exponent, and whole numbers without
one end in a zero after the point. -/
def floatLayout : Binary64.Layout := ⟨.even, some (-5), some 16, ".0"⟩

/-- A character as it stands in a quoted message: what does not show on its own is written by its
code. -/
def quoteChar (c : Char) : List Char :=
  match c with
  | '\x00' => "\\0".toList
  | '\t' => "\\t".toList
  | '\r' => "\\r".toList
  | '\n' => "\\n".toList
  | '\\' => "\\\\".toList
  | '"' => "\\\"".toList
  | ' ' => [' ']
  | _ =>
    if CharSet.hidden.contains c.toNat then
      "\\u\x7b".toList ++ Nat.toDigits 16 c.toNat ++ ['\x7d']
    else [c]

def Found.message : Found → String
  | .null => "null"
  | .bool b => "boolean `" ++ toString b ++ "`"
  | .integer i => "integer `" ++ toString i ++ "`"
  | .float x => "floating point `" ++ String.ofList (x.format floatLayout) ++ "`"
  | .string s => "string \"" ++ String.ofList (s.toList.flatMap quoteChar) ++ "\""
  | .list => "sequence"
  | .object => "map"

/-- Why a JSON text does not hold what is wanted of it. -/
inductive Error where
  | fault (f : Fault)
  | wrongType (found : Found) (wanted : String)
  | outOfRange (found : Found) (wanted : String)
  | wrongLength (length : Nat) (wanted : String)
  | duplicateField (name : String)
  | missingField (name : String)
  | unknownVariant (name : String) (variants : List String)
  | noVariant (type : String)
deriving DecidableEq, Repr

def Error.message : Error → String
  | .fault f => f.message
  | .wrongType found wanted => "invalid type: " ++ found.message ++ ", expected " ++ wanted
  | .outOfRange found wanted => "invalid value: " ++ found.message ++ ", expected " ++ wanted
  | .wrongLength n wanted => "invalid length " ++ toString n ++ ", expected " ++ wanted
  | .duplicateField name => "duplicate field `" ++ name ++ "`"
  | .missingField name => "missing field `" ++ name ++ "`"
  | .unknownVariant name variants =>
    "unknown variant `" ++ name ++ "`, expected one of " ++
      String.intercalate ", " (variants.map fun v => "`" ++ v ++ "`")
  | .noVariant type => "data did not match any variant of untagged enum " ++ type

end Viewport.Json
