import Viewport.Json.Token

/-!
# JSON texts as far as they go

A draft is the value a text holds, down to the place where the text breaks off. The breaks are
kept in it, so that whoever takes the value from the draft meets them where they stand.
-/

namespace Viewport.Json

inductive Draft where
  | null
  | bool (b : Bool)
  | number (n : Option Number)
  | string (s : Except Fault String)
  /-- The last item may be broken; the list itself may break off after it. -/
  | list (items : List Draft) (broken : Option Break)
  | object (members : List (Except Fault String × Draft)) (broken : Option Break)
  | broken (b : Break)

/-- A list or an object that is open, with what has been read of it, last first. -/
inductive Frame where
  | list (items : List Draft)
  | object (members : List (Except Fault String × Draft)) (key : Except Fault String)

/-- What may come next. -/
inductive Expecting where
  | value
  | firstItem
  | item
  | firstKey
  | key
  | colon
  | next
deriving DecidableEq, Repr

/-- How far a text has been read. -/
inductive Progress where
  | within (frames : List Frame) (expecting : Expecting)
  /-- The value is complete. -/
  | done (d : Draft)
  /-- Something follows the value. -/
  | beyond (d : Draft)
  | stopped (d : Draft)

namespace Frame

def close (broken : Option Break) : Frame → Draft
  | .list items => .list items.reverse broken
  | .object members _ => .object members.reverse broken

def add (d : Draft) : Frame → Frame
  | .list items => .list (d :: items)
  | .object members key => .object ((key, d) :: members) key

end Frame

namespace Progress

/-- A value inside frames that are closed around it. -/
def enclose (d : Draft) : List Frame → Draft
  | [] => d
  | f :: fs => enclose ((f.add d).close none) fs

/-- A complete value. -/
def place (d : Draft) : List Frame → Progress
  | [] => .done d
  | f :: fs => .within (f.add d :: fs) .next

/-- A break in place of a value. -/
def stopValue (b : Break) (frames : List Frame) : Progress :=
  .stopped (enclose (.broken b) frames)

/-- A break inside the innermost frame. -/
def stopFrame (b : Break) : List Frame → Progress
  | [] => .stopped (.broken b)
  | f :: fs => .stopped (enclose (f.close (some b)) fs)

/-- Closes the innermost frame. -/
def close : List Frame → Progress
  | [] => .stopped (.broken (.same .noValue))
  | f :: fs => place (f.close none) fs

/-- A token where a value may begin. -/
def value (frames : List Frame) : Token → Progress
  | .null => place .null frames
  | .bool b => place (.bool b) frames
  | .number n => place (.number n) frames
  | .string s => place (.string s) frames
  | .openList => .within (.list [] :: frames) .firstItem
  | .openObject => .within (.object [] (.ok "") :: frames) .firstKey
  | .broken b | .brokenString b => stopValue b frames
  | .closeList | .closeObject | .comma | .colon => stopValue (.same .noValue) frames

/-- A key of an object. -/
def key (frames : List Frame) : Token → Progress
  | .string s =>
    match frames with
    | .object members _ :: fs => .within (.object members s :: fs) .colon
    | fs => stopFrame (.same .keyNotString) fs
  | .brokenString b => stopFrame b frames
  | _ => stopFrame (.same .keyNotString) frames

/-- A token after a value inside a frame. -/
def next (frames : List Frame) (t : Token) : Progress :=
  match frames, t with
  | .list _ :: _, .comma => .within frames .item
  | .list _ :: _, .closeList => close frames
  | .list _ :: _, _ => stopFrame (.same .noListEnd) frames
  | .object _ _ :: _, .comma => .within frames .key
  | .object _ _ :: _, .closeObject => close frames
  | _, _ => stopFrame (.same .noObjectEnd) frames

def step : Progress → Token → Progress
  | .within frames expecting, t =>
    match expecting, t with
    | .firstItem, .closeList => close frames
    | .item, .closeList => stopFrame ⟨.trailingComma, .noValue⟩ frames
    | .value, _ | .firstItem, _ | .item, _ => value frames t
    | .firstKey, .closeObject => close frames
    | .key, .closeObject => stopFrame ⟨.trailingComma, .keyNotString⟩ frames
    | .firstKey, _ | .key, _ => key frames t
    | .colon, .colon => .within frames .value
    | .colon, _ => stopValue (.same .noColon) frames
    | .next, _ => next frames t
  | .done d, _ => .beyond d
  | p, _ => p

/-- The break that the end of the text is. -/
def finish : Progress → Progress
  | .within frames expecting =>
    match expecting, frames with
    | .value, _ | .item, _ => stopValue (.same .endInValue) frames
    | .firstItem, _ => stopFrame (.same .endInList) frames
    | .firstKey, _ => stopFrame (.same .endInObject) frames
    | .key, _ => stopFrame ⟨.endInValue, .endInObject⟩ frames
    | .colon, _ => stopValue (.same .endInObject) frames
    | .next, .list _ :: _ => stopFrame (.same .endInList) frames
    | .next, _ => stopFrame (.same .endInObject) frames
  | p => p

end Progress

/-- A draft, and whether something follows the value. -/
structure Reading where
  draft : Draft
  trailing : Bool

/-- Reads a text as far as it goes. -/
def Reading.of (text : List Char) : Reading :=
  match ((tokens text).foldl Progress.step (.within [] .value)).finish with
  | .done d | .stopped d => ⟨d, false⟩
  | .beyond d => ⟨d, true⟩
  | .within _ _ => ⟨.broken (.same .endInValue), false⟩

end Viewport.Json
