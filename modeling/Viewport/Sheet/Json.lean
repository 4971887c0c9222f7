import Viewport.Json.Value
import Viewport.Sheet.Basic

/-!
# Stylesheets as JSON

A node is an object that a member `type` tells the kind of, or a list of the kind and the fields
in order. Fields at the end may be left out where they have a default. A node is read whole, for
what breaks the rules of JSON in it, before its fields are taken; so are the nodes in it.
-/

namespace Viewport

open Json

inductive NodeKind where
  | rule
  | atRule
  | declaration
  | comment
deriving DecidableEq, Repr

inductive NodeField where
  | selector
  | name
  | params
  | nodes
  | property
  | value
  | important
  | text
deriving DecidableEq, Repr

namespace NodeField

def key : NodeField → String
  | .selector => "selector"
  | .name => "name"
  | .params => "params"
  | .nodes => "nodes"
  | .property => "prop"
  | .value => "value"
  | .important => "important"
  | .text => "text"

end NodeField

namespace NodeKind

def all : List NodeKind := [.rule, .atRule, .declaration, .comment]

def tag : NodeKind → String
  | .rule => "rule"
  | .atRule => "atrule"
  | .declaration => "decl"
  | .comment => "comment"

def fields : NodeKind → List NodeField
  | .rule => [.selector, .nodes]
  | .atRule => [.name, .params, .nodes]
  | .declaration => [.property, .value, .important]
  | .comment => [.text]

/-- The word for the kind in messages. -/
def word : NodeKind → String
  | .rule => "Rule"
  | .atRule => "AtRule"
  | .declaration => "Declaration"
  | .comment => "Comment"

def elements (n : Nat) : String := toString n ++ if n = 1 then " element" else " elements"

/-- What a list of the fields has to be. -/
def whole (k : NodeKind) : String := "struct " ++ k.word ++ " with " ++ elements k.fields.length

def ofTag (tag : String) : Result NodeKind :=
  match all.find? (·.tag = tag) with
  | some k => .ok k
  | none => .error (.unknownVariant tag (all.map NodeKind.tag))

def wanted : String := "variant identifier"

/-- The kind that a tag names as it is met in the text. -/
def ofDraft (d : Draft) : Result NodeKind :=
  match d with
  | .string (.ok tag) => ofTag tag
  | d => d.refuse wanted

/-- The kind that a tag names once it has been read. Then it may also be the place of the kind
among all of them. -/
def ofValue : Value → Result NodeKind
  | .string tag => ofTag tag
  | .number (.integer i) =>
    if i < 0 then .error (.wrongType (.integer i) wanted)
    else match all[i.toNat]? with
      | some k => .ok k
      | none => .error (.outOfRange (.integer i) "variant index 0 <= i < 4")
  | v => .error (.wrongType v.found wanted)

end NodeKind

/-- The fields of a node that have been taken so far. -/
structure NodeParts where
  selector : Option String := none
  name : Option String := none
  params : Option String := none
  nodes : Option (List Node) := none
  property : Option String := none
  value : Option String := none
  important : Option Bool := none
  text : Option String := none

namespace NodeParts

def has (p : NodeParts) : NodeField → Bool
  | .selector => p.selector.isSome
  | .name => p.name.isSome
  | .params => p.params.isSome
  | .nodes => p.nodes.isSome
  | .property => p.property.isSome
  | .value => p.value.isSome
  | .important => p.important.isSome
  | .text => p.text.isSome

/-- Takes a field that holds no nodes. -/
def take (p : NodeParts) (f : NodeField) (v : Value) : Result NodeParts :=
  match f with
  | .selector => v.asString.map fun x => { p with selector := x }
  | .name => v.asString.map fun x => { p with name := x }
  | .params => v.asString.map fun x => { p with params := x }
  | .property => v.asString.map fun x => { p with property := x }
  | .value => v.asString.map fun x => { p with value := x }
  | .important => v.asBool.map fun x => { p with important := x }
  | .text => v.asString.map fun x => { p with text := x }
  | .nodes => .ok p

/-- The node of a kind with these fields. -/
def node (p : NodeParts) (missing : NodeField → Error) (k : NodeKind) : Result Node :=
  let need (f : NodeField) (x : Option String) : Result String :=
    match x with
    | some s => .ok s
    | none => .error (missing f)
  match k with
  | .rule => do
    let selector ← need .selector p.selector
    return .rule selector (p.nodes.getD [])
  | .atRule => do
    let name ← need .name p.name
    return .atRule name (p.params.getD "") (p.nodes.getD [])
  | .declaration => do
    let property ← need .property p.property
    let value ← need .value p.value
    return .declaration ⟨property, value, p.important.getD false⟩
  | .comment => do
    let text ← need .text p.text
    return .comment text

/-- The node with the fields that the members of an object gave. -/
def nodeOfMembers (p : NodeParts) (k : NodeKind) : Result Node :=
  p.node (fun f => .missingField f.key) k

/-- The node with the fields that a list of so many gave. -/
def nodeOfItems (p : NodeParts) (k : NodeKind) (given : Nat) : Result Node :=
  p.node (fun _ => .wrongLength given k.whole) k

end NodeParts

namespace Node

def wanted : String := "internally tagged enum Node"

def tagKey : String := "type"

/-- The kind that the tag among the members of an object names. -/
def kindOf (found : Option NodeKind) : List (String × Value) → Result NodeKind
  | [] =>
    match found with
    | some k => .ok k
    | none => .error (.missingField tagKey)
  | (key, v) :: ms =>
    if key = tagKey then
      match found with
      | some _ => .error (.duplicateField tagKey)
      | none => do kindOf (some (← NodeKind.ofValue v)) ms
    else kindOf found ms

def fieldOf? (k : NodeKind) (key : String) : Option NodeField :=
  k.fields.find? (·.key = key)

/-- More items than there are fields. -/
def surplus {α : Type} (fields extra : Nat) : Result α :=
  .error (.wrongLength (fields + extra) (NodeKind.elements fields ++ " in sequence"))

mutual

/-- The node that a value holds. -/
def ofValue : Value → Result Node
  | .object members => do
    let k ← kindOf none members
    (← partsOfMembers k {} members).nodeOfMembers k
  | .list (tag :: items) => do
    let k ← NodeKind.ofValue tag
    (← partsOfItems {} k.fields.length k.fields items).nodeOfItems k items.length
  | .list [] => .error (.missingField tagKey)
  | v => .error (.wrongType v.found wanted)

def ofValues : List Value → Result (List Node)
  | [] => .ok []
  | v :: vs => do
    let n ← ofValue v
    let ns ← ofValues vs
    .ok (n :: ns)

/-- Takes the fields of a kind from the members of an object, none of them twice. -/
def partsOfMembers (k : NodeKind) (p : NodeParts) : List (String × Value) → Result NodeParts
  | [] => .ok p
  | (key, v) :: ms =>
    match if key = tagKey then none else fieldOf? k key with
    | none => partsOfMembers k p ms
    | some .nodes =>
      if p.has .nodes then .error (.duplicateField (NodeField.key .nodes))
      else match v with
        | .list items => do partsOfMembers k { p with nodes := some (← ofValues items) } ms
        | v => .error (.wrongType v.found "a sequence")
    | some f =>
      if p.has f then .error (.duplicateField f.key)
      else do partsOfMembers k (← p.take f v) ms

/-- Takes fields from items in order; `total` is the number of fields there are. -/
def partsOfItems (p : NodeParts) (total : Nat) : List NodeField → List Value → Result NodeParts
  | _, [] => .ok p
  | [], _ :: vs => surplus total (vs.length + 1)
  | .nodes :: fs, .list items :: vs => do
    partsOfItems { p with nodes := some (← ofValues items) } total fs vs
  | .nodes :: _, v :: _ => .error (.wrongType v.found "a sequence")
  | f :: fs, v :: vs => do partsOfItems (← p.take f v) total fs vs

end

/-- Reads the members of a node as they are met: the tag at once, all else as values. -/
def readMembers (room : Nat) (kind : Option NodeKind) :
    List (Except Fault String × Draft) → Result (Option NodeKind × List (String × Value))
  | [] => .ok (kind, [])
  | (key, d) :: ms => do
    let key ← wholeString key
    if key = tagKey then
      if kind.isSome then throw (.duplicateField tagKey)
      let k ← NodeKind.ofDraft d
      readMembers room (some k) ms
    else
      let v ← d.value room
      let (kind, rest) ← readMembers room kind ms
      return (kind, (key, v) :: rest)

/-- The node that a draft holds. -/
def ofDraft (room : Nat) : Draft → Result Node
  | .object members b => enter room fun room => do
    let (kind, members) ← readMembers room none members
    failAt b ()
    match kind with
    | none => throw (.missingField tagKey)
    | some k => (← partsOfMembers k {} members).nodeOfMembers k
  | .list (tag :: items) b => enter room fun room => do
    let k ← NodeKind.ofDraft tag
    let items ← Draft.values room items
    failAt b ()
    (← partsOfItems {} k.fields.length k.fields items).nodeOfItems k items.length
  | .list [] b => enter room fun _ => do
    failAt b ()
    throw (.missingField tagKey)
  | d => d.refuse wanted

def ofDrafts (room : Nat) : List Draft → Result (List Node)
  | [] => .ok []
  | d :: ds => do
    let n ← ofDraft room d
    let ns ← ofDrafts room ds
    .ok (n :: ns)

/-- The nodes of a stylesheet, inside which so many lists and objects may still be opened. -/
def listOfDraft (room : Nat) : Draft → Result (List Node)
  | .list items b => enter room fun room => do failAt b (← ofDrafts room items)
  | d => d.refuse "a sequence"

/-- The fields of a kind, with the tag before them. -/
def tagged (k : NodeKind) (fields : List (NodeField × Value)) : Value :=
  .object ((tagKey, .string k.tag) :: fields.map fun (f, v) => (f.key, v))

mutual

/-- A node as a value, with all the fields of its kind in order. -/
def toValue : Node → Value
  | .rule selector nodes =>
    tagged .rule [(.selector, .string selector), (.nodes, .list (toValues nodes))]
  | .atRule name params nodes =>
    tagged .atRule
      [(.name, .string name), (.params, .string params), (.nodes, .list (toValues nodes))]
  | .declaration d =>
    tagged .declaration
      [(.property, .string d.property), (.value, .string d.value), (.important, .bool d.important)]
  | .comment text => tagged .comment [(.text, .string text)]

def toValues : List Node → List Value
  | [] => []
  | n :: ns => toValue n :: toValues ns

end

end Node

namespace Sheet

def nodesKey : String := "nodes"

/-- Takes the nodes from the members of an object. Other members are passed over. -/
def nodesOfMembers (found : Option (List Node)) :
    List (Except Fault String × Draft) → Result (Option (List Node))
  | [] => .ok found
  | (key, d) :: ms => do
    let key ← wholeString key
    if key = nodesKey then
      if found.isSome then throw (.duplicateField nodesKey)
      let ns ← Node.listOfDraft innerRoom d
      nodesOfMembers (some ns) ms
    else
      d.skip
      nodesOfMembers found ms

def ofDraft : Draft → Result Sheet
  | .object members b => do
    let found ← nodesOfMembers none members
    failAt b ()
    match found with
    | some ns => return ⟨ns⟩
    | none => throw (.missingField nodesKey)
  | .list [] b => do
    failAt b ()
    throw (.wrongLength 0 "struct Stylesheet with 1 element")
  | .list (d :: rest) b => do
    let ns ← Node.listOfDraft innerRoom d
    endOfList rest b
    return ⟨ns⟩
  | d => d.refuse "struct Stylesheet"

/-- The stylesheet that a JSON text holds. -/
def ofJson (text : String) : Result Sheet := (Reading.of text.toList).take ofDraft

def toValue (s : Sheet) : Value := .object [(nodesKey, .list (Node.toValues s.nodes))]

/-- The JSON text of a stylesheet. -/
def toJson (s : Sheet) : String := s.toValue.text

end Sheet

end Viewport
