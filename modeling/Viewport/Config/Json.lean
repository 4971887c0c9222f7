import Viewport.Config.Options

/-!
# Options from JSON

Options are the members of an object, under a current or a former name, or the items of a list
in the order of their declaration. A scalar option of the wrong type is left out with a warning;
a blacklist of the wrong shape is an error.
-/

namespace Viewport

open Json

inductive OptionName where
  | sourceUnit
  | viewportWidth
  | viewportUnit
  | precision
  | fontViewportUnit
  | propertyBlacklist
  | selectorBlacklist
  | minPixelValue
  | enableComment
  | disableComment
  | convertMediaQueries
deriving DecidableEq, Repr

namespace OptionName

def all : List OptionName :=
  [.sourceUnit, .viewportWidth, .viewportUnit, .precision, .fontViewportUnit, .propertyBlacklist,
   .selectorBlacklist, .minPixelValue, .enableComment, .disableComment, .convertMediaQueries]

def text : OptionName → String
  | .sourceUnit => "sourceUnit"
  | .viewportWidth => "viewportWidth"
  | .viewportUnit => "viewportUnit"
  | .precision => "precision"
  | .fontViewportUnit => "fontViewportUnit"
  | .propertyBlacklist => "propertyBlacklist"
  | .selectorBlacklist => "selectorBlacklist"
  | .minPixelValue => "minPixelValue"
  | .enableComment => "enableComment"
  | .disableComment => "disableComment"
  | .convertMediaQueries => "convertMediaQueries"

/-- The former name of an option. -/
def formerText? : OptionName → Option String
  | .sourceUnit => some "unitToConvert"
  | .precision => some "unitPrecision"
  | .selectorBlacklist => some "selectorBlackList"
  | .enableComment => some "enableConvertComment"
  | .disableComment => some "disableConvertComment"
  | .convertMediaQueries => some "mediaQuery"
  | _ => none

def ofText? (s : String) : Option OptionName :=
  all.find? fun n => n.text = s ∨ n.formerText? = some s

end OptionName

/-! ## Scalars -/

def floatOf : Value → Result Binary64
  | .number (.float x) => .ok x
  | .number (.integer i) => .ok (.ofInt i)
  | v => .error (.wrongType v.found "f64")

def countOf : Value → Result UInt32
  | .number (.integer i) =>
    if 0 ≤ i ∧ i < UInt32.size then .ok (.ofNat i.toNat)
    else .error (.outOfRange (.integer i) "u32")
  | v => .error (.wrongType v.found "u32")

/-- Puts a scalar option in its place. A null stands for none, and so does a value of the wrong
type, with a warning. -/
def lenient {α : Type} (take : Value → Result α) (d : Draft) (put : Option α → Options) :
    Result (Options × List Event) := do
  let v ← d.value innerRoom
  match v, take v with
  | .null, _ => return (put none, [])
  | _, .ok a => return (put (some a), [])
  | v, .error e => return (put none, [.malformedOption v.sorted e])

/-! ## Blacklists -/

/-- A string, or an object with one pattern that is a string. -/
def entryOf : Value → Result EntrySpec
  | .string s => .ok (.substring s)
  | .object members =>
    match members.filter (·.1 = "pattern") with
    | [(_, .string s)] => .ok (.pattern s)
    | _ => .error (.noVariant "EntrySpec")
  | _ => .error (.noVariant "EntrySpec")

def entriesOf (room : Nat) : List Draft → Result (List EntrySpec)
  | [] => return []
  | d :: ds => do
    let e ← entryOf (← d.value room)
    let es ← entriesOf room ds
    return e :: es

def blacklistOf : Draft → Result (Option (List EntrySpec))
  | .null => return none
  | .list items b => do
    let es ← entriesOf (innerRoom - 1) items
    failAt b (some es)
  | d => d.refuse "a sequence"

/-! ## Options -/

namespace Options

/-- Takes an option from a draft. -/
def take (o : Options) (name : OptionName) (d : Draft) : Result (Options × List Event) :=
  match name with
  | .sourceUnit => lenient Value.asString d ({ o with sourceUnit := · })
  | .viewportWidth => lenient floatOf d ({ o with viewportWidth := · })
  | .viewportUnit => lenient Value.asString d ({ o with viewportUnit := · })
  | .precision => lenient countOf d ({ o with precision := · })
  | .fontViewportUnit => lenient Value.asString d ({ o with fontViewportUnit := · })
  | .propertyBlacklist => return ({ o with propertyBlacklist := ← blacklistOf d }, [])
  | .selectorBlacklist => return ({ o with selectorBlacklist := ← blacklistOf d }, [])
  | .minPixelValue => lenient floatOf d ({ o with minPixelValue := · })
  | .enableComment => lenient Value.asString d ({ o with enableComment := · })
  | .disableComment => lenient Value.asString d ({ o with disableComment := · })
  | .convertMediaQueries => lenient Value.asBool d ({ o with convertMediaQueries := · })

/-- Takes options from the members of an object, none of them twice. Other members are passed
over. -/
def ofMembers (seen : List OptionName) (o : Options) (log : List Event) :
    List (Except Fault String × Draft) → Result (Options × List Event)
  | [] => return (o, log)
  | (key, d) :: rest => do
    let key ← wholeString key
    match OptionName.ofText? key with
    | none =>
      d.skip
      ofMembers seen o log rest
    | some name =>
      if name ∈ seen then throw (.duplicateField name.text)
      let (o, warnings) ← o.take name d
      ofMembers (name :: seen) o (log ++ warnings) rest

/-- Takes options from items in order. Options that no item is left for are not given. -/
def ofItems (o : Options) (log : List Event) (b : Option Break) :
    List OptionName → List Draft → Result (Options × List Event)
  | [], rest => do
    endOfList rest b
    return (o, log)
  | _ :: _, [] => failAt b (o, log)
  | name :: names, d :: rest => do
    let (o, warnings) ← o.take name d
    ofItems o (log ++ warnings) b names rest

def ofDraft : Draft → Result (Options × List Event)
  | .object members b => do failAt b (← ofMembers [] {} [] members)
  | .list items b => ofItems {} [] b OptionName.all items
  | d => d.refuse "struct Options"

/-- The options that a JSON text holds, with the warnings on the way to them. -/
def ofJson (text : String) : Except ConfigError (Options × List Event) :=
  match (Reading.of text.toList).take ofDraft with
  | .ok r => .ok r
  | .error e => .error (.json e)

end Options

end Viewport
