import Viewport.Config.Json
import Viewport.Length.Pattern
import Viewport.Sheet.Visit
import Viewport.Verdict

/-!
# The stage

A stage converts the lengths of a stylesheet: those of the declarations that its verdict is to
convert, and those of media queries if it is told to.
-/

namespace Viewport

/-- A configuration that a stage can run with. -/
structure Stage where
  config : Config
  unit_ne : config.sourceUnit ≠ ""

namespace Stage

/-- The stage of a configuration, unless there is nothing to look for or no pattern to look for it
by. -/
def ofConfig (c : Config) : Except ConfigError Stage :=
  if h : c.sourceUnit = "" then .error .emptySourceUnit
  else
    let text := lengthPattern c.sourceUnit.toList
    match Pattern.Expr.readIn { caseInsensitive := true } text with
    | .ok _ => .ok ⟨c, h⟩
    | .error e => .error (.invalidPattern .sourceUnit (String.ofList text) e)

def ofOptions (o : Options) : Except ConfigError Stage :=
  (Config.resolve o).1 >>= ofConfig

/-- A value with its lengths converted to a unit. -/
def convertValue (s : Stage) (target value : String) : String :=
  String.ofList
    (s.config.conversion.convertAll s.config.sourceUnit.toList target.toList value.toList)

/-- What is done to a declaration, and the event that tells of it. -/
def edit (s : Stage) (site : Site) : Edit × Event :=
  let d := site.declaration
  let verdict := s.config.verdict ⟨d.property, d.value, site.selector, site.trailingComment⟩
  match verdict.action with
  | .convert =>
    let value := s.convertValue (s.config.unitFor d.property) d.value
    (⟨{ d with value }, verdict.consumesComment⟩, .converted d.property d.value value)
  | .skip reason => (⟨d, verdict.consumesComment⟩, .skipped d.property reason)

/-- What a run keeps: its events, and how many declarations it has converted. -/
structure Log where
  events : List Event
  converted : Nat

namespace Log

def add (l : Log) (e : Event) : Log := { l with events := l.events ++ [e] }

/-- Adds the event of a declaration. -/
def count (l : Log) (e : Event) : Log :=
  match e with
  | .converted _ _ _ => { l.add e with converted := l.converted + 1 }
  | _ => l.add e

end Log

abbrev Run := StateM Log

def visitDeclaration (s : Stage) (site : Site) : Run Edit := do
  let (edit, event) := s.edit site
  modify (·.count event)
  return edit

def visitMedia (s : Stage) (params : String) : Run String := do
  if s.config.mentionsUnit params then
    let converted := s.convertValue s.config.viewportUnit params
    modify (·.add (.mediaConverted params converted))
    return converted
  else return params

def visitMediaQueries (s : Stage) (sheet : Sheet) : Run Sheet :=
  if s.config.convertMediaQueries then
    sheet.visitAtRules "media" fun _ params _ => s.visitMedia params
  else pure sheet

def run (s : Stage) (sheet : Sheet) : Run Sheet := do
  let sheet ← sheet.visitDeclarations s.visitDeclaration
  let sheet ← s.visitMediaQueries sheet
  modify fun l => l.add (.finished l.converted)
  return sheet

/-- The stylesheet with its lengths converted, and the events of the run. -/
def transform (s : Stage) (sheet : Sheet) : Sheet × List Event :=
  let (sheet, log) := (s.run sheet).run ⟨[], 0⟩
  (sheet, log.events)

end Stage

end Viewport
