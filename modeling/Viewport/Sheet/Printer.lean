import Viewport.Sheet.Basic

/-!
# Printing a stylesheet

Each node takes a line, or the lines of a block, with two blanks for each block around it.
-/

namespace Viewport

def indent (depth : Nat) : String := String.ofList (List.replicate (2 * depth) ' ')

namespace Declaration

def text (d : Declaration) : String :=
  d.property ++ ": " ++ d.value ++ (if d.important then " !important" else "") ++ ";"

end Declaration

namespace Node

/-- The head of an at-rule. -/
def atRuleHead (name params : String) : String :=
  if params = "" then "@" ++ name else "@" ++ name ++ " " ++ params

mutual

/-- A rule always has a block, an at-rule only if there is something in it. -/
def lines (depth : Nat) : Node → List String
  | .rule selector nodes =>
    (indent depth ++ selector ++ " \x7b") :: linesOf (depth + 1) nodes ++ [indent depth ++ "\x7d"]
  | .atRule name params [] => [indent depth ++ atRuleHead name params ++ ";"]
  | .atRule name params (n :: ns) =>
    (indent depth ++ atRuleHead name params ++ " \x7b") ::
      (lines (depth + 1) n ++ linesOf (depth + 1) ns) ++ [indent depth ++ "\x7d"]
  | .declaration d => [indent depth ++ d.text]
  | .comment text => [indent depth ++ "/* " ++ text ++ " */"]

def linesOf (depth : Nat) : List Node → List String
  | [] => []
  | n :: ns => lines depth n ++ linesOf depth ns

end

end Node

namespace Sheet

def print (s : Sheet) : String :=
  String.join ((Node.linesOf 0 s.nodes).map (· ++ "\n"))

end Sheet

end Viewport
