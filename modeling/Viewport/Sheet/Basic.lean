/-!
# Stylesheets

A stylesheet is a list of nodes in document order. Rules and at-rules hold further nodes.
-/

namespace Viewport

structure Declaration where
  property : String
  value : String
  important : Bool := false
deriving DecidableEq, Repr, Inhabited

inductive Node where
  | rule (selector : String) (nodes : List Node)
  /-- The parameters are the text between the name and the block. -/
  | atRule (name params : String) (nodes : List Node)
  | declaration (d : Declaration)
  /-- The text is what stands between the delimiters. -/
  | comment (text : String)
deriving Repr, Inhabited

mutual

def Node.decEq : (a b : Node) → Decidable (a = b)
  | .rule s ns, .rule t ms =>
    if h : s = t then
      match Node.decEqAll ns ms with
      | .isTrue h2 => .isTrue (by rw [h, h2])
      | .isFalse h2 => .isFalse (by simp [h2])
    else .isFalse (by simp [h])
  | .atRule n p ns, .atRule k q ms =>
    if h : n = k ∧ p = q then
      match Node.decEqAll ns ms with
      | .isTrue h2 => .isTrue (by rw [h.1, h.2, h2])
      | .isFalse h2 => .isFalse (by simp [h2])
    else .isFalse (by simp only [Node.atRule.injEq, not_and] at *; grind)
  | .declaration d, .declaration e =>
    if h : d = e then .isTrue (by rw [h]) else .isFalse (by simp [h])
  | .comment t, .comment u => if h : t = u then .isTrue (by rw [h]) else .isFalse (by simp [h])
  | .rule _ _, .atRule _ _ _ | .rule _ _, .declaration _ | .rule _ _, .comment _
  | .atRule _ _ _, .rule _ _ | .atRule _ _ _, .declaration _ | .atRule _ _ _, .comment _
  | .declaration _, .rule _ _ | .declaration _, .atRule _ _ _ | .declaration _, .comment _
  | .comment _, .rule _ _ | .comment _, .atRule _ _ _ | .comment _, .declaration _ =>
    .isFalse (by simp)

def Node.decEqAll : (as bs : List Node) → Decidable (as = bs)
  | [], [] => .isTrue rfl
  | a :: as, b :: bs =>
    match Node.decEq a b, Node.decEqAll as bs with
    | .isTrue h, .isTrue h2 => .isTrue (by rw [h, h2])
    | .isFalse h, _ => .isFalse (by simp [h])
    | _, .isFalse h => .isFalse (by simp [h])
  | [], _ :: _ | _ :: _, [] => .isFalse (by simp)

end

instance : DecidableEq Node := Node.decEq

structure Sheet where
  nodes : List Node
deriving DecidableEq, Repr, Inhabited

namespace Node

def declaration? : Node → Option Declaration
  | .declaration d => some d
  | _ => none

def comment? : Node → Option String
  | .comment t => some t
  | _ => none

/-- The nodes inside a rule or an at-rule. -/
def children? : Node → Option (List Node)
  | .rule _ ns | .atRule _ _ ns => some ns
  | _ => none

/-- The nodes with one more at the end of what a path of places leads to. -/
def appendAt? (added : Node) : (path : List Nat) → List Node → Option (List Node)
  | [], ns => some (ns ++ [added])
  | i :: path, ns => do
    let node ← ns[i]?
    let node ← match node with
      | .rule s inner => (appendAt? added path inner).map (.rule s)
      | .atRule n p inner => (appendAt? added path inner).map (.atRule n p)
      | _ => none
    return ns.set i node

end Node

namespace Sheet

def appendAt? (added : Node) (path : List Nat) (s : Sheet) : Option Sheet :=
  (Node.appendAt? added path s.nodes).map (⟨·⟩)

end Sheet

end Viewport
