import Viewport.Sheet.Basic

/-!
# Visiting a stylesheet

The nodes are visited depth first in document order, with effects. Whoever visits a declaration
sees the sheet as it was, says what becomes of the declaration, and may detach the comment that
follows it. The nodes of a block are changed in place while they are visited, so a detached
comment is taken out of the list that the visit is going through.
-/

namespace Viewport

/-- Where a declaration stands. -/
structure Site where
  declaration : Declaration
  /-- The selector of the rule that directly holds the declaration. -/
  selector : Option String
  /-- The node right after the declaration. -/
  next : Option Node
deriving DecidableEq, Repr

/-- What becomes of a declaration, and whether the comment right after it is to be detached. -/
structure Edit where
  declaration : Declaration
  detach : Bool
deriving DecidableEq, Repr

namespace Site

/-- The text of the comment right after the declaration. -/
def trailingComment (s : Site) : Option String := s.next.bind Node.comment?

/-- Whether an edit takes the next node away: it has to be a comment. -/
def detaches (s : Site) (e : Edit) : Bool := e.detach && s.trailingComment.isSome

theorem trailingComment_eq_some_iff {s : Site} {t : String} :
    s.trailingComment = some t ↔ s.next = some (.comment t) := by
  obtain ⟨d, selector, _ | n⟩ := s
  · simp [trailingComment]
  · cases n <;> simp [trailingComment, Node.comment?]

/-- A comment is taken out of a block if the edit says so and there is one. -/
theorem detaches_iff {s : Site} {e : Edit} :
    s.detaches e = true ↔ e.detach = true ∧ ∃ t, s.next = some (.comment t) := by
  simp [detaches, Option.isSome_iff_exists, trailingComment_eq_some_iff]

end Site

/-- Equality up to the case of ASCII letters. -/
def sameAsciiCase (s t : String) : Bool :=
  s.toList.map Char.toLower == t.toList.map Char.toLower

section Rest

/-! The nodes that the visit at a place has not come to yet are left alone by what it does there. -/

variable {nodes : Array Node} {i : Nat}

theorem drop_eq_getElem_cons (h : i < nodes.size) :
    nodes.toList.drop i = nodes[i] :: nodes.toList.drop (i + 1) := by
  rw [List.drop_eq_getElem_cons (by simpa using h), Array.getElem_toList]

/-- What stands behind a node is not changed with it. -/
theorem drop_set (h : i < nodes.size) (n : Node) :
    (nodes.set i n).toList.drop (i + 1) = nodes.toList.drop (i + 1) := by
  rw [Array.toList_set, List.drop_set_of_lt (Nat.lt_succ_self i)]

/-- What stands behind a node moves up as it is erased. -/
theorem drop_eraseIdx (h : i < nodes.size) :
    (nodes.eraseIdx i).toList.drop i = nodes.toList.drop (i + 1) := by
  have hi : (nodes.toList.take i).length = i := List.length_take_of_le (Nat.le_of_lt h)
  rw [Array.toList_eraseIdx, List.eraseIdx_eq_take_drop_succ]
  exact List.drop_left' hi

/-- The place of a detached comment is a place of the list. -/
theorem lt_size_of_detaches {d : Declaration} {selector : Option String} {e : Edit}
    (h : (Site.mk d selector nodes[i + 1]?).detaches e = true) : i + 1 < nodes.size := by
  obtain ⟨-, t, ht⟩ := Site.detaches_iff.1 h
  exact (Array.getElem?_eq_some_iff.1 ht).1

end Rest

variable {m : Type → Type} [Monad m]

namespace Node

/-- Visits the nodes from a place on. After a declaration the visit goes on at the next place,
where the node after the comment stands if the comment has been detached. -/
def visitFrom (f : Site → m Edit) (selector : Option String) (nodes : Array Node) (i : Nat) :
    m (Array Node) :=
  if h : i < nodes.size then
    match hn : nodes[i] with
    | .declaration d => do
      let edit ← f ⟨d, selector, nodes[i + 1]?⟩
      let edited := nodes.set i (.declaration edit.declaration)
      if hd : (Site.mk d selector nodes[i + 1]?).detaches edit then
        have hi : i + 1 < edited.size := by simpa [edited] using lt_size_of_detaches hd
        visitFrom f selector (edited.eraseIdx (i + 1)) (i + 1)
      else visitFrom f selector edited (i + 1)
    | .rule s ns => do
      let ns ← visitFrom f (some s) ns.toArray 0
      visitFrom f selector (nodes.set i (.rule s ns.toList)) (i + 1)
    | .atRule n p ns => do
      let ns ← visitFrom f none ns.toArray 0
      visitFrom f selector (nodes.set i (.atRule n p ns.toList)) (i + 1)
    | .comment _ => visitFrom f selector nodes (i + 1)
  else pure nodes
termination_by sizeOf (nodes.toList.drop i)
decreasing_by
  all_goals rw [drop_eq_getElem_cons h]
  · rw [drop_eraseIdx, ← drop_set h (.declaration edit.declaration), drop_eq_getElem_cons hi]
    simp only [edited, List.cons.sizeOf_spec]
    omega
  · rw [drop_set, List.cons.sizeOf_spec]; omega
  · rw [hn]; simp; omega
  · rw [drop_set, List.cons.sizeOf_spec]; omega
  · rw [hn]; simp; omega
  · rw [drop_set, List.cons.sizeOf_spec]; omega
  · rw [List.cons.sizeOf_spec]; omega

def visitDeclarations (f : Site → m Edit) (selector : Option String) (nodes : List Node) :
    m (List Node) :=
  Array.toList <$> visitFrom f selector nodes.toArray 0

/-- Gives at-rules of a name, in any letter case, new parameters. An at-rule is visited before
the nodes in it. -/
def visitAtRules (name : String) (f : (name params : String) → List Node → m String) :
    List Node → m (List Node)
  | [] => pure []
  | .atRule n p ns :: rest => do
    let p ← if sameAsciiCase n name then f n p ns else pure p
    let ns ← visitAtRules name f ns
    let rest ← visitAtRules name f rest
    pure (.atRule n p ns :: rest)
  | .rule s ns :: rest => do
    let ns ← visitAtRules name f ns
    let rest ← visitAtRules name f rest
    pure (.rule s ns :: rest)
  | node :: rest => do
    let rest ← visitAtRules name f rest
    pure (node :: rest)

end Node

namespace Sheet

def visitDeclarations (f : Site → m Edit) (s : Sheet) : m Sheet := do
  return ⟨← Node.visitDeclarations f none s.nodes⟩

def visitAtRules (name : String) (f : (name params : String) → List Node → m String)
    (s : Sheet) : m Sheet := do
  return ⟨← Node.visitAtRules name f s.nodes⟩

end Sheet

end Viewport
