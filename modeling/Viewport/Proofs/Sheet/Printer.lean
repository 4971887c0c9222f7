import Mathlib.Data.List.Basic
import Viewport.Proofs.Sheet.Json
import Viewport.Sheet.Printer

/-!
# A printed stylesheet tells what was printed

A stylesheet is printed in three steps: its nodes come to lines, the lines are indented by the
blocks around them, and the indented lines are joined. Each step can be undone if the texts of the
stylesheet stay on their lines and are not taken there for what is printed around them. So two such
stylesheets that are printed alike are the same.
-/

namespace Viewport

/-! ## Lines -/

/-- What a line of a printed stylesheet holds. -/
inductive Line where
  /-- The head of a rule. Its block is open from here on. -/
  | rule (selector : String)
  /-- The head of an at-rule that has a block. -/
  | atRule (name params : String)
  /-- An at-rule without a block. -/
  | statement (name params : String)
  | declaration (d : Declaration)
  | comment (text : String)
  /-- The end of a block. -/
  | close

/-- The parts of a declaration stay on its line and can be told apart there. -/
structure Declaration.Legible (d : Declaration) : Prop where
  property_line : '\n' ∉ d.property.toList
  value_line : '\n' ∉ d.value.toList
  property_start : d.property.toList.head? ≠ some '@'
  property_colon : ':' ∉ d.property.toList
  value_end : ¬" !important".toList <:+ d.value.toList

namespace Line

def text : Line → String
  | .rule selector => selector ++ " \x7b"
  | .atRule name params => Node.atRuleHead name params ++ " \x7b"
  | .statement name params => Node.atRuleHead name params ++ ";"
  | .declaration d => d.text
  | .comment text => "/* " ++ text ++ " */"
  | .close => "\x7d"

/-- Every text stays on the line, a selector is not taken for an at-rule, and the name of an at-rule
ends where its parameters begin. -/
def Legible : Line → Prop
  | .rule selector => '\n' ∉ selector.toList ∧ selector.toList.head? ≠ some '@'
  | .atRule name params | .statement name params =>
    '\n' ∉ name.toList ∧ ' ' ∉ name.toList ∧ '\n' ∉ params.toList
  | .declaration d => d.Legible
  | .comment text => '\n' ∉ text.toList
  | .close => True

end Line

/-- A node whose own texts and those of all nodes in it are legible. -/
inductive Node.Legible : Node → Prop
  | rule {selector : String} {ns : List Node} (hhead : (Line.rule selector).Legible)
    (hns : ∀ n ∈ ns, Legible n) : Legible (.rule selector ns)
  | atRule {name params : String} {ns : List Node} (hhead : (Line.atRule name params).Legible)
    (hns : ∀ n ∈ ns, Legible n) : Legible (.atRule name params ns)
  | declaration {d : Declaration} (hd : d.Legible) : Legible (.declaration d)
  | comment {text : String} (ht : (Line.comment text).Legible) : Legible (.comment text)

/-- A stylesheet in which no text breaks its line, no selector and no property begins with `@`, no
property holds `:`, no value ends in ` !important`, and no name of an at-rule holds a blank. -/
def Sheet.Legible (s : Sheet) : Prop := ∀ n ∈ s.nodes, n.Legible

/-! ## What stands in a line -/

/-- A list is cut at the first place of an item in one way only. -/
theorem append_cons_inj {α : Type} {a : α} {x y z w : List α} (hx : a ∉ x) (hy : a ∉ y) :
    x ++ a :: z = y ++ a :: w ↔ x = y ∧ z = w := by
  constructor
  · intro h
    -- otherwise the longer beginning holds the item at which the shorter one ends
    rcases List.append_eq_append_iff.1 h with ⟨as, rfl, has⟩ | ⟨as, rfl, has⟩
    all_goals
      cases as with
      | nil => simpa [eq_comm] using has
      | cons b as =>
        obtain ⟨rfl, -⟩ := List.cons.inj has
        simp at hx hy
  · rintro ⟨rfl, rfl⟩
    rfl

namespace Line

section Ends

variable {s t : String} {c : Char}

theorem getLast?_append_of_eq_some (h : t.toList.getLast? = some c) :
    (s ++ t).toList.getLast? = some c := by
  rw [String.toList_append, List.getLast?_append, h, Option.some_or]

theorem head?_append_ne (hs : s.toList.head? ≠ some c) (ht : t.toList.head? ≠ some c) :
    (s ++ t).toList.head? ≠ some c := by
  rw [String.toList_append, List.head?_append]
  cases hs' : s.toList.head? with
  | none => exact ht
  | some x =>
    rw [hs'] at hs
    exact hs

end Ends

theorem toList_atRuleHead (name params : String) :
    (Node.atRuleHead name params).toList =
      '@' :: (name.toList ++ if params = "" then [] else ' ' :: params.toList) := by
  rw [Node.atRuleHead]
  split <;> simp

theorem toList_declaration_text (d : Declaration) :
    d.text.toList = d.property.toList ++ ':' :: ' ' ::
      (d.value.toList ++ (if d.important then " !important".toList else []) ++ [';']) := by
  rw [Declaration.text]
  split <;> simp

/-- What a line ends in. Heads of blocks, lines of a node without a block, comments and ends of
blocks differ in it. -/
def lastChar : Line → Char
  | .rule _ | .atRule _ _ => '\x7b'
  | .statement _ _ | .declaration _ => ';'
  | .comment _ => '/'
  | .close => '\x7d'

def isAtRule : Line → Bool
  | .atRule _ _ | .statement _ _ => true
  | _ => false

/-- The text of a line ends as a line of its kind does. -/
theorem getLast?_text (l : Line) : l.text.toList.getLast? = some l.lastChar := by
  cases l with
  | close => rfl
  | _ => exact getLast?_append_of_eq_some rfl

/-- Of legible lines only those of at-rules begin with the sign of one. -/
theorem head?_text_eq_at_iff {l : Line} (h : l.Legible) :
    l.text.toList.head? = some '@' ↔ l.isAtRule = true := by
  cases l with
  | rule selector =>
    refine iff_of_false ?_ nofun
    exact head?_append_ne h.2 (by decide)
  | declaration d =>
    refine iff_of_false ?_ nofun
    rw [text, Declaration.text, String.append_assoc, String.append_assoc, String.append_assoc]
    apply head?_append_ne h.property_start
    simp
  | atRule name params | statement name params =>
    rw [text, String.toList_append, toList_atRuleHead]
    exact iff_of_true rfl rfl
  | comment t =>
    refine iff_of_false ?_ nofun
    rw [text, String.append_assoc]
    simp
  | close => decide

/-- A legible line has no break in it. -/
theorem newline_notMem_text {l : Line} (h : l.Legible) : '\n' ∉ l.text.toList := by
  cases l with
  | rule selector =>
    have hselector : '\n' ∉ selector.toList := h.1
    simp [text, hselector]
  | atRule name params | statement name params =>
    obtain ⟨hname, -, hparams⟩ := h
    rw [text, String.toList_append, toList_atRuleHead]
    split <;> simp [hname, hparams]
  | declaration d =>
    rw [text, toList_declaration_text]
    split <;> simp [h.property_line, h.value_line]
  | comment t =>
    have ht : '\n' ∉ t.toList := h
    simp [text, ht]
  | close => decide

/-- The head of an at-rule is cut at its first space. -/
theorem atRuleHead_inj {name params name' params' : String} (h : ' ' ∉ name.toList)
    (h' : ' ' ∉ name'.toList) (heq : Node.atRuleHead name params = Node.atRuleHead name' params') :
    name = name' ∧ params = params' := by
  rw [← String.toList_inj, toList_atRuleHead, toList_atRuleHead, List.cons_inj_right] at heq
  -- parameters on one side alone would put a blank into the name on the other
  split at heq <;> split at heq
  · rename_i hp hp'
    rw [List.append_nil, List.append_nil, String.toList_inj] at heq
    exact ⟨heq, hp.trans hp'.symm⟩
  · rw [List.append_nil] at heq
    exact absurd (heq ▸ List.mem_append_right _ List.mem_cons_self) h
  · rw [List.append_nil] at heq
    exact absurd (heq ▸ List.mem_append_right _ List.mem_cons_self) h'
  · obtain ⟨hname, hparams⟩ := (append_cons_inj h h').1 heq
    exact ⟨String.toList_inj.1 hname, String.toList_inj.1 hparams⟩

/-- A value and its mark can be told apart where no value ends like the mark. -/
theorem append_mark_inj {v w mark : List Char} {i j : Bool} (hv : ¬mark <:+ v)
    (hw : ¬mark <:+ w)
    (h : v ++ (if i then mark else []) = w ++ if j then mark else []) : v = w ∧ i = j := by
  cases i with
  | false =>
    rw [if_neg Bool.false_ne_true, List.append_nil] at h
    cases j with
    | false => exact ⟨h.trans (List.append_nil w), rfl⟩
    | true => exact absurd ⟨w, h.symm⟩ hv
  | true =>
    rw [if_pos rfl] at h
    cases j with
    | false => exact absurd ⟨v, h.trans (List.append_nil w)⟩ hw
    | true => exact ⟨List.append_cancel_right h, rfl⟩

/-- A declaration is cut at its first colon, and its end says if it is important. -/
theorem declaration_text_inj {d e : Declaration} (hd : d.Legible) (he : e.Legible)
    (h : d.text = e.text) : d = e := by
  rw [← String.toList_inj, toList_declaration_text, toList_declaration_text,
    append_cons_inj hd.property_colon he.property_colon, List.cons_inj_right,
    List.append_cancel_right_eq] at h
  obtain ⟨hproperty, hrest⟩ := h
  obtain ⟨hvalue, himportant⟩ := append_mark_inj hd.value_end he.value_end hrest
  obtain ⟨p, v, i⟩ := d
  obtain ⟨q, w, j⟩ := e
  rw [Declaration.mk.injEq]
  exact ⟨String.toList_inj.1 hproperty, String.toList_inj.1 hvalue, himportant⟩

/-- A legible line holds what its text says. -/
theorem eq_of_text_eq {l m : Line} (hl : l.Legible) (hm : m.Legible) (h : l.text = m.text) :
    l = m := by
  have hlast : l.lastChar = m.lastChar := by
    rw [← Option.some_inj, ← getLast?_text, ← getLast?_text, h]
  have hat : l.isAtRule = m.isAtRule := by
    rw [Bool.eq_iff_iff, ← head?_text_eq_at_iff hl, ← head?_text_eq_at_iff hm, h]
  cases l with
  | rule selector =>
    cases m with
    | rule selector' => rw [(String.append_left_inj _).1 h]
    | _ => simp [lastChar, isAtRule] at hlast hat
  | atRule name params =>
    cases m with
    | atRule name' params' =>
      obtain ⟨rfl, rfl⟩ := atRuleHead_inj hl.2.1 hm.2.1 ((String.append_left_inj _).1 h)
      rfl
    | _ => simp [lastChar, isAtRule] at hlast hat
  | statement name params =>
    cases m with
    | statement name' params' =>
      obtain ⟨rfl, rfl⟩ := atRuleHead_inj hl.2.1 hm.2.1 ((String.append_left_inj _).1 h)
      rfl
    | _ => simp [lastChar, isAtRule] at hlast hat
  | declaration d =>
    cases m with
    | declaration e => rw [declaration_text_inj hl hm h]
    | _ => simp [lastChar, isAtRule] at hlast hat
  | comment t =>
    cases m with
    | comment u =>
      have htext := (String.append_left_inj _).1 h
      rw [(String.append_right_inj _).1 htext]
    | _ => simp [lastChar] at hlast
  | close =>
    cases m with
    | close => rfl
    | _ => simp [lastChar] at hlast

/-! ## Lines at their depth -/

/-- The depth of a line when `d` blocks are open before it. -/
def depth (d : Nat) : Line → Nat
  | .close => d - 1
  | _ => d

def depthAfter (d : Nat) : Line → Nat
  | .rule _ | .atRule _ _ => d + 1
  | .close => d - 1
  | _ => d

def indented : (d : Nat) → List Line → List String
  | _, [] => []
  | d, l :: ls => (indent (l.depth d) ++ l.text) :: indented (l.depthAfter d) ls

theorem depth_eq (l : Line) (d : Nat) :
    l.depth d = if l.lastChar = '\x7d' then d - 1 else d := by
  cases l <;> rfl

/-- Legible lines can be told from their indented texts. What a line ends in comes first: it says
how deep the line stands, and so where its text begins. -/
theorem eq_of_indented_eq {ls ms : List Line} (hls : ∀ l ∈ ls, l.Legible)
    (hms : ∀ m ∈ ms, m.Legible) {d : Nat} (h : indented d ls = indented d ms) : ls = ms := by
  induction ls generalizing ms d with
  | nil =>
    cases ms with
    | nil => rfl
    | cons m ms => cases h
  | cons l ls ih =>
    cases ms with
    | nil => cases h
    | cons m ms =>
      rw [List.forall_mem_cons] at hls hms
      obtain ⟨hline, hrest⟩ := List.cons.inj h
      have hlast : l.lastChar = m.lastChar := by
        rw [← Option.some_inj, ← getLast?_append_of_eq_some l.getLast?_text, hline]
        exact getLast?_append_of_eq_some m.getLast?_text
      rw [depth_eq, depth_eq, hlast, String.append_right_inj] at hline
      obtain rfl := eq_of_text_eq hls.1 hms.1 hline
      rw [ih hls.2 hms.2 hrest]

/-- Indenting adds no line breaks. -/
theorem newline_notMem_indented {ls : List Line} (h : ∀ l ∈ ls, l.Legible) (d : Nat) :
    ∀ t ∈ indented d ls, '\n' ∉ t.toList := by
  induction ls generalizing d with
  | nil => exact fun _ ht => absurd ht List.not_mem_nil
  | cons l ls ih =>
    rw [List.forall_mem_cons] at h
    rw [indented, List.forall_mem_cons]
    refine ⟨?_, ih h.2 _⟩
    simp [indent, newline_notMem_text h.1]

end Line

/-! ## The lines of nodes -/

namespace Node

mutual

/-- The lines that a node is printed in. -/
def layout : Node → List Line
  | .rule selector ns => .rule selector :: layoutOf ns ++ [.close]
  | .atRule name params [] => [.statement name params]
  | .atRule name params (n :: ns) => .atRule name params :: (layout n ++ layoutOf ns) ++ [.close]
  | .declaration d => [.declaration d]
  | .comment text => [.comment text]

def layoutOf : List Node → List Line
  | [] => []
  | n :: ns => layout n ++ layoutOf ns

end

section AtRule

variable {ns : List Node} (h : ns ≠ []) (name params : String)

include h

theorem layout_atRule :
    (atRule name params ns).layout = .atRule name params :: layoutOf ns ++ [.close] := by
  cases ns with
  | nil => contradiction
  | cons n ns => rfl

theorem lines_atRule (d : Nat) :
    (atRule name params ns).lines d =
      (indent d ++ atRuleHead name params ++ " \x7b") :: linesOf (d + 1) ns ++
        [indent d ++ "\x7d"] := by
  cases ns with
  | nil => contradiction
  | cons n ns => rfl

end AtRule

/-- A node is printed in its lines, whatever follows them. -/
def Prints (n : Node) : Prop :=
  ∀ d ls, Line.indented d (n.layout ++ ls) = n.lines d ++ Line.indented d ls

/-- Nodes in a row are printed line by line. -/
theorem indented_layoutOf {ns : List Node} (h : ∀ n ∈ ns, Prints n) (d : Nat) (ls : List Line) :
    Line.indented d (layoutOf ns ++ ls) = linesOf d ns ++ Line.indented d ls := by
  induction ns with
  | nil => rfl
  | cons n ns ih =>
    rw [List.forall_mem_cons] at h
    rw [layoutOf, linesOf, List.append_assoc, List.append_assoc, h.1, ih h.2]

/-- The end of a block takes the depth back to that of its head. -/
theorem indented_block (head : Line) {ns : List Node}
    (hhead : ∀ d ls, Line.indented d (head :: ls) =
      (indent d ++ head.text) :: Line.indented (d + 1) ls)
    (hns : ∀ n ∈ ns, Prints n) (d : Nat) (ls : List Line) :
    Line.indented d (head :: layoutOf ns ++ [Line.close] ++ ls) =
      (indent d ++ head.text) :: linesOf (d + 1) ns ++ [indent d ++ "\x7d"] ++
        Line.indented d ls := by
  have hinside := indented_layoutOf hns (d + 1) (.close :: ls)
  rw [List.append_assoc, List.cons_append, hhead, List.singleton_append, hinside,
    List.append_assoc]
  rfl

/-- Every node is printed as its layout, indented. -/
theorem prints (n : Node) : Prints n := by
  induction n using inductionOn with
  | rule selector ns ih =>
    intro d ls
    rw [layout, indented_block (.rule selector) (fun _ _ => rfl) ih, lines, String.append_assoc]
    rfl
  | atRule name params ns ih =>
    intro d ls
    by_cases hns : ns = []
    · subst hns
      rw [lines, String.append_assoc]
      rfl
    · rw [layout_atRule hns, indented_block (.atRule name params) (fun _ _ => rfl) ih,
        lines_atRule hns, String.append_assoc]
      rfl
  | declaration e =>
    intro d ls
    rfl
  | comment t =>
    intro d ls
    rw [lines, String.append_assoc, String.append_assoc]
    rfl

/-- Nodes are printed in their lines. -/
theorem linesOf_eq (ns : List Node) (d : Nat) : linesOf d ns = Line.indented d (layoutOf ns) := by
  have h := indented_layoutOf (fun n (_ : n ∈ ns) => n.prints) d []
  rw [List.append_nil, Line.indented, List.append_nil] at h
  exact h.symm

/-- The layout of nodes in a row is legible if each one is. -/
theorem legible_layoutOf {ns : List Node} (h : ∀ n ∈ ns, ∀ l ∈ n.layout, l.Legible) :
    ∀ l ∈ layoutOf ns, l.Legible := by
  induction ns with
  | nil => exact fun _ hl => absurd hl List.not_mem_nil
  | cons n ns ih =>
    rw [List.forall_mem_cons] at h
    rw [layoutOf, List.forall_mem_append]
    exact ⟨h.1, ih h.2⟩

/-- The lines of a legible node are legible. -/
theorem Legible.layout {n : Node} (h : n.Legible) : ∀ l ∈ n.layout, l.Legible := by
  have hblock {head : Line} {ns : List Node} (hhead : head.Legible)
      (hns : ∀ n ∈ ns, ∀ l ∈ n.layout, l.Legible) :
      ∀ l ∈ head :: layoutOf ns ++ [.close], l.Legible := by
    rw [List.cons_append, List.forall_mem_cons, List.forall_mem_append, List.forall_mem_singleton]
    exact ⟨hhead, legible_layoutOf hns, trivial⟩
  induction h with
  | rule hhead hns ih => exact hblock hhead ih
  | @atRule name params ns hhead hns ih =>
    by_cases hnil : ns = []
    · subst hnil
      exact List.forall_mem_singleton.2 hhead
    · rw [layout_atRule hnil]
      exact hblock hhead ih
  | declaration hd => exact List.forall_mem_singleton.2 hd
  | comment ht => exact List.forall_mem_singleton.2 ht

end Node

/-! ## From lines back to nodes -/

namespace Line

/-- A block that is open: the node that it comes to once it is closed, and the nodes before it, last
first. -/
structure Block where
  node : List Node → Node
  before : List Node

/-- What a line adds to the blocks that are open, innermost first, and to the nodes in the innermost
of them, last first. -/
def step (s : List Block × List Node) : Line → List Block × List Node
  | .rule selector => (⟨.rule selector, s.2⟩ :: s.1, [])
  | .atRule name params => (⟨.atRule name params, s.2⟩ :: s.1, [])
  | .statement name params => (s.1, .atRule name params [] :: s.2)
  | .declaration d => (s.1, .declaration d :: s.2)
  | .comment text => (s.1, .comment text :: s.2)
  | .close =>
    match s with
    | (b :: bs, ns) => (bs, b.node ns.reverse :: b.before)
    | ([], ns) => ([], ns)

end Line

namespace Node

/-- The lines of nodes in a row put these nodes before the open block, the last one first. -/
theorem foldl_step_layoutOf {ns : List Node}
    (h : ∀ n ∈ ns, ∀ bs before, n.layout.foldl Line.step (bs, before) = (bs, n :: before))
    (bs : List Line.Block) (before : List Node) :
    (layoutOf ns).foldl Line.step (bs, before) = (bs, ns.reverse ++ before) := by
  induction ns generalizing before with
  | nil => rfl
  | cons n ns ih =>
    rw [List.forall_mem_cons] at h
    rw [layoutOf, List.foldl_append, h.1, ih h.2, List.reverse_cons, List.append_assoc,
      List.singleton_append]

/-- The lines of a block come to the node that its head opens, with the nodes in it. -/
theorem foldl_step_block {ns : List Node} {head : Line} {node : List Node → Node}
    (hhead : ∀ s, Line.step s head = (⟨node, s.2⟩ :: s.1, []))
    (hns : ∀ n ∈ ns, ∀ bs before, n.layout.foldl Line.step (bs, before) = (bs, n :: before))
    (bs : List Line.Block) (before : List Node) :
    (head :: layoutOf ns ++ [Line.close]).foldl Line.step (bs, before) =
      (bs, node ns :: before) := by
  have hinside := foldl_step_layoutOf hns (⟨node, before⟩ :: bs) []
  rw [List.append_nil] at hinside
  rw [List.cons_append, List.foldl_cons, hhead, List.foldl_append, hinside]
  exact congrArg (fun ns => (bs, node ns :: before)) ns.reverse_reverse

/-- The lines of a node come to the node, whatever stands before them. -/
theorem foldl_step_layout (n : Node) (bs : List Line.Block) (before : List Node) :
    n.layout.foldl Line.step (bs, before) = (bs, n :: before) := by
  induction n using inductionOn generalizing bs before with
  | rule selector ns ih => exact foldl_step_block (fun _ => rfl) ih bs before
  | atRule name params ns ih =>
    by_cases hns : ns = []
    · subst hns
      rfl
    · rw [layout_atRule hns]
      exact foldl_step_block (fun _ => rfl) ih bs before
  | declaration d | comment t => rfl

/-- Nodes can be told from their lines. -/
theorem layoutOf_injective : Function.Injective layoutOf := by
  intro ns ms h
  have hns := foldl_step_layoutOf (fun n (_ : n ∈ ns) => n.foldl_step_layout) [] []
  have hms := foldl_step_layoutOf (fun n (_ : n ∈ ms) => n.foldl_step_layout) [] []
  rw [h, hms, List.append_nil, List.append_nil] at hns
  exact (List.reverse_injective (Prod.mk.inj hns).2).symm

end Node

/-! ## Stylesheets -/

namespace Sheet

theorem Legible.layout {s : Sheet} (h : s.Legible) : ∀ l ∈ Node.layoutOf s.nodes, l.Legible :=
  Node.legible_layoutOf fun n hn => (h n hn).layout

theorem Legible.newline_notMem_lines {s : Sheet} (h : s.Legible) :
    ∀ l ∈ Node.linesOf 0 s.nodes, '\n' ∉ l.toList := by
  rw [Node.linesOf_eq]
  exact Line.newline_notMem_indented h.layout 0

/-- Lines can be told from the text that they are joined to. -/
theorem eq_of_join_eq {ls ms : List String} (hls : ∀ l ∈ ls, '\n' ∉ l.toList)
    (hms : ∀ m ∈ ms, '\n' ∉ m.toList)
    (h : String.join (ls.map (· ++ "\n")) = String.join (ms.map (· ++ "\n"))) : ls = ms := by
  have hjoin (l : String) (ls : List String) :
      (String.join ((l :: ls).map (· ++ "\n"))).toList =
        l.toList ++ '\n' :: (String.join (ls.map (· ++ "\n"))).toList := by
    simp
  rw [← String.toList_inj] at h
  induction ls generalizing ms with
  | nil =>
    cases ms with
    | nil => rfl
    | cons m ms =>
      rw [hjoin] at h
      exact absurd h.symm (List.append_ne_nil_of_right_ne_nil _ (List.cons_ne_nil _ _))
  | cons l ls ih =>
    cases ms with
    | nil =>
      rw [hjoin] at h
      exact absurd h (List.append_ne_nil_of_right_ne_nil _ (List.cons_ne_nil _ _))
    | cons m ms =>
      rw [List.forall_mem_cons] at hls hms
      rw [hjoin, hjoin, append_cons_inj hls.1 hms.1] at h
      rw [String.toList_inj.1 h.1, ih hls.2 hms.2 h.2]

/-- Two legible stylesheets are printed alike only if they are the same. -/
theorem print_inj {s t : Sheet} (hs : s.Legible) (ht : t.Legible) :
    s.print = t.print ↔ s = t := by
  refine ⟨fun h => ?_, congrArg print⟩
  have hlines := eq_of_join_eq hs.newline_notMem_lines ht.newline_notMem_lines h
  rw [Node.linesOf_eq, Node.linesOf_eq] at hlines
  have hlayout := Line.eq_of_indented_eq hs.layout ht.layout hlines
  exact congrArg Sheet.mk (Node.layoutOf_injective hlayout)

/-- A value that ends like the mark of importance is taken for it, so it is not legible. -/
example : print ⟨[.declaration ⟨"b", "c !important", false⟩]⟩ =
    print ⟨[.declaration ⟨"b", "c", true⟩]⟩ := by decide

/-- A rule in a rule, with a selector that looks like the end of a block. -/
def bracesInside : Sheet := ⟨[.rule "a" [.declaration ⟨"b", "c;", true⟩, .rule "\x7d" []]]⟩

/-- The same rule behind the other one. -/
def bracesBehind : Sheet := ⟨[.rule "a" [.declaration ⟨"b", "c;", true⟩], .rule "  \x7d" []]⟩

theorem print_inj_braces :
    bracesInside.Legible ∧ bracesBehind.Legible ∧ bracesInside.print ≠ bracesBehind.print := by
  have hdeclaration : (Node.declaration ⟨"b", "c;", true⟩).Legible := by
    refine .declaration ?_
    constructor <;> decide
  have hbrace : (Node.rule "\x7d" []).Legible := .rule ⟨by decide, by decide⟩ nofun
  have hinside : bracesInside.Legible := by
    refine List.forall_mem_singleton.2 (.rule ⟨by decide, by decide⟩ ?_)
    rw [List.forall_mem_cons, List.forall_mem_singleton]
    exact ⟨hdeclaration, hbrace⟩
  have hbehind : bracesBehind.Legible := by
    refine List.forall_mem_cons.2 ⟨.rule ⟨by decide, by decide⟩ ?_, ?_⟩
    · exact List.forall_mem_singleton.2 hdeclaration
    · exact List.forall_mem_singleton.2 (.rule ⟨by decide, by decide⟩ nofun)
  refine ⟨hinside, hbehind, fun h => ?_⟩
  have heq : bracesInside = bracesBehind := (print_inj hinside hbehind).1 h
  exact absurd heq (by decide)

end Sheet

end Viewport
