import Viewport.Proofs.Json.Draft
import Viewport.Sheet.Json

/-!
# Stylesheets come back from JSON

The text that a stylesheet is written as is read as the same stylesheet, unless more lists and
objects are open in it at once than a reader admits.
-/

namespace Viewport

open Json

namespace NodeKind

/-- The tag of a kind is read as that kind. -/
theorem ofTag_tag (k : NodeKind) : ofTag k.tag = .ok k := by cases k <;> rfl

end NodeKind

namespace Node

/-- Induction over the nodes inside of nodes. -/
@[elab_as_elim]
theorem inductionOn {motive : Node → Prop} (n : Node)
    (rule : ∀ selector ns, (∀ n ∈ ns, motive n) → motive (.rule selector ns))
    (atRule : ∀ name params ns, (∀ n ∈ ns, motive n) → motive (.atRule name params ns))
    (declaration : ∀ d, motive (.declaration d)) (comment : ∀ t, motive (.comment t)) :
    motive n :=
  match n with
  | .rule selector ns =>
    rule selector ns fun n _ => inductionOn n rule atRule declaration comment
  | .atRule name params ns =>
    atRule name params ns fun n _ => inductionOn n rule atRule declaration comment
  | .declaration d => declaration d
  | .comment t => comment t
termination_by sizeOf n
decreasing_by
  all_goals
    rename_i h
    have := List.sizeOf_lt_of_mem h
    simp only [Node.rule.sizeOf_spec, Node.atRule.sizeOf_spec]
    omega

/-! ## Members -/

def kind : Node → NodeKind
  | .rule _ _ => .rule
  | .atRule _ _ _ => .atRule
  | .declaration _ => .declaration
  | .comment _ => .comment

/-- What a node is written with besides its tag. -/
def fields : Node → List (NodeField × Value)
  | .rule selector nodes => [(.selector, .string selector), (.nodes, .list (toValues nodes))]
  | .atRule name params nodes =>
    [(.name, .string name), (.params, .string params), (.nodes, .list (toValues nodes))]
  | .declaration d =>
    [(.property, .string d.property), (.value, .string d.value), (.important, .bool d.important)]
  | .comment text => [(.text, .string text)]

def members (n : Node) : List (String × Value) := n.fields.map fun (f, v) => (f.key, v)

/-- A node is written as its tag and then its members. -/
theorem toValue_eq (n : Node) :
    n.toValue = .object ((tagKey, .string n.kind.tag) :: n.members) := by
  cases n <;> rfl

theorem key_ne_tagKey (f : NodeField) : f.key ≠ tagKey := by cases f <;> decide

theorem ne_tagKey_of_mem_members {n : Node} {m : String × Value} (h : m ∈ n.members) :
    m.1 ≠ tagKey := by
  obtain ⟨⟨f, v⟩, -, rfl⟩ := List.mem_map.1 h
  exact key_ne_tagKey f

theorem kindOf_of_forall_ne {ms : List (String × Value)} (h : ∀ m ∈ ms, m.1 ≠ tagKey)
    (k : NodeKind) : kindOf (some k) ms = .ok k := by
  induction ms with
  | nil => rfl
  | cons m ms ih =>
    rw [kindOf, if_neg (h m List.mem_cons_self), ih fun m hm => h m (List.mem_cons_of_mem _ hm)]

/-- The tag of a node names its kind. -/
theorem kindOf_tag (n : Node) :
    kindOf none ((tagKey, .string n.kind.tag) :: n.members) = .ok n.kind := by
  have htag : NodeKind.ofValue (.string n.kind.tag) = .ok n.kind := n.kind.ofTag_tag
  rw [kindOf, if_pos rfl, htag]
  exact kindOf_of_forall_ne (fun _ => ne_tagKey_of_mem_members) n.kind

/-! ## Nodes -/

/-- A node is made again from its members, if the nodes inside it are. -/
theorem nodeOfMembers_members (n : Node)
    (h : ∀ ns ∈ n.children?, ofValues (toValues ns) = .ok ns) :
    (partsOfMembers n.kind {} n.members >>= fun p => p.nodeOfMembers n.kind) = .ok n := by
  cases n with
  | rule selector ns =>
    have hparts : partsOfMembers .rule {} (rule selector ns).members =
        ofValues (toValues ns) >>= fun ns => .ok { selector := selector, nodes := ns } := rfl
    rw [kind, hparts, h ns rfl]
    rfl
  | atRule name params ns =>
    have hparts : partsOfMembers .atRule {} (atRule name params ns).members =
        ofValues (toValues ns) >>= fun ns =>
          .ok { name := name, params := params, nodes := ns } := rfl
    rw [kind, hparts, h ns rfl]
    rfl
  | declaration d => rfl
  | comment t => rfl

/-- Nodes that come back one by one come back as a list. -/
theorem ofValues_toValues {ns : List Node} (h : ∀ n ∈ ns, ofValue n.toValue = .ok n) :
    ofValues (toValues ns) = .ok ns := by
  induction ns with
  | nil => rfl
  | cons n ns ih =>
    rw [toValues, ofValues, h n List.mem_cons_self, ih fun n hn => h n (List.mem_cons_of_mem _ hn)]
    rfl

/-- A value that a node is written as holds that node. -/
theorem ofValue_toValue (n : Node) : ofValue n.toValue = .ok n := by
  have hnode (n : Node) (h : ∀ ns ∈ n.children?, ∀ n ∈ ns, ofValue n.toValue = .ok n) :
      ofValue n.toValue = .ok n := by
    rw [toValue_eq, ofValue, kindOf_tag]
    exact nodeOfMembers_members n fun ns hns => ofValues_toValues (h ns hns)
  induction n using inductionOn with
  | rule selector ns ih | atRule name params ns ih =>
    refine hnode _ fun ns hns => ?_
    obtain rfl := Option.some.inj hns
    exact ih
  | declaration d => rfl
  | comment t => rfl

theorem numberless_toValues {ns : List Node} (h : ∀ n ∈ ns, n.toValue.Numberless) :
    ∀ v ∈ toValues ns, v.Numberless := by
  induction ns with
  | nil => exact fun _ hv => absurd hv List.not_mem_nil
  | cons n ns ih =>
    intro v hv
    rcases List.mem_cons.1 hv with rfl | hv
    · exact h n List.mem_cons_self
    · exact ih (fun n hn => h n (List.mem_cons_of_mem _ hn)) v hv

/-- No field of a node is a number. -/
theorem numberless_toValue (n : Node) : n.toValue.Numberless := by
  induction n using inductionOn with
  | rule selector ns ih | atRule name params ns ih =>
    have hns : (Value.list (toValues ns)).Numberless := .list (numberless_toValues ih)
    refine .object ?_
    simp [Value.Numberless.string, hns]
  | declaration d | comment t =>
    refine .object ?_
    simp [Value.Numberless.string, Value.Numberless.bool]

/-! ## Drafts of nodes -/

section Members

variable {room : Nat} {found : Option NodeKind} {d : Draft}
  {ms : List (Except Fault String × Draft)}

/-- The tag is taken as it is met. -/
theorem readMembers_cons_tagKey :
    readMembers room none ((.ok tagKey, d) :: ms) =
      NodeKind.ofDraft d >>= fun k => readMembers room (some k) ms := by
  rw [readMembers]
  rfl

/-- Another member is kept with its value. -/
theorem readMembers_cons_of_ne {key : String} (hkey : key ≠ tagKey) :
    readMembers room found ((.ok key, d) :: ms) =
      d.value room >>= fun v =>
        readMembers room found ms >>= fun p => .ok (p.1, (key, v) :: p.2) := by
  rw [readMembers]
  exact if_neg hkey

end Members

/-- Members after the tag have their values if there is room for them. -/
theorem readMembers_memberDrafts {ms : List (String × Value)} (h : ∀ m ∈ ms, m.1 ≠ tagKey)
    (k : NodeKind) (room : Nat) :
    readMembers room (some k) (Value.memberDrafts ms) =
      fit room (Value.memberDepth ms) (some k, ms) := by
  induction ms with
  | nil => exact (fit_zero room _).symm
  | cons m ms ih =>
    obtain ⟨key, v⟩ := m
    have hkey : key ≠ tagKey := h (key, v) List.mem_cons_self
    have hms := ih fun m hm => h m (List.mem_cons_of_mem _ hm)
    rw [Value.memberDrafts, readMembers_cons_of_ne hkey, v.value_draft, hms, Value.memberDepth]
    simp only [fit_bind_ok, fit_bind_fit]

/-- The members of a node are read where there is room for their values. -/
theorem readMembers_tag (n : Node) (room : Nat) :
    readMembers room none ((.ok tagKey, .string (.ok n.kind.tag)) :: Value.memberDrafts n.members) =
      fit room (Value.memberDepth n.members) (some n.kind, n.members) := by
  have hkind : NodeKind.ofDraft (.string (.ok n.kind.tag)) = .ok n.kind := n.kind.ofTag_tag
  rw [readMembers_cons_tagKey, hkind]
  exact readMembers_memberDrafts (fun _ => ne_tagKey_of_mem_members) n.kind room

/-- A node is taken from the draft of its value where there is room for it. -/
theorem ofDraft_draft (n : Node) (room : Nat) :
    ofDraft room n.toValue.draft = fit room n.toValue.depth n := by
  have hvalue := n.ofValue_toValue
  rw [toValue_eq] at hvalue ⊢
  have hparts :
      (partsOfMembers n.kind {} n.members >>= fun p => p.nodeOfMembers n.kind) = .ok n := by
    rw [ofValue, kindOf_tag] at hvalue
    exact hvalue
  -- the tag is a string, for which nothing is opened
  have hdepth : (Value.object ((tagKey, .string n.kind.tag) :: n.members)).depth =
      Value.memberDepth n.members + 1 :=
    congrArg (· + 1) (Nat.zero_max _)
  rw [hdepth, ← enter_fit, Value.draft, Value.memberDrafts, ofDraft]
  refine congrArg (enter room) (funext fun room => ?_)
  rw [Value.draft, readMembers_tag]
  exact fit_bind_eq room _ _ hparts

/-- Nodes come back from their drafts if there is room for the deepest of them. -/
theorem ofDrafts_drafts (ns : List Node) (room : Nat) :
    ofDrafts room (Value.drafts (toValues ns)) = fit room (Value.itemDepth (toValues ns)) ns := by
  induction ns with
  | nil => exact (fit_zero room []).symm
  | cons n ns ih =>
    rw [toValues, Value.drafts, ofDrafts, n.ofDraft_draft, ih, Value.itemDepth]
    simp only [fit_bind_ok, fit_bind_fit]

end Node

namespace Sheet

theorem numberless_toValue (s : Sheet) : s.toValue.Numberless := by
  have hnodes : (Value.list (Node.toValues s.nodes)).Numberless :=
    .list (Node.numberless_toValues fun n _ => n.numberless_toValue)
  refine .object ?_
  simp [hnodes]

theorem depth_toValue (s : Sheet) :
    s.toValue.depth = Value.itemDepth (Node.toValues s.nodes) + 2 :=
  congrArg (· + 1) (Nat.max_zero _)

/-- A stylesheet is taken from the draft of its value if fewer lists and objects than the limit
are open in it at once. -/
theorem ofDraft_draft (s : Sheet) :
    ofDraft s.toValue.draft =
      if s.toValue.depth < depthLimit then .ok s else .error (.fault .tooDeep) := by
  have hnodes : Node.listOfDraft innerRoom (.list (Value.drafts (Node.toValues s.nodes)) none) =
      fit innerRoom (Value.itemDepth (Node.toValues s.nodes) + 1) s.nodes := by
    rw [← enter_fit, Node.listOfDraft]
    refine congrArg (enter innerRoom) (funext fun room => ?_)
    rw [Node.ofDrafts_drafts]
    exact fit_bind_eq room _ _ rfl
  have hsheet : ofDraft s.toValue.draft =
      Node.listOfDraft innerRoom (.list (Value.drafts (Node.toValues s.nodes)) none) >>=
        fun ns => .ok ⟨ns⟩ := by
    have hmembers : s.toValue.draft =
      .object [(.ok nodesKey, .list (Value.drafts (Node.toValues s.nodes)) none)] none := rfl
    rw [hmembers, ofDraft, nodesOfMembers]
    cases Node.listOfDraft innerRoom (.list (Value.drafts (Node.toValues s.nodes)) none) <;> rfl
  rw [hsheet, hnodes, fit_bind_ok, depth_toValue]
  exact if_congr (by simp only [innerRoom, depthLimit]; omega) rfl rfl

/-- The text that a stylesheet is written as is read as that stylesheet, if fewer lists and
objects than the limit are open in it at once. If not, the nesting is what is wrong with it. -/
theorem ofJson_toJson (s : Sheet) :
    Sheet.ofJson s.toJson =
      if s.toValue.depth < depthLimit then .ok s else .error (.fault .tooDeep) := by
  have hreading : Reading.of s.toJson.toList = ⟨s.toValue.draft, false⟩ :=
    Reading.of_eq (Value.tokens_text s.numberless_toValue)
  rw [ofJson, hreading, Reading.take, ofDraft_draft]
  exact bind_pure _

end Sheet

end Viewport
