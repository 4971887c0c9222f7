import Viewport.Proofs.Sheet.Spelling

/-!
# How deep a stylesheet may be to be read back

A text may leave out the nodes of a rule or an at-rule, and the text that a stylesheet is written as
never does. So the one may go as deep as is admitted and the other one list deeper. A stylesheet
that was read comes back from its own text with this one exception.
-/

namespace Viewport

open Json

namespace Node

/-! ## Blocks in blocks -/

mutual

/-- How many rules and at-rules are open at once in a node, at most. -/
def blockDepth : Node → Nat
  | .rule _ ns | .atRule _ _ ns => blockDepthOf ns + 1
  | .declaration _ | .comment _ => 0

def blockDepthOf : List Node → Nat
  | [] => 0
  | n :: ns => max n.blockDepth (blockDepthOf ns)

end

section Written

variable {n : Node} {ns : List Node}

theorem blockDepth_of_children (h : n.children? = some ns) :
    n.blockDepth = blockDepthOf ns + 1 := by
  cases n with
  | rule | atRule =>
    obtain rfl := Option.some.inj h
    rfl
  | declaration | comment => cases h

theorem depth_toValue_of_children (h : n.children? = some ns) :
    n.toValue.depth = Value.itemDepth (toValues ns) + 2 := by
  cases n with
  | rule | atRule =>
    obtain rfl := Option.some.inj h
    simp [toValue, tagged, Value.depth, Value.memberDepth]
  | declaration | comment => cases h

theorem itemDepth_toValues_bounds
    (h : ∀ n ∈ ns, 2 * n.blockDepth ≤ n.toValue.depth ∧
      n.toValue.depth ≤ 2 * n.blockDepth + 1) :
    2 * blockDepthOf ns ≤ Value.itemDepth (toValues ns) ∧
      Value.itemDepth (toValues ns) ≤ 2 * blockDepthOf ns + 1 := by
  induction ns with
  | nil => exact ⟨Nat.le_refl 0, Nat.zero_le 1⟩
  | cons n ns ih =>
    rw [List.forall_mem_cons] at h
    have hns := ih h.2
    rw [blockDepthOf, toValues, Value.itemDepth]
    omega

/-- A node is written with an object and a list for each block, and with one more object where
something other than a block stands in the innermost of them. -/
theorem depth_toValue_bounds (n : Node) :
    2 * n.blockDepth ≤ n.toValue.depth ∧ n.toValue.depth ≤ 2 * n.blockDepth + 1 := by
  induction n using inductionOn with
  | rule selector ns ih | atRule name params ns ih =>
    have hns := itemDepth_toValues_bounds ih
    rw [blockDepth_of_children rfl, depth_toValue_of_children rfl]
    omega
  | declaration d | comment t => exact ⟨Nat.zero_le _, Nat.le_refl 1⟩

end Written

section Read

variable {k : NodeKind} {tag v : Value} {ps : List (NodeField × Value)} {n : Node}
  {ns : List Node}

theorem Gives.depth_pos (h : Gives k tag v ps) : 0 < v.depth := by
  cases h with
  | object | list => exact Nat.succ_pos _

/-- What is given for a field stands inside of the value that gives it. -/
theorem Gives.depth_lt (h : Gives k tag v ps) {f : NodeField} {w : Value} (hw : (f, w) ∈ ps) :
    w.depth < v.depth := by
  cases h with
  | object =>
    obtain ⟨m, hm, heq⟩ := List.mem_filterMap.1 hw
    obtain ⟨g, -, heq⟩ := Option.map_eq_some_iff.1 heq
    obtain ⟨-, rfl⟩ := Prod.mk.inj heq
    exact Nat.lt_succ_of_le (Value.depth_le_memberDepth hm)
  | list =>
    have hitem := List.mem_cons_of_mem tag (List.of_mem_zip hw).2
    exact Nat.lt_succ_of_le (Value.depth_le_itemDepth hitem)

/-- The nodes in a node that is read are none, or they stand in a list inside of its value. -/
theorem eq_nil_or_exists_ofValues (h : ofValue v = .ok n) (hns : n.children? = some ns) :
    ns = [] ∨ ∃ items, ofValues items = .ok ns ∧ Value.itemDepth items + 2 ≤ v.depth := by
  obtain ⟨tag, ps, htag, hgives⟩ := exists_gives_of_ofValue h
  have hfield : NodeField.nodes ∈ n.kind.fields := by
    cases n with
    | rule | atRule => simp [kind, NodeKind.fields]
    | declaration | comment => cases hns
  have hpart := ((hgives.ofValue_eq_ok_iff htag).1 h).2 .nodes hfield
  rw [part?_nodes, hns, NodeParts.partIn, NodeParts.valueIn] at hpart
  cases hlookup : ps.lookup NodeField.nodes with
  | none =>
    rw [hlookup] at hpart
    exact .inl (Part.nodes.inj (Option.some.inj hpart)).symm
  | some w =>
    have hlt := hgives.depth_lt ((NodeParts.lookup_eq_some_iff_mem hgives.nodup).1 hlookup)
    rw [hlookup, Option.some_or, Option.bind_some, Option.map_some, toOption_eq_some_iff] at hpart
    cases w with
    | list items =>
      obtain ⟨ms, hms, heq⟩ := map_eq_ok_iff.1 hpart
      obtain rfl := Part.nodes.inj heq
      exact .inr ⟨items, hms, hlt⟩
    | _ => cases hpart

theorem itemDepth_toValues_le
    (hns : ∀ n ∈ ns, ∀ v, ofValue v = .ok n → n.toValue.depth ≤ v.depth + 1) {vs : List Value}
    (h : ofValues vs = .ok ns) : Value.itemDepth (toValues ns) ≤ Value.itemDepth vs + 1 := by
  induction vs generalizing ns with
  | nil =>
    obtain rfl := Except.ok.inj h
    exact Nat.zero_le _
  | cons v vs ih =>
    rw [ofValues, bind_eq_ok_iff] at h
    obtain ⟨n, hn, h⟩ := h
    obtain ⟨ms, hms, h⟩ := bind_eq_ok_iff.1 h
    obtain rfl := Except.ok.inj h
    rw [List.forall_mem_cons] at hns
    have hhead := hns.1 v hn
    have htail := ih hns.2 hms
    rw [toValues, Value.itemDepth, Value.itemDepth]
    omega

/-- A node is written at most one list deeper than it was read: the list of an innermost rule or
at-rule may have been left out. -/
theorem depth_toValue_le (h : ofValue v = .ok n) : n.toValue.depth ≤ v.depth + 1 := by
  induction n using inductionOn generalizing v with
  | rule selector ns ih | atRule name params ns ih =>
    rw [depth_toValue_of_children rfl]
    rcases eq_nil_or_exists_ofValues h rfl with rfl | ⟨items, hitems, hdepth⟩
    · obtain ⟨tag, ps, -, hgives⟩ := exists_gives_of_ofValue h
      exact Nat.succ_le_succ hgives.depth_pos
    · have hinside := itemDepth_toValues_le (fun n hn v => ih n hn) hitems
      omega
  | declaration d | comment t => exact Nat.succ_le_succ (Nat.zero_le _)

end Read

end Node

namespace Sheet

/-! ## The deepest stylesheets that are read -/

def blockDepth (s : Sheet) : Nat := Node.blockDepthOf s.nodes

/-- How many rules and at-rules may be open at once in a stylesheet that is read: each takes an
object and a list inside of the two around the nodes, and the innermost needs no list. -/
def blockLimit : Nat := (depthLimit - 2) / 2

example : blockLimit = 63 := rfl

/-- The text of a stylesheet opens an object and a list for each block, besides those around all
nodes. -/
theorem depth_toValue_bounds (s : Sheet) :
    2 * s.blockDepth + 2 ≤ s.toValue.depth ∧ s.toValue.depth ≤ 2 * s.blockDepth + 3 := by
  have hnodes := Node.itemDepth_toValues_bounds fun n (_ : n ∈ s.nodes) => n.depth_toValue_bounds
  rw [depth_toValue, blockDepth]
  omega

theorem depth_toValue_lt_iff (s : Sheet) :
    s.toValue.depth < depthLimit ↔ s.blockDepth < blockLimit := by
  have hbounds := s.depth_toValue_bounds
  rw [blockLimit, depthLimit]
  omega

/-- A stylesheet is written at most one list deeper than may be read. -/
theorem depth_toValue_le_of_ofJson {text : String} {s : Sheet} (h : ofJson text = .ok s) :
    s.toValue.depth ≤ depthLimit := by
  obtain ⟨vs, hvs⟩ := exists_givenBy_of_ofJson h
  obtain ⟨hnodes, -⟩ := hvs.ofJson_eq_ok_iff.1 h
  obtain ⟨d, items, -, -, hvalues⟩ := hvs
  have hroom := Draft.itemDepth_le_of_values hvalues
  have hwritten := Node.itemDepth_toValues_le (fun n _ v hv => Node.depth_toValue_le hv) hnodes
  rw [nodeRoom, innerRoom, depthLimit] at hroom
  rw [depth_toValue, depthLimit]
  omega

/-- A stylesheet comes back from its text just where its blocks are within the limit. -/
theorem ofJson_toJson_eq (s : Sheet) :
    ofJson s.toJson = if s.blockDepth < blockLimit then .ok s else .error (.fault .tooDeep) := by
  have hreading : Reading.of s.toJson.toList = ⟨s.toValue.draft, false⟩ :=
    Reading.of_eq (Value.tokens_text s.numberless_toValue)
  rw [ofJson, hreading, Reading.take, ofDraft_draft, if_congr s.depth_toValue_lt_iff rfl rfl]
  exact bind_pure _

/-- A stylesheet that was read comes back from its own text, unless as many rules and at-rules are
open in it as may be. Then its text goes just as deep as is not admitted, and is refused for it. -/
theorem ofJson_toJson_of_ofJson {text : String} {s : Sheet} (h : ofJson text = .ok s) :
    (s.blockDepth < blockLimit ∧ ofJson s.toJson = .ok s) ∨
      (s.blockDepth = blockLimit ∧ s.toValue.depth = depthLimit ∧
        ofJson s.toJson = .error (.fault .tooDeep)) := by
  have hle := depth_toValue_le_of_ofJson h
  rw [ofJson_toJson_eq]
  rcases Nat.lt_or_eq_of_le hle with hlt | heq
  · rw [depth_toValue_lt_iff] at hlt
    exact .inl ⟨hlt, if_pos hlt⟩
  · have hblocks : s.blockDepth = blockLimit := by
      have hbounds := s.depth_toValue_bounds
      rw [heq, depthLimit] at hbounds
      rw [blockLimit, depthLimit]
      omega
    exact .inr ⟨hblocks, heq, if_neg (Nat.not_lt_of_le (Nat.le_of_eq hblocks.symm))⟩

end Sheet

/-! ## Rules inside of rules -/

namespace Node

/-- A rule inside of so many others. -/
def tower : Nat → Node
  | 0 => .rule "a" []
  | n + 1 => .rule "a" [tower n]

/-- A value that holds the same, with the nodes of the innermost rule left out. -/
def towerValue : Nat → Value
  | 0 => .object [("type", .string "rule"), ("selector", .string "a")]
  | n + 1 =>
    .object [("type", .string "rule"), ("selector", .string "a"), ("nodes", .list [towerValue n])]

variable (n : Nat)

theorem numberless_towerValue : (towerValue n).Numberless := by
  induction n with
  | zero => exact .object (by simp [Value.Numberless.string])
  | succ n ih => exact .object (by simp [Value.Numberless.string, Value.Numberless.list, ih])

theorem depth_towerValue : (towerValue n).depth = 2 * n + 1 := by
  induction n with
  | zero => rfl
  | succ n ih =>
    simp only [towerValue, Value.depth, Value.memberDepth, Value.itemDepth, ih]
    omega

theorem namesKind_towerValue : NamesKind (towerValue n) := by
  cases n <;> simp [towerValue, NamesKind, tagKey]

theorem ofValue_towerValue : ofValue (towerValue n) = .ok (tower n) := by
  induction n with
  | zero => rfl
  | succ n ih =>
    have hitems : ofValues [towerValue n] = .ok [tower n] := by
      rw [ofValues, ih]
      rfl
    have hparts : partsOfMembers .rule {} [("type", .string "rule"), ("selector", .string "a"),
        ("nodes", .list [towerValue n])] =
          ofValues [towerValue n] >>= fun ns => .ok { selector := "a", nodes := ns } := rfl
    rw [hitems] at hparts
    rw [towerValue, ofValue]
    exact bind_eq_ok_iff.2 ⟨.rule, rfl, bind_eq_ok_iff.2 ⟨_, hparts, rfl⟩⟩

end Node

namespace Sheet

def tower (n : Nat) : Sheet := ⟨[Node.tower n]⟩

def towerText (n : Nat) : String := (Value.object [("nodes", .list [Node.towerValue n])]).text

theorem blockDepth_tower (n : Nat) : (tower n).blockDepth = n + 1 := by
  rw [blockDepth, tower, Node.blockDepthOf, Node.blockDepthOf, Nat.max_zero]
  induction n with
  | zero => rfl
  | succ n ih =>
    rw [Node.tower, Node.blockDepth, Node.blockDepthOf, Node.blockDepthOf, Nat.max_zero, ih]

/-- Rules inside of rules are read wherever there is room for the objects and lists that are
given. -/
theorem ofJson_towerText {n : Nat} (h : 2 * n + 1 ≤ nodeRoom) :
    ofJson (towerText n) = .ok (tower n) := by
  have hnumberless : (Value.object [("nodes", .list [Node.towerValue n])]).Numberless :=
    .object (by simp [Value.Numberless.list, Node.numberless_towerValue])
  have hnodes : NodesIn
      (.object (wholeKeys [("nodes", .list [(Node.towerValue n).draft] none)]) none)
      [(Node.towerValue n).draft] := .object rfl (by simp [nodesKey])
  have hvalues : Draft.values nodeRoom [(Node.towerValue n).draft] = .ok [Node.towerValue n] := by
    rw [Draft.values, Value.value_draft, Node.depth_towerValue, fit, if_pos h]
    rfl
  have hgiven : GivenBy (towerText n) [Node.towerValue n] :=
    ⟨_, _, Reading.of_eq (Value.tokens_text hnumberless), hnodes, hvalues⟩
  rw [hgiven.ofJson_eq_ok_iff, List.forall_mem_singleton, Node.ofValues, Node.ofValue_towerValue]
  exact ⟨rfl, Node.namesKind_towerValue n⟩

/-- One rule fewer than the limit, the innermost without its nodes. -/
theorem ofJson_toJson_of_ofJson_tower :
    ofJson (towerText 61) = .ok (tower 61) ∧ ofJson (tower 61).toJson = .ok (tower 61) := by
  have hread : ofJson (towerText 61) = .ok (tower 61) := ofJson_towerText (by decide)
  rcases ofJson_toJson_of_ofJson hread with ⟨-, h⟩ | ⟨h, -⟩
  · exact ⟨hread, h⟩
  · rw [blockDepth_tower] at h
    exact absurd h (by decide)

/-- As many rules as the limit: the stylesheet is read, and its own text is not. -/
theorem ofJson_toJson_tower_tooDeep :
    ofJson (towerText 62) = .ok (tower 62) ∧
      ofJson (tower 62).toJson = .error (.fault .tooDeep) := by
  refine ⟨ofJson_towerText (by decide), ?_⟩
  rw [ofJson_toJson_eq, blockDepth_tower]
  rfl

end Sheet

end Viewport
