import Viewport.Proofs.Json.Take
import Viewport.Proofs.Sheet.Json

/-!
# The fields that a node is made of

A node is made of the values that are given for the fields of its kind, each of them once, and of
the defaults of the fields that are left out. How the fields are given has no part in it: the
members of an object and the items of a list are taken alike.
-/

namespace Viewport

open Json

/-- What a field of a node holds. -/
inductive Part where
  | text (s : String)
  | flag (b : Bool)
  | nodes (ns : List Node)

namespace NodeField

/-- The value that a field has if it is left out. -/
def default? : NodeField → Option Value
  | .params => some (.string "")
  | .nodes => some (.list [])
  | .important => some (.bool false)
  | _ => none

/-- What a value stands for in a field. -/
def partOf : NodeField → Value → Result Part
  | .nodes, .list items => (Node.ofValues items).map .nodes
  | .nodes, v => .error (.wrongType v.found "a sequence")
  | .important, v => v.asBool.map .flag
  | _, v => v.asString.map .text

end NodeField

namespace Node

/-- What a node has in a field. -/
def part? : Node → NodeField → Option Part
  | .rule s _, .selector => some (.text s)
  | .rule _ ns, .nodes => some (.nodes ns)
  | .atRule name _ _, .name => some (.text name)
  | .atRule _ params _, .params => some (.text params)
  | .atRule _ _ ns, .nodes => some (.nodes ns)
  | .declaration d, .property => some (.text d.property)
  | .declaration d, .value => some (.text d.value)
  | .declaration d, .important => some (.flag d.important)
  | .comment t, .text => some (.text t)
  | _, _ => none

end Node

namespace NodeParts

def get (p : NodeParts) : NodeField → Option Part
  | .selector => p.selector.map .text
  | .name => p.name.map .text
  | .params => p.params.map .text
  | .nodes => p.nodes.map .nodes
  | .property => p.property.map .text
  | .value => p.value.map .text
  | .important => p.important.map .flag
  | .text => p.text.map .text

/-- What a field holds, or is to hold if it is left out. -/
def filled (p : NodeParts) (f : NodeField) : Option Part :=
  (p.get f).or (f.default?.bind fun v => (f.partOf v).toOption)

/-- Takes a field, also one that holds nodes. -/
def takeField (p : NodeParts) : NodeField → Value → Result NodeParts
  | .nodes, .list items => (Node.ofValues items).map fun ns => { p with nodes := some ns }
  | .nodes, v => .error (.wrongType v.found "a sequence")
  | f, v => p.take f v

def takeFields (p : NodeParts) : List (NodeField × Value) → Result NodeParts
  | [] => .ok p
  | (f, v) :: ps => p.takeField f v >>= fun q => q.takeFields ps

variable {p q : NodeParts} {f : NodeField} {v : Value} {ps : List (NodeField × Value)}

/-- A part is known if it has a value. -/
theorem has_eq (p : NodeParts) (f : NodeField) : p.has f = (p.get f).isSome := by
  cases f <;> simp [has, get]

theorem get_empty (f : NodeField) : get {} f = none := by cases f <;> rfl

/-- What is taken for a field is what the value stands for there, and other fields are left. -/
theorem takeField_spec (h : p.takeField f v = .ok q) :
    ∃ x, f.partOf v = .ok x ∧ q.get f = some x ∧ ∀ g ≠ f, q.get g = p.get g := by
  cases f with
  | nodes =>
    cases v with
    | list items =>
      obtain ⟨ns, hns, rfl⟩ := map_eq_ok_iff.1 h
      refine ⟨.nodes ns, by rw [NodeField.partOf, hns]; rfl, rfl, fun g hg => ?_⟩
      cases g <;> first | contradiction | rfl
    | _ => cases h
  | important =>
    cases v with
    | bool b =>
      obtain rfl := Except.ok.inj h
      refine ⟨.flag b, rfl, rfl, fun g hg => ?_⟩
      cases g <;> first | contradiction | rfl
    | _ => cases h
  | _ =>
    cases v with
    | string s =>
      obtain rfl := Except.ok.inj h
      refine ⟨.text s, rfl, rfl, fun g hg => ?_⟩
      cases g <;> first | contradiction | rfl
    | _ => cases h

/-- A field can be taken if its value is of the right kind. -/
theorem exists_takeField (p : NodeParts) {x : Part} (h : f.partOf v = .ok x) :
    ∃ q, p.takeField f v = .ok q := by
  cases f with
  | nodes =>
    cases v with
    | list items =>
      obtain ⟨ns, hns, -⟩ := map_eq_ok_iff.1 h
      exact ⟨_, map_eq_ok_iff.2 ⟨ns, hns, rfl⟩⟩
    | _ => cases h
  | important =>
    cases v with
    | bool b => exact ⟨_, rfl⟩
    | _ => cases h
  | _ =>
    cases v with
    | string s => exact ⟨_, rfl⟩
    | _ => cases h

section Filled

variable (p : NodeParts)

/-- A field without a default is filled only if it is given. -/
theorem filled_eq_get (h : f.default? = none) : p.filled f = p.get f := by
  rw [filled, h, Option.bind_none, Option.or_none]

@[simp] theorem filled_selector : p.filled .selector = p.selector.map .text := p.filled_eq_get rfl

@[simp] theorem filled_name : p.filled .name = p.name.map .text := p.filled_eq_get rfl

@[simp] theorem filled_property : p.filled .property = p.property.map .text := p.filled_eq_get rfl

@[simp] theorem filled_value : p.filled .value = p.value.map .text := p.filled_eq_get rfl

@[simp] theorem filled_text : p.filled .text = p.text.map .text := p.filled_eq_get rfl

@[simp] theorem filled_params : p.filled .params = some (.text (p.params.getD "")) := by
  rw [filled, get]
  cases p.params <;> rfl

@[simp] theorem filled_important :
    p.filled .important = some (.flag (p.important.getD false)) := by
  rw [filled, get]
  cases p.important <;> rfl

@[simp] theorem filled_nodes : p.filled .nodes = some (.nodes (p.nodes.getD [])) := by
  rw [filled, get]
  cases p.nodes <;> rfl

end Filled

/-- A node of a kind is made if it has in each field of the kind what is there. -/
theorem node_eq_ok_iff {missing : NodeField → Error} {k : NodeKind} {n : Node} :
    p.node missing k = .ok n ↔ n.kind = k ∧ ∀ f ∈ k.fields, p.filled f = n.part? f := by
  cases k with
  | rule =>
    cases hs : p.selector <;> cases n <;>
      simp [node, NodeKind.fields, Node.kind, Node.part?, hs, bind, Except.bind, pure, Except.pure]
  | atRule =>
    cases hname : p.name <;> cases n <;>
      simp [node, NodeKind.fields, Node.kind, Node.part?, hname, bind, Except.bind, pure,
        Except.pure]
  | declaration =>
    cases hp : p.property <;> cases hv : p.value <;> rcases n with _ | _ | ⟨_, _, _⟩ | _ <;>
      simp [node, NodeKind.fields, Node.kind, Node.part?, hp, hv, bind, Except.bind, pure,
        Except.pure]
  | comment =>
    cases ht : p.text <;> cases n <;>
      simp [node, NodeKind.fields, Node.kind, Node.part?, ht, bind, Except.bind, pure, Except.pure]

/-! ## Fields one after the other -/

/-- The value of a field among those that are given, or else its default. -/
def valueIn (ps : List (NodeField × Value)) (f : NodeField) : Option Value :=
  (ps.lookup f).or f.default?

/-- What the value of a field stands for. -/
def partIn (ps : List (NodeField × Value)) (f : NodeField) : Option Part :=
  (valueIn ps f).bind fun v => (f.partOf v).toOption

theorem lookup_eq_none_of_not_mem {f : NodeField} (h : f ∉ ps.map Prod.fst) :
    ps.lookup f = none :=
  List.lookup_eq_none_iff.2 fun a ha => bne_iff_ne.2 fun heq => h (List.mem_map.2 ⟨a, ha, heq.symm⟩)

/-- Of fields that are each given once, what is looked up is what is there. -/
theorem lookup_eq_some_iff_mem (hnodup : (ps.map Prod.fst).Nodup) :
    ps.lookup f = some v ↔ (f, v) ∈ ps := by
  induction ps with
  | nil => exact iff_of_false nofun nofun
  | cons a ps ih =>
    obtain ⟨g, w⟩ := a
    obtain ⟨hg, hnodup⟩ := List.nodup_cons.1 hnodup
    rw [List.mem_cons, Prod.mk.injEq]
    by_cases heq : f = g
    · subst heq
      have hmem : (f, v) ∉ ps := fun hmem => hg (List.mem_map.2 ⟨_, hmem, rfl⟩)
      rw [List.lookup_cons_self, Option.some.injEq, eq_comm, and_iff_right rfl, or_iff_left hmem]
    · rw [List.lookup_cons, beq_false_of_ne heq, or_iff_right fun h => heq h.1]
      exact ih hnodup

/-- The same fields in another order have the same values. -/
theorem valueIn_of_perm {ps' : List (NodeField × Value)} (hnodup : (ps.map Prod.fst).Nodup)
    (hperm : ps.Perm ps') (f : NodeField) : valueIn ps f = valueIn ps' f := by
  have hnodup' : (ps'.map Prod.fst).Nodup := (hperm.map Prod.fst).nodup hnodup
  have hlookup : ps.lookup f = ps'.lookup f := by
    ext v
    rw [lookup_eq_some_iff_mem hnodup, lookup_eq_some_iff_mem hnodup', hperm.mem_iff]
  rw [valueIn, valueIn, hlookup]

/-- Fields that are given once have the parts of their values afterwards, and the others have what
they had. -/
theorem get_of_takeFields (hnodup : (ps.map Prod.fst).Nodup) (h : p.takeFields ps = .ok q)
    (f : NodeField) :
    (∀ v ∈ ps.lookup f, ∃ x, f.partOf v = .ok x ∧ q.get f = some x) ∧
      (ps.lookup f = none → q.get f = p.get f) := by
  induction ps generalizing p with
  | nil =>
    obtain rfl := Except.ok.inj h
    exact ⟨nofun, fun _ => rfl⟩
  | cons a ps ih =>
    obtain ⟨g, w⟩ := a
    obtain ⟨hg, hnodup⟩ := List.nodup_cons.1 hnodup
    obtain ⟨p', hp', h⟩ := bind_eq_ok_iff.1 h
    obtain ⟨x, hx, hget, hother⟩ := takeField_spec hp'
    obtain ⟨hgiven, hnot⟩ := ih hnodup h
    rw [List.lookup_cons]
    by_cases heq : f = g
    · subst heq
      rw [beq_self_eq_true]
      refine ⟨fun v hv => ?_, nofun⟩
      obtain rfl := Option.some.inj hv
      exact ⟨x, hx, (hnot (lookup_eq_none_of_not_mem hg)).trans hget⟩
    · rw [beq_false_of_ne heq]
      exact ⟨hgiven, fun hnone => (hnot hnone).trans (hother f heq)⟩

/-- Fields that are given once can be taken if each of their values can. -/
theorem exists_takeFields (p : NodeParts) (hnodup : (ps.map Prod.fst).Nodup)
    (h : ∀ f, ∀ v ∈ ps.lookup f, ∃ x, f.partOf v = .ok x) : ∃ q, p.takeFields ps = .ok q := by
  induction ps generalizing p with
  | nil => exact ⟨p, rfl⟩
  | cons a ps ih =>
    obtain ⟨g, w⟩ := a
    obtain ⟨hg, hnodup⟩ := List.nodup_cons.1 hnodup
    obtain ⟨x, hx⟩ := h g w List.lookup_cons_self
    obtain ⟨p', hp'⟩ := exists_takeField p hx
    obtain ⟨q, hq⟩ := ih p' hnodup fun f v hv => by
      have hne : f ≠ g := by
        rintro rfl
        rw [lookup_eq_none_of_not_mem hg] at hv
        cases hv
      refine h f v ?_
      rwa [List.lookup_cons, beq_false_of_ne hne]
    exact ⟨q, bind_eq_ok_iff.2 ⟨p', hp', hq⟩⟩

/-- Fields that are taken one after the other hold what their values stand for. -/
theorem filled_of_takeFields (hnodup : (ps.map Prod.fst).Nodup)
    (h : ({} : NodeParts).takeFields ps = .ok q) (f : NodeField) : q.filled f = partIn ps f := by
  obtain ⟨hgiven, hnot⟩ := get_of_takeFields hnodup h f
  rw [filled, partIn, valueIn]
  cases hv : ps.lookup f with
  | none =>
    rw [hnot hv, get_empty, Option.none_or, Option.none_or]
  | some v =>
    obtain ⟨x, hx, hget⟩ := hgiven v hv
    rw [hget, Option.some_or, Option.some_or, Option.bind_some, hx]
    rfl

end NodeParts

namespace Node

open NodeParts

/-- A node has every field of its kind. -/
theorem exists_part?_of_mem_fields {n : Node} {f : NodeField} (h : f ∈ n.kind.fields) :
    ∃ x, n.part? f = some x := by
  revert h
  cases n <;> cases f <;> simp [kind, NodeKind.fields, part?]

/-- A node is made of the fields of its kind that are given and of the defaults of the others. -/
theorem takeFields_bind_node_eq_ok_iff {k : NodeKind} {ps : List (NodeField × Value)} {n : Node}
    {missing : NodeField → Error} (hnodup : (ps.map Prod.fst).Nodup)
    (hfields : ∀ f ∈ ps.map Prod.fst, f ∈ k.fields) :
    (({} : NodeParts).takeFields ps >>= fun p => p.node missing k) = .ok n ↔
      n.kind = k ∧ ∀ f ∈ k.fields, partIn ps f = n.part? f := by
  rw [bind_eq_ok_iff]
  constructor
  · rintro ⟨q, hq, hn⟩
    obtain ⟨hkind, hparts⟩ := node_eq_ok_iff.1 hn
    exact ⟨hkind, fun f hf => (filled_of_takeFields hnodup hq f).symm.trans (hparts f hf)⟩
  · rintro ⟨rfl, hparts⟩
    have hgiven (f : NodeField) (v : Value) (hv : v ∈ ps.lookup f) : ∃ x, f.partOf v = .ok x := by
      have hf : f ∈ ps.map Prod.fst := Decidable.of_not_not fun hf => by
        rw [lookup_eq_none_of_not_mem hf] at hv
        cases hv
      obtain ⟨x, hx⟩ := exists_part?_of_mem_fields (hfields f hf)
      have hpart := hparts f (hfields f hf)
      rw [hx, partIn, valueIn, Option.mem_def.1 hv, Option.some_or, Option.bind_some,
        toOption_eq_some_iff] at hpart
      exact ⟨x, hpart⟩
    obtain ⟨q, hq⟩ := exists_takeFields {} hnodup hgiven
    refine ⟨q, hq, node_eq_ok_iff.2 ⟨rfl, fun f hf => ?_⟩⟩
    rw [filled_of_takeFields hnodup hq, hparts f hf]

/-! ## Members and items -/

/-- A value that gives the tag and fields of a node: an object, in which members for other fields
may stand, or a list of the tag and the first fields. -/
inductive Gives (k : NodeKind) (tag : Value) : Value → List (NodeField × Value) → Prop
  | object {ms : List (String × Value)} (htag : ms.filter (·.1 = tagKey) = [(tagKey, tag)])
    (hnodup : ((given (fieldOf? k) ms).map Prod.fst).Nodup) :
    Gives k tag (.object ms) (given (fieldOf? k) ms)
  | list {items : List Value} (hlength : items.length ≤ k.fields.length) :
    Gives k tag (.list (tag :: items)) (k.fields.zip items)

section Members

variable {k : NodeKind} {p q : NodeParts} {key : String} {v : Value} {f : NodeField}
  {ms : List (String × Value)}

/-- The tag is no field of any kind. -/
theorem fieldOf?_tagKey (k : NodeKind) : fieldOf? k tagKey = none := by cases k <;> decide

theorem mem_fields_of_fieldOf? (h : fieldOf? k key = some f) : f ∈ k.fields :=
  List.mem_of_find?_eq_some h

theorem fields_nodup (k : NodeKind) : k.fields.Nodup := by cases k <;> decide

theorem partsOfMembers_cons_of_unknown (hk : fieldOf? k key = none) :
    partsOfMembers k p ((key, v) :: ms) = partsOfMembers k p ms := by
  rw [partsOfMembers.eq_def]
  simp only [hk, ite_self]

/-- A member for a field is taken unless the field has been taken before. -/
theorem partsOfMembers_cons_of_known (hk : fieldOf? k key = some f) :
    partsOfMembers k p ((key, v) :: ms) =
      if p.has f then .error (.duplicateField f.key)
      else p.takeField f v >>= fun q => partsOfMembers k q ms := by
  have hkey : key ≠ tagKey := by
    rintro rfl
    cases (fieldOf?_tagKey k).symm.trans hk
  rw [partsOfMembers.eq_def]
  simp only [hk, if_neg hkey]
  cases f with
  | nodes =>
    cases v with
    | list items =>
      cases hns : ofValues items <;> simp [takeField, hns, bind, Except.bind, Except.map]
    | _ => rfl
  | _ => rfl

/-- The members of an object are taken like the fields that they give, if none is given twice. -/
theorem partsOfMembers_eq (hnodup : ((given (fieldOf? k) ms).map Prod.fst).Nodup)
    (hfree : ∀ f ∈ (given (fieldOf? k) ms).map Prod.fst, p.get f = none) :
    partsOfMembers k p ms = p.takeFields (given (fieldOf? k) ms) := by
  induction ms generalizing p with
  | nil =>
    rw [partsOfMembers]
    rfl
  | cons m ms ih =>
    obtain ⟨key, v⟩ := m
    cases hk : fieldOf? k key with
    | none =>
      rw [given_cons_of_unknown hk] at hnodup hfree ⊢
      rw [partsOfMembers_cons_of_unknown hk, ih hnodup hfree]
    | some f =>
      rw [given_cons_of_known hk] at hnodup hfree ⊢
      obtain ⟨hf, hnodup⟩ := List.nodup_cons.1 hnodup
      have hhas : p.has f = false := by rw [has_eq, hfree f List.mem_cons_self]; rfl
      rw [partsOfMembers_cons_of_known hk, hhas, takeFields]
      cases hp : p.takeField f v with
      | error e => rfl
      | ok p' =>
        obtain ⟨-, -, -, hother⟩ := takeField_spec hp
        refine ih hnodup fun g hg => ?_
        rw [hother g (ne_of_mem_of_not_mem hg hf)]
        exact hfree g (List.mem_cons_of_mem _ hg)

/-- An object that is taken gives no field twice. -/
theorem nodup_of_partsOfMembers (h : partsOfMembers k p ms = .ok q) :
    ((given (fieldOf? k) ms).map Prod.fst).Nodup ∧
      ∀ f ∈ (given (fieldOf? k) ms).map Prod.fst, p.get f = none := by
  induction ms generalizing p with
  | nil => exact ⟨List.nodup_nil, nofun⟩
  | cons m ms ih =>
    obtain ⟨key, v⟩ := m
    cases hk : fieldOf? k key with
    | none =>
      rw [given_cons_of_unknown hk]
      exact ih (partsOfMembers_cons_of_unknown hk ▸ h)
    | some f =>
      rw [given_cons_of_known hk]
      rw [partsOfMembers_cons_of_known hk] at h
      split at h
      · cases h
      · rename_i hhas
        obtain ⟨p', hp, h⟩ := bind_eq_ok_iff.1 h
        obtain ⟨x, -, hget, hother⟩ := takeField_spec hp
        obtain ⟨hnodup, hfree⟩ := ih h
        have hf : f ∉ (given (fieldOf? k) ms).map Prod.fst := fun hf => by
          cases hget.symm.trans (hfree f hf)
        refine ⟨List.nodup_cons.2 ⟨hf, hnodup⟩, List.forall_mem_cons.2 ⟨?_, fun g hg => ?_⟩⟩
        · rwa [has_eq, Option.not_isSome_iff_eq_none] at hhas
        · rw [← hother g (ne_of_mem_of_not_mem hg hf)]
          exact hfree g hg

end Members

section Items

variable {p q : NodeParts} {fs : List NodeField} {items : List Value} {total : Nat}

theorem partsOfItems_cons {f : NodeField} {v : Value} :
    partsOfItems p total (f :: fs) (v :: items) =
      p.takeField f v >>= fun q => partsOfItems q total fs items := by
  cases f with
  | nodes =>
    cases v with
    | list inner =>
      rw [partsOfItems, takeField]
      cases ofValues inner <;> rfl
    | _ =>
      rw [partsOfItems]
      · rfl
      · nofun
  | _ =>
    rw [partsOfItems]
    · rfl
    · nofun
    · nofun

/-- The items of a list are taken like the fields in whose places they stand. -/
theorem partsOfItems_eq (hlength : items.length ≤ fs.length) :
    partsOfItems p total fs items = p.takeFields (fs.zip items) := by
  induction items generalizing p fs with
  | nil =>
    rw [partsOfItems, List.zip_nil_right]
    rfl
  | cons v items ih =>
    cases fs with
    | nil => cases hlength
    | cons f fs =>
      rw [partsOfItems_cons, List.zip_cons_cons, takeFields]
      exact congrArg (p.takeField f v >>= ·) (funext fun q => ih (Nat.le_of_succ_le_succ hlength))

/-- A list that is taken has no more items than the kind has fields. -/
theorem length_le_of_partsOfItems (h : partsOfItems p total fs items = .ok q) :
    items.length ≤ fs.length := by
  induction items generalizing p fs with
  | nil => exact Nat.zero_le _
  | cons v items ih =>
    cases fs with
    | nil =>
      rw [partsOfItems] at h
      cases h
    | cons f fs =>
      rw [partsOfItems_cons, bind_eq_ok_iff] at h
      obtain ⟨p', -, h⟩ := h
      exact Nat.succ_le_succ (ih h)

end Items

/-! ## Nodes -/

section Tag

variable {ms : List (String × Value)} {k k' : NodeKind}

/-- Where the kind is known there is no further tag. -/
theorem kindOf_some_eq_ok_iff :
    kindOf (some k) ms = .ok k' ↔ k = k' ∧ ∀ m ∈ ms, m.1 ≠ tagKey := by
  induction ms with
  | nil => simp [kindOf]
  | cons m ms ih =>
    rw [kindOf, List.forall_mem_cons]
    by_cases hm : m.1 = tagKey
    · rw [if_pos hm]
      refine iff_of_false ?_ fun h => h.2.1 hm
      rintro ⟨⟩
    · rw [if_neg hm, ih]
      exact and_congr_right fun _ => (and_iff_right hm).symm

/-- The kind of an object is the one that its tag names, if it has one tag. -/
theorem kindOf_none_eq_ok_iff :
    kindOf none ms = .ok k ↔
      ∃ tag, ms.filter (·.1 = tagKey) = [(tagKey, tag)] ∧ NodeKind.ofValue tag = .ok k := by
  induction ms with
  | nil => simp [kindOf]
  | cons m ms ih =>
    obtain ⟨key, v⟩ := m
    rw [kindOf, List.filter_cons]
    by_cases hkey : key = tagKey
    · subst hkey
      simp only [if_pos, decide_true, List.cons.injEq, Prod.mk.injEq, true_and,
        List.filter_eq_nil_iff, decide_eq_true_eq, bind_eq_ok_iff, kindOf_some_eq_ok_iff]
      constructor
      · rintro ⟨k', hk', rfl, hms⟩
        exact ⟨v, ⟨rfl, hms⟩, hk'⟩
      · rintro ⟨tag, ⟨rfl, hms⟩, hk⟩
        exact ⟨k, hk, rfl, hms⟩
    · simp only [if_neg hkey, decide_eq_false hkey, Bool.false_eq_true, if_false]
      exact ih

end Tag

section Gives

variable {k : NodeKind} {tag v : Value} {ps : List (NodeField × Value)} {n : Node}

/-- No field is given twice. -/
theorem Gives.nodup (h : Gives k tag v ps) : (ps.map Prod.fst).Nodup := by
  cases h with
  | object htag hnodup => exact hnodup
  | list hlength =>
    rw [List.zip_eq_zip_take_min, List.map_fst_zip (by simp)]
    exact (fields_nodup k).sublist (List.take_sublist _ _)

/-- Only fields of the kind are given. -/
theorem Gives.mem_fields (h : Gives k tag v ps) : ∀ f ∈ ps.map Prod.fst, f ∈ k.fields := by
  intro f hf
  obtain ⟨a, ha, rfl⟩ := List.mem_map.1 hf
  cases h with
  | object htag hnodup =>
    obtain ⟨m, -, hm⟩ := List.mem_filterMap.1 ha
    obtain ⟨f, hfield, rfl⟩ := Option.map_eq_some_iff.1 hm
    exact mem_fields_of_fieldOf? hfield
  | list hlength => exact (List.of_mem_zip ha).1

/-- What is made of a value that gives a tag and fields is made of the fields alone. -/
theorem Gives.exists_ofValue_eq (h : Gives k tag v ps) (htag : NodeKind.ofValue tag = .ok k) :
    ∃ missing, ofValue v = ({} : NodeParts).takeFields ps >>= fun p => p.node missing k := by
  cases h with
  | object hfilter hnodup =>
    have hkind := kindOf_none_eq_ok_iff.2 ⟨tag, hfilter, htag⟩
    refine ⟨fun f => .missingField f.key, ?_⟩
    rw [ofValue, hkind, ← partsOfMembers_eq hnodup fun f _ => get_empty f]
    rfl
  | @list items hlength =>
    refine ⟨fun _ => .wrongLength items.length k.whole, ?_⟩
    rw [ofValue, htag, ← partsOfItems_eq hlength]
    rfl

/-- A value that gives the fields of a kind, and the tag of the kind, holds the node that has in
each field what is given there, or the default. -/
theorem Gives.ofValue_eq_ok_iff (h : Gives k tag v ps) (htag : NodeKind.ofValue tag = .ok k) :
    ofValue v = .ok n ↔ n.kind = k ∧ ∀ f ∈ k.fields, partIn ps f = n.part? f := by
  obtain ⟨missing, hv⟩ := h.exists_ofValue_eq htag
  rw [hv, takeFields_bind_node_eq_ok_iff h.nodup h.mem_fields]

/-- Whatever holds a node gives the tag of its kind and fields of it. -/
theorem exists_gives_of_ofValue (h : ofValue v = .ok n) :
    ∃ tag ps, NodeKind.ofValue tag = .ok n.kind ∧ Gives n.kind tag v ps := by
  cases v with
  | object ms =>
    rw [ofValue, bind_eq_ok_iff] at h
    obtain ⟨k, hk, h⟩ := h
    obtain ⟨q, hq, hn⟩ := bind_eq_ok_iff.1 h
    obtain ⟨rfl, -⟩ := node_eq_ok_iff.1 hn
    obtain ⟨tag, hfilter, htag⟩ := kindOf_none_eq_ok_iff.1 hk
    exact ⟨tag, _, htag, .object hfilter (nodup_of_partsOfMembers hq).1⟩
  | list items =>
    cases items with
    | nil => cases h
    | cons tag items =>
      rw [ofValue, bind_eq_ok_iff] at h
      obtain ⟨k, hk, h⟩ := h
      obtain ⟨q, hq, hn⟩ := bind_eq_ok_iff.1 h
      obtain ⟨rfl, -⟩ := node_eq_ok_iff.1 hn
      exact ⟨tag, _, hk, .list (length_le_of_partsOfItems hq)⟩
  | _ => cases h

end Gives

end Node

end Viewport
