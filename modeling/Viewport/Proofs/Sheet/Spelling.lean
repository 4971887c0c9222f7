import Mathlib.Data.List.Forall2
import Viewport.Proofs.Sheet.Parts

/-!
# Stylesheets under any spelling

A node may be spelled in many ways: its tag and its fields in any order, among other members or
without names in a list, and its defaults written out or left out. The nodes inside of it may be
spelled differently as well, and so may the stylesheet around it. All spellings of one content are
read as the same stylesheet, wherever there is room for the lists and objects in them, and wherever
the texts and numbers in the nodes have values. A node is read as a whole before it is known what
its members are for, so this is asked of all of them.
-/

namespace Viewport

open Json

namespace Node

open NodeParts

/-! ## Spellings of a node -/

/-- The values of a field in two spellings: they are the same, or lists of nodes whose contents
are the same. -/
inductive SameField (R : Value → Value → Prop) : NodeField → Option Value → Option Value → Prop
  | refl (f : NodeField) (v : Option Value) : SameField R f v v
  | nodes {items items' : List Value} (h : List.Forall₂ R items items') :
    SameField R .nodes (some (.list items)) (some (.list items'))

/-- Two values that give the tag of a kind, and for each field of the kind the same, once its
default is filled in. -/
inductive SameContent : Value → Value → Prop
  | intro {k : NodeKind} {tag v v' : Value} {ps ps' : List (NodeField × Value)}
    (htag : NodeKind.ofValue tag = .ok k) (h : Gives k tag v ps) (h' : Gives k tag v' ps')
    (hfields : ∀ f ∈ k.fields, SameField SameContent f (valueIn ps f) (valueIn ps' f)) :
    SameContent v v'

/-- Every other spelling of the content of `n` is read as `n`. -/
def Respellable (n : Node) : Prop :=
  ∀ v v', SameContent v v' → ofValue v = .ok n → ofValue v' = .ok n

section SameContent

variable {v v' : Value} {n : Node} {ns : List Node}

theorem part?_nodes (n : Node) : n.part? .nodes = n.children?.map .nodes := by cases n <;> rfl

/-- Nodes in a list are read as the same if each may be respelled. -/
theorem ofValues_of_forall₂ {items items' : List Value} (hns : ∀ n ∈ ns, Respellable n)
    (h : List.Forall₂ SameContent items items') (hitems : ofValues items = .ok ns) :
    ofValues items' = .ok ns := by
  induction h generalizing ns with
  | nil => exact hitems
  | cons hv _ ih =>
    rw [ofValues] at hitems ⊢
    obtain ⟨n, hn, hitems⟩ := bind_eq_ok_iff.1 hitems
    obtain ⟨ms, hms, hitems⟩ := bind_eq_ok_iff.1 hitems
    obtain rfl := Except.ok.inj hitems
    obtain ⟨hhead, htail⟩ := List.forall_mem_cons.1 hns
    rw [hhead _ _ hv hn, ih htail hms]
    rfl

/-- A node is respellable if the nodes in it are. -/
theorem respellable_of_children (h : ∀ ns ∈ n.children?, ∀ m ∈ ns, Respellable m) :
    Respellable n := by
  rintro v v' ⟨htag, hv, hv', hfields⟩ hn
  rw [hv.ofValue_eq_ok_iff htag] at hn
  rw [hv'.ofValue_eq_ok_iff htag]
  obtain ⟨rfl, hparts⟩ := hn
  refine ⟨rfl, fun f hf => ?_⟩
  have hpart := hparts f hf
  have hfield := hfields f hf
  rw [partIn] at hpart ⊢
  generalize valueIn _ f = x at hpart hfield
  generalize valueIn _ f = x' at hfield ⊢
  cases hfield with
  | refl => exact hpart
  | nodes hitems =>
    obtain ⟨x, hx⟩ := exists_part?_of_mem_fields hf
    rw [hx, Option.bind_some, toOption_eq_some_iff] at hpart
    obtain ⟨ns, hns, rfl⟩ := map_eq_ok_iff.1 hpart
    have hchildren : n.children? = some ns := by
      rw [part?_nodes] at hx
      obtain ⟨ms, hms, hx⟩ := Option.map_eq_some_iff.1 hx
      rw [hms, Part.nodes.inj hx]
    have hns' := ofValues_of_forall₂ (h ns hchildren) hitems hns
    rw [hx, Option.bind_some, toOption_eq_some_iff]
    exact map_eq_ok_iff.2 ⟨ns, hns', rfl⟩

/-- Every node may be respelled, by induction on the nodes in it. -/
theorem respellable (n : Node) : Respellable n := by
  induction n using inductionOn with
  | rule selector ns ih | atRule name params ns ih =>
    apply respellable_of_children
    intro ns hns
    obtain rfl := Option.some.inj hns
    exact ih
  | declaration d | comment t =>
    apply respellable_of_children
    rintro ns ⟨⟩

/-- Each item of a list that is read is read as a node. -/
theorem exists_ofValue_of_mem {vs : List Value} (h : ofValues vs = .ok ns) (hv : v ∈ vs) :
    ∃ n, ofValue v = .ok n := by
  induction vs generalizing ns with
  | nil => cases hv
  | cons w ws ih =>
    rw [ofValues, bind_eq_ok_iff] at h
    obtain ⟨n, hn, h⟩ := h
    obtain ⟨ms, hms, -⟩ := bind_eq_ok_iff.1 h
    obtain rfl | hv := List.mem_cons.1 hv
    · exact ⟨n, hn⟩
    · exact ih hms hv

/-- The fields of a node may be given in any order. -/
theorem sameContent_of_perm {k : NodeKind} {tag : Value} {ps ps' : List (NodeField × Value)}
    (htag : NodeKind.ofValue tag = .ok k) (h : Gives k tag v ps) (h' : Gives k tag v' ps')
    (hperm : ps.Perm ps') : SameContent v v' :=
  .intro htag h h' fun f _ => valueIn_of_perm h.nodup hperm f ▸ .refl f _

/-- A value that is read as a node has its own content. -/
theorem sameContent_self (h : ofValue v = .ok n) : SameContent v v := by
  obtain ⟨tag, ps, htag, hgives⟩ := exists_gives_of_ofValue h
  exact sameContent_of_perm htag hgives hgives (.refl ps)

end SameContent

/-! ## Drafts of nodes -/

/-- The tag is written by its name: among all kinds, or where it is met first, the place of the kind
does not do. -/
def NamesKind : Value → Prop
  | .object ms => ∀ m ∈ ms, m.1 = tagKey → ∃ s, m.2 = .string s
  | .list (tag :: _) => ∃ s, tag = .string s
  | _ => True

section Draft

variable {room : Nat} {d : Draft} {v : Value} {n : Node} {k : NodeKind}

/-- A tag that is met first has to be a string. -/
theorem ofDraft_tag_eq_ok_iff (hd : d.value room = .ok v) :
    NodeKind.ofDraft d = .ok k ↔ NodeKind.ofValue v = .ok k ∧ ∃ s, v = .string s := by
  cases Draft.hasValue_of_value hd with
  | string s => exact (and_iff_left ⟨s, rfl⟩).symm
  | _ =>
    refine iff_of_false Draft.refuse_ne_ok ?_
    rintro ⟨-, s, ⟨⟩⟩

/-- The members of a node are read as they are met, and the tag is taken from among them. -/
theorem readMembers_eq_ok_iff {ms : List (Except Fault String × Draft)}
    {vs rest : List (String × Value)} (hms : Draft.memberValues room ms = .ok vs)
    {found : Option NodeKind} :
    readMembers room found ms = .ok (some k, rest) ↔
      kindOf found vs = .ok k ∧ (∀ m ∈ vs, m.1 = tagKey → ∃ s, m.2 = .string s) ∧
        rest = vs.filter (·.1 ≠ tagKey) := by
  induction ms generalizing vs rest found with
  | nil =>
    obtain rfl := Except.ok.inj hms
    cases found <;> simp [readMembers, kindOf, eq_comm]
  | cons m ms ih =>
    obtain ⟨key, d⟩ := m
    obtain ⟨key, v, ws, rfl, hd, hws, rfl⟩ := Draft.memberValues_cons_eq_ok_iff.1 hms
    rw [List.forall_mem_cons]
    by_cases hkey : key = tagKey
    · subst hkey
      cases found with
      | some k' =>
        have hread : readMembers room (some k') ((.ok tagKey, d) :: ms) =
            .error (.duplicateField tagKey) := by
          rw [readMembers]
          rfl
        have hkind : kindOf (some k') ((tagKey, v) :: ws) = .error (.duplicateField tagKey) := by
          rw [kindOf]
          rfl
        rw [hread, hkind]
        refine iff_of_false ?_ ?_
        · rintro ⟨⟩
        · rintro ⟨⟨⟩, -⟩
      | none =>
        rw [readMembers_cons_tagKey, kindOf, if_pos rfl, List.filter_cons_of_neg (by simp)]
        simp only [bind_eq_ok_iff, ofDraft_tag_eq_ok_iff hd, ih hws]
        constructor
        · rintro ⟨k', ⟨hk', hs⟩, hkind, hstrings, hrest⟩
          exact ⟨⟨k', hk', hkind⟩, ⟨fun _ => hs, hstrings⟩, hrest⟩
        · rintro ⟨⟨k', hk', hkind⟩, ⟨hs, hstrings⟩, hrest⟩
          exact ⟨k', ⟨hk', hs trivial⟩, hkind, hstrings, hrest⟩
    · have hkind : kindOf found ((key, v) :: ws) = kindOf found ws := by
        cases found <;> rw [kindOf, if_neg hkey]
      rw [readMembers_cons_of_ne hkey, hd, hkind, List.filter_cons_of_pos (by simpa using hkey)]
      simp only [bind_eq_ok_iff, Except.ok.injEq, exists_eq_left']
      constructor
      · rintro ⟨⟨kind, inner⟩, hread, heq⟩
        obtain ⟨rfl, rfl⟩ := Prod.mk.inj heq
        obtain ⟨hkind, hstrings, rfl⟩ := (ih hws).1 hread
        exact ⟨hkind, ⟨fun h => absurd h hkey, hstrings⟩, rfl⟩
      · rintro ⟨hkind, ⟨-, hstrings⟩, rfl⟩
        exact ⟨_, (ih hws).2 ⟨hkind, hstrings, rfl⟩, rfl⟩

/-- The tag is no part of a node. -/
theorem partsOfMembers_filter {p : NodeParts} (vs : List (String × Value)) :
    partsOfMembers k p (vs.filter (·.1 ≠ tagKey)) = partsOfMembers k p vs := by
  induction vs generalizing p with
  | nil => rfl
  | cons m vs ih =>
    obtain ⟨key, v⟩ := m
    by_cases hkey : key = tagKey
    · subst hkey
      rw [List.filter_cons_of_neg (by simp), ih,
        partsOfMembers_cons_of_unknown (fieldOf?_tagKey k)]
    · rw [List.filter_cons_of_pos (by simpa using hkey)]
      cases hk : fieldOf? k key with
      | none => rw [partsOfMembers_cons_of_unknown hk, partsOfMembers_cons_of_unknown hk, ih]
      | some f =>
        rw [partsOfMembers_cons_of_known hk, partsOfMembers_cons_of_known hk]
        simp only [ih]

/-- A node is taken from a draft as from the value of the draft, if its tag is a name. -/
theorem ofDraft_eq_ok_iff (hd : d.value room = .ok v) :
    ofDraft room d = .ok n ↔ ofValue v = .ok n ∧ NamesKind v := by
  cases Draft.hasValue_of_value hd with
  | @object room ms vs hms =>
    rw [ofDraft, ofValue, NamesKind]
    simp only [enter, bind_eq_ok_iff, Draft.failAt_eq_ok_iff]
    constructor
    · rintro ⟨⟨kind, rest⟩, hread, -, -, hn⟩
      cases kind with
      | none => cases hn
      | some k =>
        obtain ⟨hkind, hstrings, rfl⟩ := (readMembers_eq_ok_iff hms).1 hread
        dsimp only at hn
        rw [partsOfMembers_filter] at hn
        exact ⟨⟨k, hkind, bind_eq_ok_iff.1 hn⟩, hstrings⟩
    · rintro ⟨⟨k, hkind, hn⟩, hstrings⟩
      refine ⟨_, (readMembers_eq_ok_iff hms).2 ⟨hkind, hstrings, rfl⟩, (), ⟨trivial, trivial⟩, ?_⟩
      dsimp only
      rw [partsOfMembers_filter]
      exact bind_eq_ok_iff.2 hn
  | @list room items vs hvs =>
    cases items with
    | nil =>
      obtain rfl := Except.ok.inj hvs
      refine iff_of_false ?_ ?_
      · rintro ⟨⟩
      · rintro ⟨⟨⟩, -⟩
    | cons d items =>
      obtain ⟨tag, ws, htag, hws, rfl⟩ := Draft.values_cons_eq_ok_iff.1 hvs
      rw [ofDraft, ofValue, NamesKind]
      simp only [enter, bind_eq_ok_iff, Draft.failAt_eq_ok_iff, ofDraft_tag_eq_ok_iff htag, hws,
        Except.ok.injEq, exists_eq_left']
      constructor
      · rintro ⟨k, ⟨hk, hname⟩, -, -, hn⟩
        exact ⟨⟨k, hk, hn⟩, hname⟩
      · rintro ⟨⟨k, hk, hn⟩, hname⟩
        exact ⟨k, ⟨hk, hname⟩, (), ⟨trivial, trivial⟩, hn⟩
  | _ =>
    refine iff_of_false Draft.refuse_ne_ok ?_
    rintro ⟨⟨⟩, -⟩

theorem exists_value_of_ofDraft_tag (h : NodeKind.ofDraft d = .ok k) (room : Nat) :
    ∃ v, d.value room = .ok v := by
  rw [NodeKind.ofDraft.eq_def] at h
  split at h
  · exact ⟨_, rfl⟩
  · exact absurd h Draft.refuse_ne_ok

/-- Of an object that is read as a node every member has a value. -/
theorem exists_memberValues_of_readMembers {ms : List (Except Fault String × Draft)}
    {found : Option NodeKind} {r : Option NodeKind × List (String × Value)}
    (h : readMembers room found ms = .ok r) : ∃ vs, Draft.memberValues room ms = .ok vs := by
  induction ms generalizing found r with
  | nil => exact ⟨[], rfl⟩
  | cons m ms ih =>
    obtain ⟨key, d⟩ := m
    obtain ⟨key, rfl⟩ : ∃ k, key = .ok k := by
      rw [readMembers, bind_eq_ok_iff] at h
      obtain ⟨k, hk, -⟩ := h
      exact ⟨k, Draft.wholeString_eq_ok_iff.1 hk⟩
    have hcons {v : Value} (hd : d.value room = .ok v)
        (hms : ∃ vs, Draft.memberValues room ms = .ok vs) :
        ∃ vs, Draft.memberValues room ((.ok key, d) :: ms) = .ok vs := by
      obtain ⟨vs, hvs⟩ := hms
      exact ⟨_, Draft.memberValues_cons_eq_ok_iff.2 ⟨key, v, vs, rfl, hd, hvs, rfl⟩⟩
    by_cases hkey : key = tagKey
    · subst hkey
      cases found with
      | some k =>
        rw [readMembers] at h
        cases h
      | none =>
        rw [readMembers_cons_tagKey, bind_eq_ok_iff] at h
        obtain ⟨k, hk, h⟩ := h
        obtain ⟨v, hv⟩ := exists_value_of_ofDraft_tag hk room
        exact hcons hv (ih h)
    · rw [readMembers_cons_of_ne hkey, bind_eq_ok_iff] at h
      obtain ⟨v, hv, h⟩ := h
      obtain ⟨r, hr, -⟩ := bind_eq_ok_iff.1 h
      exact hcons hv (ih hr)

/-- A node is taken only from a draft that has a value. -/
theorem exists_value_of_ofDraft (h : ofDraft room d = .ok n) : ∃ v, d.value room = .ok v := by
  cases d with
  | object ms b =>
    rw [ofDraft, Draft.enter_eq_ok_iff] at h
    simp only [bind_eq_ok_iff, Draft.failAt_eq_ok_iff] at h
    obtain ⟨room, rfl, r, hr, -, ⟨rfl, -⟩, -⟩ := h
    obtain ⟨vs, hvs⟩ := exists_memberValues_of_readMembers hr
    exact ⟨.object vs, bind_eq_ok_iff.2 ⟨vs, hvs, rfl⟩⟩
  | list items b =>
    cases items with
    | nil =>
      rw [ofDraft, Draft.enter_eq_ok_iff] at h
      simp only [bind_eq_ok_iff] at h
      obtain ⟨-, -, -, -, h⟩ := h
      cases h
    | cons d items =>
      rw [ofDraft, Draft.enter_eq_ok_iff] at h
      simp only [bind_eq_ok_iff, Draft.failAt_eq_ok_iff] at h
      obtain ⟨room, rfl, k, hk, vs, hvs, -, ⟨rfl, -⟩, -⟩ := h
      obtain ⟨tag, htag⟩ := exists_value_of_ofDraft_tag hk room
      have hitems := Draft.values_cons_eq_ok_iff.2 ⟨tag, vs, htag, hvs, rfl⟩
      exact ⟨.list (tag :: vs), bind_eq_ok_iff.2 ⟨_, hitems, rfl⟩⟩
  | _ => exact absurd h Draft.refuse_ne_ok

theorem Gives.namesKind_iff {tag : Value} {ps : List (NodeField × Value)} (h : Gives k tag v ps) :
    NamesKind v ↔ ∃ s, tag = .string s := by
  cases h with
  | @object ms hfilter hnodup =>
    have hmem (m : String × Value) : m ∈ ms.filter (·.1 = tagKey) ↔ m = (tagKey, tag) := by
      rw [hfilter, List.mem_singleton]
    simp only [List.mem_filter, decide_eq_true_eq] at hmem
    constructor
    · intro h
      obtain ⟨hm, hkey⟩ := (hmem (tagKey, tag)).2 rfl
      exact h _ hm hkey
    · intro hs m hm hkey
      rw [(hmem m).1 ⟨hm, hkey⟩]
      exact hs
  | list hlength => rfl

/-- A tag that is a name is one in every spelling. -/
theorem namesKind_of_forall₂ {vs vs' : List Value} (h : List.Forall₂ SameContent vs vs')
    (hvs : ∀ v ∈ vs, NamesKind v) : ∀ v ∈ vs', NamesKind v := by
  induction h with
  | nil => exact hvs
  | cons hv _ ih =>
    rw [List.forall_mem_cons] at hvs ⊢
    obtain ⟨-, hgives, hgives', -⟩ := hv
    rw [hgives.namesKind_iff] at hvs
    exact ⟨hgives'.namesKind_iff.2 hvs.1, ih hvs.2⟩

/-- Drafts of nodes are read as their values are, where the tags are names. -/
theorem ofDrafts_eq_ok_iff {ds : List Draft} {vs : List Value} {ns : List Node}
    (h : Draft.values room ds = .ok vs) :
    ofDrafts room ds = .ok ns ↔ ofValues vs = .ok ns ∧ ∀ v ∈ vs, NamesKind v := by
  induction ds generalizing vs ns with
  | nil =>
    obtain rfl := Except.ok.inj h
    simp [ofDrafts, ofValues]
  | cons d ds ih =>
    obtain ⟨v, ws, hd, hws, rfl⟩ := Draft.values_cons_eq_ok_iff.1 h
    rw [ofDrafts, ofValues, List.forall_mem_cons]
    simp only [bind_eq_ok_iff, ofDraft_eq_ok_iff hd, ih hws]
    constructor
    · rintro ⟨n, ⟨hn, hname⟩, ms, ⟨hms, hnames⟩, h⟩
      exact ⟨⟨n, hn, ms, hms, h⟩, hname, hnames⟩
    · rintro ⟨⟨n, hn, ms, hms, h⟩, hname, hnames⟩
      exact ⟨n, ⟨hn, hname⟩, ms, ⟨hms, hnames⟩, h⟩

/-- Drafts that are read as nodes have values. -/
theorem exists_values_of_ofDrafts {ds : List Draft} {ns : List Node}
    (h : ofDrafts room ds = .ok ns) : ∃ vs, Draft.values room ds = .ok vs := by
  induction ds generalizing ns with
  | nil => exact ⟨[], rfl⟩
  | cons d ds ih =>
    rw [ofDrafts, bind_eq_ok_iff] at h
    obtain ⟨n, hn, h⟩ := h
    obtain ⟨ms, hms, -⟩ := bind_eq_ok_iff.1 h
    obtain ⟨v, hv⟩ := exists_value_of_ofDraft hn
    obtain ⟨vs, hvs⟩ := ih hms
    exact ⟨v :: vs, Draft.values_cons_eq_ok_iff.2 ⟨v, vs, hv, hvs, rfl⟩⟩

theorem listOfDraft_eq_ok_iff {ns : List Node} :
    listOfDraft room d = .ok ns ↔
      ∃ inner items, room = inner + 1 ∧ d = .list items none ∧ ofDrafts inner items = .ok ns := by
  cases d with
  | list items b =>
    rw [listOfDraft, Draft.enter_eq_ok_iff]
    simp only [bind_eq_ok_iff, Draft.failAt_eq_ok_iff]
    constructor
    · rintro ⟨inner, rfl, ms, hms, rfl, rfl⟩
      exact ⟨inner, items, rfl, rfl, hms⟩
    · rintro ⟨inner, _, rfl, ⟨⟩, h⟩
      exact ⟨inner, rfl, ns, h, rfl, rfl⟩
  | _ =>
    refine iff_of_false Draft.refuse_ne_ok ?_
    rintro ⟨_, _, _, ⟨⟩, _⟩

end Draft

end Node

namespace Sheet

/-! ## Spellings of a stylesheet -/

/-- How many lists and objects may be open in a node of a stylesheet. -/
def nodeRoom : Nat := innerRoom - 1

/-- A draft that holds the drafts of nodes: an object with the nodes among other members, which are
well-formed, or a list of the nodes alone. -/
inductive NodesIn : Draft → List Draft → Prop
  | object {ms : List (String × Draft)} {items : List Draft}
    (hnodes : ms.filter (·.1 = nodesKey) = [(nodesKey, .list items none)])
    (hskip : ∀ m ∈ ms, m.1 ≠ nodesKey → m.2.skip = .ok ()) :
    NodesIn (.object (wholeKeys ms) none) items
  | list (items : List Draft) : NodesIn (.list [.list items none] none) items

/-- A text that gives the values of nodes: there is room for their lists and objects, no string or
key in them is half of a pair of surrogates, and no number is too large. -/
def GivenBy (text : String) (vs : List Value) : Prop :=
  ∃ d items, Reading.of text.toList = ⟨d, false⟩ ∧ NodesIn d items ∧
    Draft.values nodeRoom items = .ok vs

section Members

variable {ms : List (String × Draft)} {ns : List Node} {found : Option (List Node)} {key : String}
  {d : Draft}

/-- A member of a stylesheet that does not hold its nodes is passed over. -/
theorem nodesOfMembers_cons_of_ne {ms : List (Except Fault String × Draft)}
    (hkey : key ≠ nodesKey) :
    nodesOfMembers found ((.ok key, d) :: ms) = d.skip >>= fun _ => nodesOfMembers found ms := by
  rw [nodesOfMembers]
  exact if_neg hkey

theorem nodesOfMembers_cons_nodesKey {ms : List (Except Fault String × Draft)} :
    nodesOfMembers none ((.ok nodesKey, d) :: ms) =
      Node.listOfDraft innerRoom d >>= fun ns => nodesOfMembers (some ns) ms := by
  rw [nodesOfMembers]
  rfl

/-- After the nodes there may be other members, but no more nodes. -/
theorem nodesOfMembers_some_eq_ok_iff :
    nodesOfMembers (some ns) (wholeKeys ms) = .ok found ↔
      found = some ns ∧ ∀ m ∈ ms, m.1 ≠ nodesKey ∧ m.2.skip = .ok () := by
  induction ms with
  | nil => simp [wholeKeys, nodesOfMembers, eq_comm]
  | cons m ms ih =>
    obtain ⟨key, d⟩ := m
    rw [wholeKeys_cons, List.forall_mem_cons]
    by_cases hkey : key = nodesKey
    · subst hkey
      have hrun : nodesOfMembers (some ns) ((.ok nodesKey, d) :: wholeKeys ms) =
          .error (.duplicateField nodesKey) := by
        rw [nodesOfMembers]
        rfl
      rw [hrun]
      refine iff_of_false ?_ fun h => h.2.1.1 rfl
      rintro ⟨⟩
    · rw [nodesOfMembers_cons_of_ne hkey, bind_eq_ok_iff, ih]
      constructor
      · rintro ⟨⟨⟩, hd, hfound, hms⟩
        exact ⟨hfound, ⟨hkey, hd⟩, hms⟩
      · rintro ⟨hfound, ⟨-, hd⟩, hms⟩
        exact ⟨(), hd, hfound, hms⟩

/-- The nodes of an object are those of its one member for them; the others are passed over. -/
theorem nodesOfMembers_none_eq_ok_iff :
    nodesOfMembers none (wholeKeys ms) = .ok (some ns) ↔
      (∃ d, ms.filter (·.1 = nodesKey) = [(nodesKey, d)] ∧
        Node.listOfDraft innerRoom d = .ok ns) ∧
      ∀ m ∈ ms, m.1 ≠ nodesKey → m.2.skip = .ok () := by
  induction ms with
  | nil => simp [wholeKeys, nodesOfMembers]
  | cons m ms ih =>
    obtain ⟨key, d⟩ := m
    rw [wholeKeys_cons, List.forall_mem_cons]
    by_cases hkey : key = nodesKey
    · subst hkey
      rw [nodesOfMembers_cons_nodesKey, List.filter_cons_of_pos (by simp)]
      simp only [bind_eq_ok_iff, nodesOfMembers_some_eq_ok_iff, List.cons.injEq, Prod.mk.injEq,
        true_and, List.filter_eq_nil_iff, decide_eq_true_eq]
      constructor
      · rintro ⟨ns, hns, ⟨⟩, hms⟩
        exact ⟨⟨d, ⟨rfl, fun m hm => (hms m hm).1⟩, hns⟩, fun h => absurd rfl h,
          fun m hm _ => (hms m hm).2⟩
      · rintro ⟨⟨d, ⟨rfl, hkeys⟩, hns⟩, -, hskip⟩
        exact ⟨ns, hns, rfl, fun m hm => ⟨hkeys m hm, hskip m hm (hkeys m hm)⟩⟩
    · rw [nodesOfMembers_cons_of_ne hkey, List.filter_cons_of_neg (by simpa using hkey),
        bind_eq_ok_iff, ih]
      constructor
      · rintro ⟨⟨⟩, hd, hnodes, hskip⟩
        exact ⟨hnodes, fun _ => hd, hskip⟩
      · rintro ⟨hnodes, hd, hskip⟩
        exact ⟨(), hd hkey, hnodes, hskip⟩

/-- An object that is read as a stylesheet has whole keys. -/
theorem exists_wholeKeys_of_nodesOfMembers {ms : List (Except Fault String × Draft)}
    {r : Option (List Node)} (h : nodesOfMembers found ms = .ok r) : ∃ ms', ms = wholeKeys ms' := by
  induction ms generalizing found with
  | nil => exact ⟨[], rfl⟩
  | cons m ms ih =>
    obtain ⟨key, d⟩ := m
    obtain ⟨key, rfl⟩ : ∃ k, key = .ok k := by
      rw [nodesOfMembers, bind_eq_ok_iff] at h
      obtain ⟨k, hk, -⟩ := h
      exact ⟨k, Draft.wholeString_eq_ok_iff.1 hk⟩
    obtain ⟨found', hms⟩ : ∃ found', nodesOfMembers found' ms = .ok r := by
      by_cases hkey : key = nodesKey
      · subst hkey
        cases found with
        | some ns =>
          rw [nodesOfMembers] at h
          cases h
        | none =>
          rw [nodesOfMembers_cons_nodesKey, bind_eq_ok_iff] at h
          obtain ⟨ns, -, h⟩ := h
          exact ⟨_, h⟩
      · rw [nodesOfMembers_cons_of_ne hkey, bind_eq_ok_iff] at h
        obtain ⟨-, -, h⟩ := h
        exact ⟨_, h⟩
    obtain ⟨ms', rfl⟩ := ih hms
    exact ⟨(key, d) :: ms', rfl⟩

end Members

section Draft

variable {d : Draft} {s : Sheet}

theorem listOfDraft_innerRoom {items : List Draft} {ns : List Node} :
    Node.listOfDraft innerRoom (.list items none) = .ok ns ↔
      Node.ofDrafts nodeRoom items = .ok ns := by
  rw [Node.listOfDraft_eq_ok_iff]
  constructor
  · rintro ⟨inner, _, hinner, ⟨⟩, h⟩
    obtain rfl := Nat.succ.inj hinner
    exact h
  · exact fun h => ⟨nodeRoom, items, rfl, rfl, h⟩

/-- A stylesheet in an object is what its members hold. -/
theorem ofDraft_object_eq_ok_iff {ms : List (Except Fault String × Draft)} {b : Option Break} :
    ofDraft (.object ms b) = .ok s ↔ nodesOfMembers none ms = .ok (some s.nodes) ∧ b = none := by
  rw [ofDraft]
  simp only [bind_eq_ok_iff, Draft.failAt_eq_ok_iff]
  constructor
  · rintro ⟨found, hfound, -, ⟨rfl, -⟩, h⟩
    cases found with
    | none => cases h
    | some ns =>
      obtain rfl := Except.ok.inj h
      exact ⟨hfound, rfl⟩
  · rintro ⟨h, rfl⟩
    exact ⟨some s.nodes, h, (), ⟨rfl, trivial⟩, rfl⟩

/-- A stylesheet in a list has its nodes as the only item. -/
theorem ofDraft_list_eq_ok_iff {rest : List Draft} {b : Option Break} :
    ofDraft (.list (d :: rest) b) = .ok s ↔
      Node.listOfDraft innerRoom d = .ok s.nodes ∧ rest = [] ∧ b = none := by
  rw [ofDraft]
  simp only [bind_eq_ok_iff, endOfList_eq_ok_iff]
  constructor
  · rintro ⟨ns, hns, -, hend, h⟩
    obtain rfl := Except.ok.inj h
    exact ⟨hns, hend⟩
  · rintro ⟨h, hend⟩
    exact ⟨s.nodes, h, (), hend, rfl⟩

/-- A stylesheet is read if its nodes are. -/
theorem NodesIn.ofDraft_eq_ok_iff {items : List Draft} (h : NodesIn d items) :
    ofDraft d = .ok s ↔ Node.ofDrafts nodeRoom items = .ok s.nodes := by
  cases h with
  | object hnodes hskip =>
    rw [ofDraft_object_eq_ok_iff, and_iff_left rfl, nodesOfMembers_none_eq_ok_iff,
      and_iff_left hskip, hnodes, ← listOfDraft_innerRoom]
    simp
  | list => rw [ofDraft_list_eq_ok_iff, and_iff_left ⟨rfl, rfl⟩, listOfDraft_innerRoom]

/-- What is read as a stylesheet holds nodes. -/
theorem exists_nodesIn_of_ofDraft (h : ofDraft d = .ok s) : ∃ items, NodesIn d items := by
  cases d with
  | object ms b =>
    obtain ⟨hrun, rfl⟩ := ofDraft_object_eq_ok_iff.1 h
    obtain ⟨ms, rfl⟩ := exists_wholeKeys_of_nodesOfMembers hrun
    obtain ⟨⟨d, hnodes, hd⟩, hskip⟩ := nodesOfMembers_none_eq_ok_iff.1 hrun
    obtain ⟨-, items, -, rfl, -⟩ := Node.listOfDraft_eq_ok_iff.1 hd
    exact ⟨items, .object hnodes hskip⟩
  | list ds b =>
    cases ds with
    | nil =>
      rw [ofDraft, bind_eq_ok_iff] at h
      obtain ⟨-, -, h⟩ := h
      cases h
    | cons d rest =>
      obtain ⟨hd, rfl, rfl⟩ := ofDraft_list_eq_ok_iff.1 h
      obtain ⟨-, items, -, rfl, -⟩ := Node.listOfDraft_eq_ok_iff.1 hd
      exact ⟨items, .list items⟩
  | _ => exact absurd h Draft.refuse_ne_ok

end Draft

/-- Of a text that gives nodes it is only their values that matter. -/
theorem GivenBy.ofJson_eq_ok_iff {text : String} {vs : List Value} {s : Sheet}
    (h : GivenBy text vs) :
    ofJson text = .ok s ↔ Node.ofValues vs = .ok s.nodes ∧ ∀ v ∈ vs, Node.NamesKind v := by
  obtain ⟨d, items, htext, hnodes, hvalues⟩ := h
  rw [ofJson, htext, Reading.take_eq_ok_iff, and_iff_left rfl, hnodes.ofDraft_eq_ok_iff,
    Node.ofDrafts_eq_ok_iff hvalues]

/-- A text that is read as a stylesheet gives nodes. -/
theorem exists_givenBy_of_ofJson {text : String} {s : Sheet} (h : ofJson text = .ok s) :
    ∃ vs, GivenBy text vs := by
  rw [ofJson, Reading.take_eq_ok_iff] at h
  obtain ⟨hs, htrailing⟩ := h
  obtain ⟨items, hnodes⟩ := exists_nodesIn_of_ofDraft hs
  obtain ⟨vs, hvs⟩ := Node.exists_values_of_ofDrafts (hnodes.ofDraft_eq_ok_iff.1 hs)
  exact ⟨vs, _, items, by rw [← htrailing], hnodes, hvs⟩

/-- A text that holds a stylesheet gives nodes, and every text that gives nodes of the same content
holds the same stylesheet: tags, members and other members in any order, defaults written out or
left out, and lists in place of objects, in the stylesheet and in each of its nodes. -/
theorem ofJson_of_sameContent {text : String} {s : Sheet} (h : ofJson text = .ok s) :
    (∃ vs, GivenBy text vs ∧ ∀ v ∈ vs, Node.SameContent v v) ∧
    ∀ vs text' vs', GivenBy text vs → GivenBy text' vs' →
      List.Forall₂ Node.SameContent vs vs' → ofJson text' = .ok s := by
  constructor
  · obtain ⟨vs, hvs⟩ := exists_givenBy_of_ofJson h
    obtain ⟨hnodes, -⟩ := hvs.ofJson_eq_ok_iff.1 h
    refine ⟨vs, hvs, fun v hv => ?_⟩
    obtain ⟨n, hn⟩ := Node.exists_ofValue_of_mem hnodes hv
    exact Node.sameContent_self hn
  · intro vs text' vs' hvs hvs' hsame
    rw [hvs.ofJson_eq_ok_iff] at h
    rw [hvs'.ofJson_eq_ok_iff]
    obtain ⟨hnodes, hnames⟩ := h
    exact ⟨Node.ofValues_of_forall₂ (fun n _ => n.respellable) hsame hnodes,
      Node.namesKind_of_forall₂ hsame hnames⟩

/-- A rule as an object, with its tag behind another member and without a default. -/
def ruleObject : Value :=
  .object [("selector", .string "a"), ("origin", .list []), ("type", .string "rule"),
    ("nodes", .list [.object [("value", .string "v"), ("prop", .string "p"),
      ("type", .string "decl")]])]

/-- The rule as a list, with the default written out. -/
def ruleList : Value :=
  .list [.string "rule", .string "a", .list [.list [.string "decl", .string "p", .string "v",
    .bool false]]]

theorem ofJson_of_sameContent_rule :
    ofJson (Value.object [("nodes", .list [ruleObject])]).text =
        .ok ⟨[.rule "a" [.declaration ⟨"p", "v", false⟩]]⟩ ∧
      ofJson (Value.list [.list [ruleList]]).text =
        .ok ⟨[.rule "a" [.declaration ⟨"p", "v", false⟩]]⟩ := by
  have hnumberless : ruleObject.Numberless ∧ ruleList.Numberless := by
    refine ⟨.object ?_, .list ?_⟩ <;>
      simp [Value.Numberless.string, Value.Numberless.bool, Value.Numberless.list,
        Value.Numberless.object]
  have hobject : Reading.of (Value.object [("nodes", .list [ruleObject])]).text.toList =
      ⟨.object (wholeKeys [("nodes", .list [ruleObject.draft] none)]) none, false⟩ :=
    Reading.of_eq (Value.tokens_text (.object (by
      simp [Value.Numberless.list, hnumberless.1])))
  have hlist : Reading.of (Value.list [.list [ruleList]]).text.toList =
      ⟨.list [.list [ruleList.draft] none] none, false⟩ :=
    Reading.of_eq (Value.tokens_text (.list (by
      simp [Value.Numberless.list, hnumberless.2])))
  have hread : ofJson (Value.object [("nodes", .list [ruleObject])]).text =
      .ok ⟨[.rule "a" [.declaration ⟨"p", "v", false⟩]]⟩ := by
    rw [ofJson, hobject]
    rfl
  have hdeclaration : Node.SameContent
      (.object [("value", .string "v"), ("prop", .string "p"), ("type", .string "decl")])
      (.list [.string "decl", .string "p", .string "v", .bool false]) := by
    refine .intro (k := .declaration) rfl (.object rfl (by decide)) (.list (by decide)) ?_
    rintro f -
    cases f <;> exact .refl _ _
  have hrule : Node.SameContent ruleObject ruleList := by
    refine .intro (k := .rule) rfl (.object rfl (by decide)) (.list (by decide)) ?_
    rintro f -
    cases f with
    | nodes => exact .nodes (.cons hdeclaration .nil)
    | _ => exact .refl _ _
  have hskip : ∀ m ∈ [("nodes", Draft.list [ruleObject.draft] none)], m.1 ≠ nodesKey →
      m.2.skip = .ok () := by simp [nodesKey]
  exact ⟨hread, (ofJson_of_sameContent hread).2 _ _ _ ⟨_, _, hobject, .object rfl hskip, rfl⟩
    ⟨_, _, hlist, .list _, rfl⟩ (.cons hrule .nil)⟩

/-- A comment with one more member, which holds a number without a value. -/
def commentBesideLargeNumber : String :=
  "\x7b\"nodes\":[\x7b\"type\":\"comment\",\"text\":\"a\",\"x\":1e999\x7d]\x7d"

/-- The comment alone is accepted. With the other member, in which nothing is wrong for who passes
over it, it is refused because of the number. -/
theorem ofJson_commentBesideLargeNumber :
    ofJson (Value.object [("nodes", .list [.object [("type", .string "comment"),
        ("text", .string "a")]])]).text = .ok ⟨[.comment "a"]⟩ ∧
      Reading.of commentBesideLargeNumber.toList = ⟨.object [(.ok "nodes",
        .list [.object [(.ok "type", .string (.ok "comment")), (.ok "text", .string (.ok "a")),
          (.ok "x", .number none)] none] none)] none, false⟩ ∧
      (Reading.of commentBesideLargeNumber.toList).draft.skip = .ok () ∧
      ofJson commentBesideLargeNumber = .error (.fault .numberTooLarge) := by
  have halone : Reading.of (Value.object [("nodes", .list [.object [("type", .string "comment"),
      ("text", .string "a")]])]).text.toList = ⟨.object [(.ok "nodes", .list [.object
        [(.ok "type", .string (.ok "comment")), (.ok "text", .string (.ok "a"))] none] none)] none,
        false⟩ :=
    Reading.of_eq (Value.tokens_text (.object (by
      simp [Value.Numberless.list, Value.Numberless.object, Value.Numberless.string])))
  have hlarge : Reading.of commentBesideLargeNumber.toList = ⟨.object [(.ok "nodes",
      .list [.object [(.ok "type", .string (.ok "comment")), (.ok "text", .string (.ok "a")),
        (.ok "x", .number none)] none] none)] none, false⟩ := rfl
  refine ⟨?_, hlarge, ?_, ?_⟩
  · rw [ofJson, halone]
    rfl
  · rw [hlarge]
    rfl
  · rw [ofJson, hlarge]
    rfl

end Sheet

end Viewport
