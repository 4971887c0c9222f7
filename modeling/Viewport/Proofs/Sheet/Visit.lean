import Viewport.Sheet.Visit

/-!
# What a visit does to a stylesheet

The visit of the declarations goes through a list that it shortens on the way. Here it is compared
with two plain recursions over the sheet as it was: `sites` lists where the declarations stand, in
document order, and `edited` is the sheet after one edit for each of them. A visit is the run of
its visitor over the first, followed by the second.
-/

namespace Viewport

namespace Node

/-- The declarations among nodes, at any depth, in document order. -/
def declarations : List Node → List Declaration
  | [] => []
  | .declaration d :: rest => d :: declarations rest
  | .rule _ ns :: rest => declarations ns ++ declarations rest
  | .atRule _ _ ns :: rest => declarations ns ++ declarations rest
  | .comment _ :: rest => declarations rest

/-- Where the declarations among nodes stand. The nodes are held by a rule with the selector, or
by an at-rule or by no node if there is none. -/
def sites (selector : Option String) : List Node → List Site
  | [] => []
  | .declaration d :: rest => ⟨d, selector, rest.head?⟩ :: sites selector rest
  | .rule s ns :: rest => sites (some s) ns ++ sites selector rest
  | .atRule _ _ ns :: rest => sites none ns ++ sites selector rest
  | .comment _ :: rest => sites selector rest

/-- The nodes after edits of their declarations, one for each in document order. A comment goes
if it comes right after a declaration whose edit detaches it; every other node stays. -/
def edited : List Node → List Edit → List Node
  | [], _ => []
  | .declaration _ :: .comment t :: rest, e :: es =>
    .declaration e.declaration ::
      if e.detach then edited rest es else .comment t :: edited rest es
  | .declaration _ :: rest, e :: es => .declaration e.declaration :: edited rest es
  | .declaration d :: rest, [] => .declaration d :: edited rest []
  | .rule s ns :: rest, es =>
    .rule s (edited ns (es.take (declarations ns).length)) ::
      edited rest (es.drop (declarations ns).length)
  | .atRule n p ns :: rest, es =>
    .atRule n p (edited ns (es.take (declarations ns).length)) ::
      edited rest (es.drop (declarations ns).length)
  | .comment t :: rest, es => .comment t :: edited rest es

/-- Each declaration stands at one site. -/
theorem map_declaration_sites (selector : Option String) (nodes : List Node) :
    (sites selector nodes).map Site.declaration = declarations nodes := by
  fun_induction sites selector nodes with
  | case1 => simp [declarations]
  | case2 selector d rest ih => simp [declarations, ih]
  | case3 selector s ns rest ih ih' => simp [declarations, ih, ih']
  | case4 selector n p ns rest ih ih' => simp [declarations, ih, ih']
  | case5 selector t rest ih => simp [declarations, ih]

/-- There is one site for each declaration. -/
theorem length_sites (selector : Option String) (nodes : List Node) :
    (sites selector nodes).length = (declarations nodes).length := by
  rw [← map_declaration_sites selector, List.length_map]

/-- What an edit at a site does to the nodes from there on. -/
theorem edited_declaration (selector : Option String) (d : Declaration) (rest : List Node)
    (e : Edit) (es : List Edit) :
    edited (.declaration d :: rest) (e :: es) = .declaration e.declaration ::
      edited (if (Site.mk d selector rest.head?).detaches e then rest.tail else rest) es := by
  cases hd : (Site.mk d selector rest.head?).detaches e with
  | true =>
    obtain ⟨he, t, ht⟩ := Site.detaches_iff.1 hd
    obtain ⟨rest, rfl⟩ := List.head?_eq_some_iff.1 ht
    simp [edited, he]
  | false =>
    have hn : ¬(Site.mk d selector rest.head?).detaches e = true := by simp [hd]
    rw [Site.detaches_iff] at hn
    match rest with
    | [] | .rule _ _ :: _ | .atRule _ _ _ :: _ | .declaration _ :: _ => simp [edited]
    | .comment t :: rest =>
      have he : e.detach = false := by simpa using hn
      simp [edited, he]

end Node

section Monad

variable {m : Type → Type} [Monad m] [LawfulMonad m] {α β γ : Type}

/-- What follows a run over a list may count on one result for each element. -/
theorem mapM_bind_congr {f : α → m β} {l : List α} {g g' : List β → m γ}
    (h : ∀ ys, ys.length = l.length → g ys = g' ys) : l.mapM f >>= g = l.mapM f >>= g' := by
  induction l generalizing g g' with
  | nil => simpa using h [] rfl
  | cons a l ih =>
    simp only [List.mapM_cons, bind_assoc, pure_bind]
    refine bind_congr fun y => ih fun ys hys => h (y :: ys) ?_
    rw [List.length_cons, List.length_cons, hys]

theorem mapM_map_eq_zipWith (g : α → β → γ) (f : α → m β) (l : List α) :
    (l.mapM fun a => g a <$> f a) = List.zipWith g l <$> l.mapM f := by
  induction l with
  | nil => simp
  | cons a l ih =>
    simp only [List.mapM_cons, ih, map_bind, bind_map_left, bind_pure_comp, Functor.map_map,
      List.zipWith_cons_cons]

theorem run_bind_fst {σ : Type} (x : StateM σ α) (f : α → StateM σ β) (s : σ) :
    ((x >>= f).run s).1 = ((f (x.run s).1).run (x.run s).2).1 := rfl

theorem run_bind_snd {σ : Type} (x : StateM σ α) (f : α → StateM σ β) (s : σ) :
    ((x >>= f).run s).2 = ((f (x.run s).1).run (x.run s).2).2 := rfl

theorem run_pure_fst {σ : Type} (a : α) (s : σ) : ((pure a : StateM σ α).run s).1 = a := rfl

theorem run_pure_snd {σ : Type} (a : α) (s : σ) : ((pure a : StateM σ α).run s).2 = s := rfl

end Monad

namespace Node

variable {m : Type → Type} [Monad m] [LawfulMonad m]

theorem take_set {nodes : Array Node} {i : Nat} (h : i < nodes.size) (n : Node) :
    (nodes.set i n).toList.take (i + 1) = nodes.toList.take i ++ [n] := by
  have hi : i < (nodes.toList.set i n).length := by simpa using h
  rw [Array.toList_set, ← List.take_append_getElem hi, List.take_set_of_le (Nat.le_refl i),
    List.getElem_set_self]

/-- What stands before a node stays as it is erased. -/
theorem take_eraseIdx {nodes : Array Node} {i : Nat} (h : i < nodes.size) :
    (nodes.eraseIdx i).toList.take i = nodes.toList.take i := by
  have hi : (nodes.toList.take i).length = i := List.length_take_of_le (Nat.le_of_lt h)
  rw [Array.toList_eraseIdx, List.eraseIdx_eq_take_drop_succ]
  exact List.take_left' hi

/-- No declaration stands in a comment. -/
theorem sites_tail_of_detaches {selector : Option String} {d : Declaration} {rest : List Node}
    {e : Edit} (h : (Site.mk d selector rest.head?).detaches e = true) :
    sites selector rest.tail = sites selector rest := by
  obtain ⟨-, t, ht⟩ := Site.detaches_iff.1 h
  obtain ⟨rest, rfl⟩ := List.head?_eq_some_iff.1 ht
  simp [sites]

/-- The edits of a block are those of its own declarations and then those of what follows it. -/
theorem map_edited_block (f : Site → m Edit) (block : List Node → Node) (ns rest : List Node)
    (parent selector : Option String) {α : Type} (g : List Node → α)
    (h : ∀ es, edited (block ns :: rest) es =
      block (edited ns (es.take (declarations ns).length)) ::
        edited rest (es.drop (declarations ns).length)) :
    (fun es => g (edited (block ns :: rest) es)) <$>
        (sites parent ns ++ sites selector rest).mapM f =
      (sites parent ns).mapM f >>= fun xs =>
        (fun ys => g (block (edited ns xs) :: edited rest ys)) <$>
          (sites selector rest).mapM f := by
  rw [List.mapM_append, map_bind]
  refine mapM_bind_congr fun xs hxs => ?_
  rw [length_sites] at hxs
  simp only [bind_pure_comp, Functor.map_map, h, List.take_left' hxs, List.drop_left' hxs]

/-- The nodes before the place are as the visit has left them, and those from there on are as
they have been from the start. -/
theorem visitFrom_eq (f : Site → m Edit) (selector : Option String) (nodes : Array Node) (i : Nat) :
    visitFrom f selector nodes i =
      (fun es => (nodes.toList.take i ++ edited (nodes.toList.drop i) es).toArray) <$>
        (sites selector (nodes.toList.drop i)).mapM f := by
  fun_induction visitFrom f selector nodes i with
  | case1 selector nodes i h d hn ih ih' =>
    have hnext : nodes[i + 1]? = (nodes.toList.drop (i + 1)).head? := by simp
    rw [drop_eq_getElem_cons h, hn, sites, List.mapM_cons, ← hnext, map_bind]
    refine bind_congr fun e => ?_
    simp only [bind_pure_comp, Functor.map_map, edited_declaration selector, ← hnext]
    split
    · rename_i hd
      have hi : i + 1 < (nodes.set i (.declaration e.declaration)).size := by
        simpa using lt_size_of_detaches hd
      -- the next place is that of the node after the comment, where no site has been lost
      rw [ih e hd, drop_eraseIdx hi, take_eraseIdx hi, take_set h, ← List.tail_drop, drop_set h,
        sites_tail_of_detaches (hnext ▸ hd)]
      simp
    · rw [ih' e, drop_set h, take_set h]
      simp
  | case2 selector nodes i h s ns hn ih ih' =>
    rw [drop_eq_getElem_cons h, hn, sites, ih,
      map_edited_block f (.rule s) ns (nodes.toList.drop (i + 1)) (some s) selector
        (fun l => (nodes.toList.take i ++ l).toArray) (fun es => by rw [edited])]
    simp only [ih', drop_set h, take_set h, bind_map_left]
    simp
  | case3 selector nodes i h n p ns hn ih ih' =>
    rw [drop_eq_getElem_cons h, hn, sites, ih,
      map_edited_block f (.atRule n p) ns (nodes.toList.drop (i + 1)) none selector
        (fun l => (nodes.toList.take i ++ l).toArray) (fun es => by rw [edited])]
    simp only [ih', drop_set h, take_set h, bind_map_left]
    simp
  | case4 selector nodes i h t hn ih =>
    have hi : i < nodes.toList.length := by simpa using h
    rw [ih, drop_eq_getElem_cons h, hn, sites, ← List.take_append_getElem hi]
    simp [edited, hn]
  | case5 selector nodes i h =>
    rw [List.drop_of_length_le (by simpa using h), List.take_of_length_le (by simpa using h)]
    simp [sites, edited]

/-- A visit is the run of the visitor over the sites, and then the edits that it has left. -/
theorem visitDeclarations_eq (f : Site → m Edit) (selector : Option String) (nodes : List Node) :
    visitDeclarations f selector nodes = edited nodes <$> (sites selector nodes).mapM f := by
  rw [visitDeclarations, visitFrom_eq]
  simp

/-- The nodes with the parameters of each at-rule, at any depth, made from its name and its
parameters. -/
def withParams (g : (name params : String) → String) : List Node → List Node
  | [] => []
  | .atRule n p ns :: rest => .atRule n (g n p) (withParams g ns) :: withParams g rest
  | .rule s ns :: rest => .rule s (withParams g ns) :: withParams g rest
  | .declaration d :: rest => .declaration d :: withParams g rest
  | .comment t :: rest => .comment t :: withParams g rest

/-- Parameters that are not changed change nothing. -/
theorem withParams_eq_self {g : (name params : String) → String} (h : ∀ n p, g n p = p)
    (nodes : List Node) : withParams g nodes = nodes := by
  fun_induction withParams g nodes with
  | case1 => rfl
  | case2 n p ns rest ih ih' => rw [ih, ih', h]
  | case3 s ns rest ih ih' => rw [ih, ih']
  | case4 d rest ih => rw [ih]
  | case5 t rest ih => rw [ih]

/-- A visitor of at-rules that gives back what depends on the name and the parameters alone
changes the parameters and nothing else. -/
theorem run_visitAtRules_fst {σ : Type} {name : String}
    {f : (name params : String) → List Node → StateM σ String} {g : (name params : String) → String}
    (h : ∀ n p ns start, ((f n p ns).run start).1 = g n p) (nodes : List Node) (start : σ) :
    ((visitAtRules name f nodes).run start).1 =
      withParams (fun n p => if sameAsciiCase n name then g n p else p) nodes := by
  fun_induction withParams (fun n p => if sameAsciiCase n name then g n p else p) nodes
    generalizing start with
  | case1 => rw [visitAtRules, run_pure_fst]
  | case2 n p ns rest ih ih' =>
    rw [visitAtRules]
    split <;> simp only [run_bind_fst, run_pure_fst, h, ih, ih']
  | case3 s ns rest ih ih' =>
    rw [visitAtRules]
    simp only [run_bind_fst, run_pure_fst, ih, ih']
  | case4 d rest ih | case5 t rest ih =>
    rw [visitAtRules]
    · simp only [run_bind_fst, run_pure_fst, ih]
    all_goals simp

end Node

namespace Sheet

def sites (s : Sheet) : List Site := Node.sites none s.nodes

def declarations (s : Sheet) : List Declaration := Node.declarations s.nodes

def edited (s : Sheet) (es : List Edit) : Sheet := ⟨Node.edited s.nodes es⟩

variable {m : Type → Type} [Monad m] [LawfulMonad m]

theorem visitDeclarations_eq (f : Site → m Edit) (s : Sheet) :
    s.visitDeclarations f = s.edited <$> s.sites.mapM f := by
  rw [visitDeclarations, Node.visitDeclarations_eq, bind_pure_comp, Functor.map_map]
  rfl

end Sheet

/-- One thing that a visitor does while it is at a declaration. -/
inductive Step where
  | change (f : Declaration → Declaration)
  /-- Asks for the comment right after the declaration to be detached. -/
  | detach

namespace Site

/-- An edit after one more step. Where no comment is next there is nothing to detach. -/
def step (s : Site) (e : Edit) : Step → Edit
  | .change f => { e with declaration := f e.declaration }
  | .detach => if s.trailingComment.isSome then { e with detach := true } else e

/-- What the steps of a visitor come to. -/
def perform (s : Site) (steps : List Step) : Edit := steps.foldl s.step ⟨s.declaration, false⟩

theorem detach_foldl_step (s : Site) (steps : List Step) (e : Edit) :
    (steps.foldl s.step e).detach = true ↔
      e.detach = true ∨ .detach ∈ steps ∧ s.trailingComment.isSome = true := by
  induction steps generalizing e with
  | nil => simp
  | cons step steps ih =>
    rw [List.foldl_cons, ih]
    cases step with
    | change f => simp [Site.step]
    | detach => cases h : s.trailingComment <;> simp [Site.step, h]

/-- A comment is taken out if a step says so and there is one. -/
theorem detach_perform {s : Site} {steps : List Step} :
    (s.perform steps).detach = true ↔ .detach ∈ steps ∧ ∃ t, s.next = some (.comment t) := by
  rw [perform, detach_foldl_step, Option.isSome_iff_exists]
  simp [trailingComment_eq_some_iff]

end Site

/-- The visitor is called once for each declaration of the sheet, in document order, with its
state handed on from call to call; at each call it sees the declaration, the selector around it
and the next node as they have been from the start. The sheet is then the original one with each
declaration as the visitor has left it, less the comments right after a declaration at which it
has asked, once or more often, for a comment to be detached. The place of the node that is taken
out is always a place of the list, and that of a comment. -/
theorem run_visitDeclarations {σ : Type} (f : Site → StateM σ (List Step)) (s : Sheet) (start : σ) :
    (s.visitDeclarations fun site => site.perform <$> f site).run start =
        (s.edited (List.zipWith Site.perform s.sites ((s.sites.mapM f).run start).1),
          ((s.sites.mapM f).run start).2) ∧
      s.sites.map Site.declaration = s.declarations ∧
      (∀ site steps, (Site.perform site steps).detach = true ↔
        .detach ∈ steps ∧ ∃ t, site.next = some (.comment t)) ∧
      ∀ (nodes : Array Node) (i : Nat) (d : Declaration) (selector : Option String) (e : Edit),
        (Site.mk d selector nodes[i + 1]?).detaches e = true ↔
          e.detach = true ∧ ∃ (_ : i + 1 < nodes.size) (t : String), nodes[i + 1] = .comment t := by
  refine ⟨?_, Node.map_declaration_sites none s.nodes, fun _ _ => Site.detach_perform, ?_⟩
  · rw [Sheet.visitDeclarations_eq, mapM_map_eq_zipWith, Functor.map_map]
    rfl
  · intro nodes i d selector e
    rw [Site.detaches_iff]
    simp only [Array.getElem?_eq_some_iff]
    refine and_congr_right fun _ => ⟨?_, ?_⟩
    · rintro ⟨t, h, ht⟩
      exact ⟨h, t, ht⟩
    · rintro ⟨h, t, ht⟩
      exact ⟨t, h, ht⟩

end Viewport
