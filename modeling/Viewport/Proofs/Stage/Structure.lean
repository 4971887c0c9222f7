import Viewport.Proofs.Stage.Transform

/-!
# The structure that a run keeps

A run goes along with the structure of a stylesheet: what it makes of two lists of nodes one after
the other, of an at-rule and of a rule follows from what it makes of their parts. Only a comment
that directs the declaration before it must not be parted from it, and a rule must not be
blacklisted.
-/

namespace Viewport

namespace Config

/-- The last of the nodes is a declaration, and the first of those after them is a comment that
directs it. -/
def DirectsAcross (c : Config) (nodes after : List Node) : Prop :=
  ∃ d t, nodes.getLast? = some (.declaration d) ∧ after.head? = some (.comment t) ∧
    (t = c.enableComment ∨ t = c.disableComment)

variable {c : Config}

theorem DirectsAcross.cons {nodes after : List Node} (h : c.DirectsAcross nodes after) (n : Node) :
    c.DirectsAcross (n :: nodes) after := by
  obtain ⟨d, t, hd, ht, hdirect⟩ := h
  refine ⟨d, t, ?_, ht, hdirect⟩
  rw [List.getLast?_cons, hd]
  rfl

end Config

namespace Stage

variable {s : Stage}

/-- A declaration that no comment directs is decided for itself. -/
theorem converted_of_undirected {d : Declaration} {rest : List Node}
    (h : (rest.head?.bind Node.comment?).bind s.config.directive? = none)
    (selector : Option String) :
    s.converted selector (.declaration d :: rest) =
      .declaration (s.perform d
        (s.config.verdict ⟨d.property, d.value, selector, none⟩).action) ::
        s.converted selector rest := by
  have hv : s.config.verdict ⟨d.property, d.value, selector, rest.head?.bind Node.comment?⟩ =
      s.config.verdict ⟨d.property, d.value, selector, none⟩ :=
    Config.verdict_of_directive?_eq_none h
  rw [converted_declaration, hv]
  rw [hv]
  exact Config.consumesComment_of_comment_eq_none rfl

/-- Where the nodes after a declaration are cut off, no comment directs it if none has directed it
before. -/
theorem undirected_append {d : Declaration} {rest b : List Node}
    (hr : ∀ t rest', rest ≠ .comment t :: rest')
    (h : ¬s.config.DirectsAcross (.declaration d :: rest) b) :
    ((rest ++ b).head?.bind Node.comment?).bind s.config.directive? = none := by
  cases rest with
  | nil =>
    -- the declaration is the last before the seam, and the hypothesis is about what comes next
    cases b with
    | nil => rfl
    | cons n b =>
      cases n with
      | comment t => exact Config.directive?_eq_none fun ht => h ⟨d, t, rfl, rfl, ht⟩
      | rule _ _ | atRule _ _ _ | declaration _ => rfl
  | cons n rest =>
    cases n with
    | comment t => exact absurd rfl (hr t rest)
    | rule _ _ | atRule _ _ _ | declaration _ => rfl

/-- Nodes are converted in two parts where no comment directs across the seam. -/
theorem converted_append {a b : List Node} (h : ¬s.config.DirectsAcross a b)
    (selector : Option String) :
    s.converted selector (a ++ b) = s.converted selector a ++ s.converted selector b := by
  fun_induction converted s selector a with
  | case1 => rfl
  | case2 selector d t rest verdict ih =>
    have hrest := ih fun hd => h ((hd.cons _).cons _)
    rw [List.cons_append, List.cons_append, converted, hrest]
    split <;> rfl
  | case3 selector d rest hr verdict ih =>
    have hrest := ih fun hd => h (hd.cons _)
    rw [List.cons_append, converted_of_undirected (undirected_append hr h), hrest,
      List.cons_append]
  | case4 selector t ns rest ih ih' =>
    have hrest := ih' fun hd => h (hd.cons _)
    rw [List.cons_append, converted, hrest, List.cons_append]
  | case5 selector n p ns rest ih ih' =>
    have hrest := ih' fun hd => h (hd.cons _)
    rw [List.cons_append, converted, hrest, List.cons_append]
  | case6 selector t rest ih =>
    have hrest := ih fun hd => h (hd.cons _)
    rw [List.cons_append, converted, hrest, List.cons_append]

/-- Around declarations a selector that is not blacklisted is as none. -/
theorem converted_congr_selector {selector selector' : Option String}
    (h : selector.any s.config.selectorBlacklist.covers =
      selector'.any s.config.selectorBlacklist.covers) (nodes : List Node) :
    s.converted selector nodes = s.converted selector' nodes := by
  fun_induction converted s selector nodes with
  | case1 => rw [converted]
  | case2 selector d t rest verdict ih =>
    have hv : verdict = s.config.verdict ⟨d.property, d.value, selector', some t⟩ :=
      Config.verdict_congr_selector h
    rw [converted, ih h, hv]
  | case3 selector d rest hr verdict ih =>
    have hv : verdict = s.config.verdict ⟨d.property, d.value, selector', none⟩ :=
      Config.verdict_congr_selector h
    rw [converted, ih h, hv]
    exact hr
  | case4 selector t ns rest ih ih' => rw [converted, ih' h]
  | case5 selector n p ns rest ih ih' => rw [converted, ih' h]
  | case6 selector t rest ih => rw [converted, ih h]

/-- A run goes along with the structure of a sheet. What it makes of nodes after one another is
what it makes of the first followed by what it makes of the others, unless a comment is parted
from the declaration that it directs; what it makes of an at-rule has the nodes in it that it
makes of its nodes, and parameters that follow from its name and its own; and so with a rule, if
its selector is not blacklisted. -/
theorem transform_structure (s : Stage) :
    (∀ a b, ¬s.config.DirectsAcross a b →
      (s.transform ⟨a ++ b⟩).1.nodes = (s.transform ⟨a⟩).1.nodes ++ (s.transform ⟨b⟩).1.nodes) ∧
    (∀ name params a,
      (s.transform ⟨[.atRule name params a]⟩).1.nodes =
        [.atRule name (s.paramsFor name params) (s.transform ⟨a⟩).1.nodes]) ∧
    ∀ selector a, s.config.selectorBlacklist.covers selector = false →
      (s.transform ⟨[.rule selector a]⟩).1.nodes = [.rule selector (s.transform ⟨a⟩).1.nodes] := by
  refine ⟨fun a b h => ?_, fun name params a => ?_, fun selector a h => ?_⟩
  · simp only [transform_fst]
    exact converted_append h none
  · simp only [transform_fst, converted]
  · simp only [transform_fst, converted]
    rw [converted_congr_selector]
    exact h

theorem transform_structure_kept :
    let s : Stage := ⟨{ selectorBlacklist := ⟨[.substring ".raw"]⟩ }, by decide⟩
    let a : List Node := [.comment "off", .declaration ⟨"width", "75px", false⟩]
    let b : List Node := [.comment "keep", .declaration ⟨"top", "10px", false⟩, .comment "off"]
    ¬s.config.DirectsAcross a b ∧ s.config.selectorBlacklist.covers ".card" = false ∧
      (s.transform ⟨a ++ b⟩).1.nodes =
        (s.transform ⟨a⟩).1.nodes ++ (s.transform ⟨b⟩).1.nodes ∧
      (s.transform ⟨[.rule ".card" a]⟩).1.nodes = [.rule ".card" (s.transform ⟨a⟩).1.nodes] := by
  intro s a b
  have hseam : ¬s.config.DirectsAcross a b := by
    rintro ⟨d, t, -, ht, hdirect⟩
    obtain rfl : "keep" = t := Node.comment.inj (Option.some.inj ht)
    revert hdirect
    decide
  have hcovers : s.config.selectorBlacklist.covers ".card" = false := by decide
  obtain ⟨happend, -, hrule⟩ := transform_structure s
  exact ⟨hseam, hcovers, happend a b hseam, hrule ".card" a hcovers⟩

end Stage

end Viewport
