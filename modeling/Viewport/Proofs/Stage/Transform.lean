import Viewport.Proofs.Sheet.Outline
import Viewport.Proofs.Verdict
import Viewport.Stage
import Mathlib.Logic.Basic

/-!
# What a stage makes of a stylesheet

A stage goes through the sheet twice, once for the declarations and once for the media queries.
`Stage.converted` is one recursion over the sheet as it was, in which nothing but the verdicts
and the conversion of values occurs, and the run of a stage ends with it.
-/

namespace Viewport

namespace Config

/-- The verdict on the declaration at a site. -/
def verdictAt (c : Config) (site : Site) : Verdict :=
  c.verdict
    ⟨site.declaration.property, site.declaration.value, site.selector, site.trailingComment⟩

end Config

namespace Stage

variable (s : Stage)

/-- A declaration after what a verdict says is to be done with it. -/
def perform (d : Declaration) : Action → Declaration
  | .convert => { d with value := s.convertValue (s.config.unitFor d.property) d.value }
  | .skip _ => d

/-- The parameters of an at-rule: those of a media query that has the source unit in it are
converted, if the stage is told to. -/
def paramsFor (name params : String) : String :=
  if s.config.convertMediaQueries && sameAsciiCase name "media" && s.config.mentionsUnit params then
    s.convertValue s.config.viewportUnit params
  else params

/-- The nodes that a stage makes of the nodes in a rule with the selector, or of those in an
at-rule or at the root if there is none. -/
def converted (selector : Option String) : List Node → List Node
  | [] => []
  | .declaration d :: .comment t :: rest =>
    let verdict := s.config.verdict ⟨d.property, d.value, selector, some t⟩
    .declaration (s.perform d verdict.action) ::
      if verdict.consumesComment then converted selector rest
      else .comment t :: converted selector rest
  | .declaration d :: rest =>
    let verdict := s.config.verdict ⟨d.property, d.value, selector, none⟩
    .declaration (s.perform d verdict.action) :: converted selector rest
  | .rule t ns :: rest => .rule t (converted (some t) ns) :: converted selector rest
  | .atRule n p ns :: rest =>
    .atRule n (s.paramsFor n p) (converted none ns) :: converted selector rest
  | .comment t :: rest => .comment t :: converted selector rest

/-- A declaration whose comment is not used up is decided for itself. -/
theorem converted_declaration {s : Stage} {selector : Option String} {d : Declaration}
    {rest : List Node} (h : (s.config.verdict
      ⟨d.property, d.value, selector, rest.head?.bind Node.comment?⟩).consumesComment = false) :
    s.converted selector (.declaration d :: rest) =
      .declaration (s.perform d (s.config.verdict
        ⟨d.property, d.value, selector, rest.head?.bind Node.comment?⟩).action) ::
        s.converted selector rest := by
  by_cases hr : ∃ t rest', rest = .comment t :: rest'
  · obtain ⟨t, rest', rfl⟩ := hr
    have hc : (s.config.verdict ⟨d.property, d.value, selector, some t⟩).consumesComment = false :=
      h
    rw [converted, converted, hc]
    rfl
  · have hn : rest.head?.bind Node.comment? = none := by
      cases rest with
      | nil => rfl
      | cons n rest => cases n <;> simp_all [Node.comment?]
    rw [converted, hn]
    rintro t rest' rfl
    exact hr ⟨t, rest', rfl⟩

/-- What is done at a site is what the verdict on it says. -/
theorem edit_fst (site : Site) :
    (s.edit site).1 = ⟨s.perform site.declaration (s.config.verdictAt site).action,
      (s.config.verdictAt site).consumesComment⟩ := by
  unfold edit perform Config.verdictAt
  dsimp only
  split <;> simp_all

theorem run_visitDeclaration (site : Site) (log : Log) :
    (s.visitDeclaration site).run log = ((s.edit site).1, log.count (s.edit site).2) := rfl

/-- What a stage does at a declaration does not depend on the log. -/
theorem run_mapM_visitDeclaration_fst (sites : List Site) (log : Log) :
    ((sites.mapM s.visitDeclaration).run log).1 = sites.map fun site => (s.edit site).1 := by
  induction sites generalizing log with
  | nil => rfl
  | cons site sites ih =>
    rw [List.mapM_cons]
    simp only [run_bind_fst, run_pure_fst, run_visitDeclaration, ih, List.map_cons]

theorem run_visitMedia_fst (params : String) (log : Log) :
    ((s.visitMedia params).run log).1 =
      if s.config.mentionsUnit params then s.convertValue s.config.viewportUnit params
      else params := by
  unfold visitMedia
  split <;> rfl

/-- The edits of the first visit and the new parameters of the second come to one recursion. -/
theorem withParams_edited (selector : Option String) (nodes : List Node) :
    Node.withParams s.paramsFor
      (Node.edited nodes ((Node.sites selector nodes).map fun site => (s.edit site).1)) =
      s.converted selector nodes := by
  have hl (parent : Option String) (ns : List Node) :
      ((Node.sites parent ns).map fun site => (s.edit site).1).length =
        (Node.declarations ns).length := by
    rw [List.length_map, Node.length_sites]
  fun_induction converted s selector nodes with
  | case1 => simp only [Node.edited, Node.withParams]
  | case2 selector d t rest verdict ih =>
    rw [Node.sites, Node.sites, List.map_cons, edit_fst, Node.edited]
    have hv : s.config.verdictAt ⟨d, selector, some (.comment t)⟩ = verdict := rfl
    simp only [List.head?_cons, hv]
    split <;> simp only [Node.withParams, ih]
  | case3 selector d rest hr verdict ih =>
    have hn : (Site.mk d selector rest.head?).trailingComment = none := by
      cases rest with
      | nil => rfl
      | cons n rest => cases n <;> simp_all [Site.trailingComment, Node.comment?]
    rw [Node.sites, List.map_cons, edit_fst, Node.edited]
    · simp only [Node.withParams, ih, Config.verdictAt, hn, verdict]
    · exact hr
  | case4 selector t ns rest ih ih' =>
    rw [Node.sites, List.map_append, Node.edited, List.take_left' (hl _ ns),
      List.drop_left' (hl _ ns), Node.withParams, ih, ih']
  | case5 selector n p ns rest ih ih' =>
    rw [Node.sites, List.map_append, Node.edited, List.take_left' (hl _ ns),
      List.drop_left' (hl _ ns), Node.withParams, ih, ih']
  | case6 selector t rest ih => simp only [Node.sites, Node.edited, Node.withParams, ih]

theorem run_visitDeclarations_fst (sheet : Sheet) (log : Log) :
    ((sheet.visitDeclarations s.visitDeclaration).run log).1 =
      sheet.edited (sheet.sites.map fun site => (s.edit site).1) := by
  rw [Sheet.visitDeclarations_eq]
  exact congrArg sheet.edited (s.run_mapM_visitDeclaration_fst sheet.sites log)

theorem run_visitMediaQueries_fst (sheet : Sheet) (log : Log) :
    ((s.visitMediaQueries sheet).run log).1 = ⟨Node.withParams s.paramsFor sheet.nodes⟩ := by
  unfold visitMediaQueries
  split
  · rename_i hm
    have hparams : s.paramsFor = fun name params => if sameAsciiCase name "media" then
        if s.config.mentionsUnit params then s.convertValue s.config.viewportUnit params
        else params
      else params := by
      funext name params
      simp [paramsFor, hm, ite_and]
    rw [Sheet.visitAtRules, run_bind_fst, run_pure_fst, hparams,
      Node.run_visitAtRules_fst fun _ params _ => s.run_visitMedia_fst params]
  · rename_i hm
    rw [run_pure_fst, Node.withParams_eq_self]
    intro name params
    simp [paramsFor, hm]

theorem transform_fst (sheet : Sheet) :
    (s.transform sheet).1 = ⟨s.converted none sheet.nodes⟩ := by
  have hrun : (s.transform sheet).1 = ((s.run sheet).run ⟨[], 0⟩).1 := rfl
  rw [hrun, run, run_bind_fst, run_visitDeclarations_fst, run_bind_fst,
    run_visitMediaQueries_fst, run_bind_fst, run_pure_fst]
  exact congrArg Sheet.mk (s.withParams_edited none sheet.nodes)

/-- What a stage does to the declarations of a sheet, one after the other. -/
def edits (sheet : Sheet) : List Edit := sheet.sites.map fun site => (s.edit site).1

/-- A run edits the declarations, each for itself, and replaces parameters. -/
theorem transform_fst_eq_edited (sheet : Sheet) :
    (s.transform sheet).1 =
      ⟨Node.withParams s.paramsFor (Node.edited sheet.nodes (s.edits sheet))⟩ := by
  rw [transform_fst, ← withParams_edited]
  rfl

/-- No declaration is lost, and each is as its edit has left it. -/
theorem declarations_transform (sheet : Sheet) :
    (s.transform sheet).1.declarations = (s.edits sheet).map Edit.declaration := by
  rw [transform_fst_eq_edited, Sheet.declarations, Node.declarations_withParams]
  refine Node.declarations_edited _ _ ?_
  rw [edits, List.length_map]
  exact Node.length_sites none sheet.nodes

/-- No at-rule is lost, and each has the parameters that the stage has for it. -/
theorem atRules_transform (sheet : Sheet) :
    (s.transform sheet).1.atRules =
      sheet.atRules.map fun h => ⟨h.name, s.paramsFor h.name h.params⟩ := by
  rw [transform_fst_eq_edited, Sheet.atRules, Node.atRules_withParams, Node.atRules_edited]
  rfl

/-- A stage makes of every sheet what one recursion over the sheet as it was makes of it: each
declaration is decided by its own property and value, the selector of the rule that directly holds
it and the comment that has been right after it from the start. A comment goes only if the verdict
on the declaration before it uses it up, and a verdict uses up nothing where no comment is. -/
theorem transform_eq_converted (sheet : Sheet) :
    (s.transform sheet).1 = ⟨s.converted none sheet.nodes⟩ ∧
      ∀ property value selector,
        (s.config.verdict ⟨property, value, selector, none⟩).consumesComment = false :=
  ⟨s.transform_fst sheet, fun _ _ _ => Config.consumesComment_of_comment_eq_none rfl⟩

end Stage

end Viewport
