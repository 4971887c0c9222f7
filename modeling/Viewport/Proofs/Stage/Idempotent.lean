import Viewport.Proofs.Length.Stable
import Viewport.Proofs.Stage.Transform

/-!
# Running a stage twice

A stage that converts `px` changes nothing in a sheet that it has made, unless it used up a comment
in making it: with the comment gone, the declaration before it may be decided in another way.
-/

namespace Viewport

/-- No comment right after a declaration directs it. -/
def Config.IsUndirected (c : Config) (sites : List Site) : Prop :=
  ∀ site ∈ sites, site.trailingComment ≠ some c.enableComment ∧
    site.trailingComment ≠ some c.disableComment

namespace Stage

variable {s : Stage}

/-- A value that has been converted is not changed by converting it again. -/
theorem convertValue_convertValue {target : String} (hpx : s.config.sourceUnit = "px")
    (htarget : IsTarget target.toList) (value : String) :
    s.convertValue target (s.convertValue target value) = s.convertValue target value := by
  simp only [convertValue, hpx, String.toList_ofList]
  rw [Conversion.convertAll_convertAll _ htarget]

/-- What has been done to a declaration decides that it stays as it is. -/
theorem perform_perform (hpx : s.config.sourceUnit = "px")
    (htarget : ∀ property, IsTarget (s.config.unitFor property).toList) (d : Declaration)
    (action : Declaration → Action) :
    s.perform (s.perform d (action d)) (action (s.perform d (action d))) =
      s.perform d (action d) := by
  cases hd : action d with
  | skip reason =>
    have hskip : s.perform d (.skip reason) = d := rfl
    rw [hskip, hd, hskip]
  | convert =>
    cases action (s.perform d .convert) with
    | skip reason => rfl
    | convert =>
      simp only [perform]
      rw [convertValue_convertValue hpx (htarget d.property)]

theorem paramsFor_paramsFor (hpx : s.config.sourceUnit = "px")
    (htarget : IsTarget s.config.viewportUnit.toList) (name params : String) :
    s.paramsFor name (s.paramsFor name params) = s.paramsFor name params := by
  by_cases h : s.config.convertMediaQueries && sameAsciiCase name "media" &&
      s.config.mentionsUnit params
  · have hparams : s.paramsFor name params = s.convertValue s.config.viewportUnit params :=
      if_pos h
    rw [hparams, paramsFor, convertValue_convertValue hpx htarget, ite_self]
  · have hparams : s.paramsFor name params = params := if_neg h
    rw [hparams, hparams]

/-- Only a comment that directs something is used up. -/
theorem consumesComment_eq_false {d : Candidate}
    (h : d.comment ≠ some s.config.enableComment ∧ d.comment ≠ some s.config.disableComment) :
    (s.config.verdict d).consumesComment = false := by
  rw [Bool.eq_false_iff]
  intro hc
  obtain ⟨_, hd⟩ := Option.isSome_iff_exists.1 (Config.directive?_of_consumesComment hc)
  obtain ⟨t, ht, hd⟩ := Option.bind_eq_some_iff.1 hd
  rw [Config.directive?_eq_none (by simpa [ht] using h)] at hd
  contradiction

/-- The comment in front, if there is one, stays in front. -/
theorem head?_converted (selector : Option String) (nodes : List Node) :
    (s.converted selector nodes).head?.bind Node.comment? = nodes.head?.bind Node.comment? := by
  fun_cases converted s selector nodes with
  | case1 => rfl
  | case2 d t rest verdict => rfl
  | case3 d rest hr verdict => rfl
  | case4 t ns rest => rfl
  | case5 n p ns rest => rfl
  | case6 t rest => rfl

/-- Nodes that have been converted are not changed by converting them again, where no comment
directs. -/
theorem converted_converted (hpx : s.config.sourceUnit = "px")
    (hview : IsTarget s.config.viewportUnit.toList)
    (hfont : IsTarget s.config.fontViewportUnit.toList) (selector : Option String)
    (nodes : List Node) (h : s.config.IsUndirected (Node.sites selector nodes)) :
    s.converted selector (s.converted selector nodes) = s.converted selector nodes := by
  have htarget (property : String) : IsTarget (s.config.unitFor property).toList := by
    rw [Config.unitFor]
    split
    · exact hfont
    · exact hview
  fun_induction Node.sites selector nodes with
  | case1 => simp only [converted]
  | case2 selector d rest ih =>
    have hrest := ih fun site hs => h site (List.mem_cons_of_mem _ hs)
    -- whatever the value has become, the comment does not direct, and is kept
    have hkeep (property value : String) : (s.config.verdict
        ⟨property, value, selector, rest.head?.bind Node.comment?⟩).consumesComment = false :=
      consumesComment_eq_false (h _ List.mem_cons_self)
    have hperform := perform_perform hpx htarget d fun d =>
      (s.config.verdict ⟨d.property, d.value, selector, rest.head?.bind Node.comment?⟩).action
    rw [converted_declaration (hkeep _ _), converted_declaration, head?_converted, hrest, hperform]
    rw [head?_converted]
    exact hkeep _ _
  | case3 selector t ns rest ih ih' =>
    have hns := ih fun site hs => h site (List.mem_append_left _ hs)
    have hrest := ih' fun site hs => h site (List.mem_append_right _ hs)
    simp only [converted, hns, hrest]
  | case4 selector n p ns rest ih ih' =>
    have hns := ih fun site hs => h site (List.mem_append_left _ hs)
    have hrest := ih' fun site hs => h site (List.mem_append_right _ hs)
    simp only [converted, hns, hrest, paramsFor_paramsFor hpx hview]
  | case5 selector t rest ih => simp only [converted, ih h]

/-- A second run of a stage that converts `px` changes nothing, whatever else it is told to do, if
no comment right after a declaration directs it. -/
theorem transform_transform (hpx : s.config.sourceUnit = "px")
    (hview : IsTarget s.config.viewportUnit.toList)
    (hfont : IsTarget s.config.fontViewportUnit.toList) (sheet : Sheet)
    (h : s.config.IsUndirected sheet.sites) :
    (s.transform (s.transform sheet).1).1 = (s.transform sheet).1 := by
  rw [transform_fst, transform_fst]
  exact congrArg Sheet.mk (converted_converted hpx hview hfont none sheet.nodes h)

theorem transform_transform_default :
    let s : Stage := ⟨{ convertMediaQueries := true }, by decide⟩
    let sheet : Sheet :=
      ⟨[.atRule "media" "(min-width: 500px)" [.rule ".a"
        [.declaration ⟨"width", "calc(10px + 1px) url(5px) 5pxpx", false⟩, .comment "keep",
          .declaration ⟨"font-size", "1.2.3PX", false⟩]]]⟩
    s.config.sourceUnit = "px" ∧ IsTarget s.config.viewportUnit.toList ∧
      IsTarget s.config.fontViewportUnit.toList ∧ s.config.IsUndirected sheet.sites ∧
      (s.transform (s.transform sheet).1).1 = (s.transform sheet).1 := by
  intro s sheet
  have hsites : s.config.IsUndirected sheet.sites := by
    simp [s, sheet, Config.IsUndirected, Sheet.sites, Node.sites, Site.trailingComment,
      Node.comment?]
  exact ⟨rfl, by decide, by decide, hsites,
    transform_transform rfl (by decide) (by decide) sheet hsites⟩

end Stage

end Viewport
