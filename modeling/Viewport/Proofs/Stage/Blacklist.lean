import Viewport.Proofs.Stage.Transform

/-!
# Blacklists act as sets

Two runs of one sheet are compared that differ in their blacklists alone. With less on the
blacklists more declarations are converted and more comments are used up, and nothing else is
different: neither the order of the entries nor their number counts.
-/

namespace Viewport

/-- A longer blacklist covers all that a shorter one does. -/
theorem Blacklist.covers_mono {b b' : Blacklist} (h : b.entries ⊆ b'.entries) {text : String}
    (ht : b.covers text = true) : b'.covers text = true := by
  obtain ⟨e, he, hcovers⟩ := List.any_eq_true.1 ht
  exact List.any_eq_true.2 ⟨e, h he, hcovers⟩

namespace Config

/-- All of a configuration but its blacklists. -/
def unlisted (c : Config) : Config :=
  { c with propertyBlacklist := .empty, selectorBlacklist := .empty }

/-- Two configurations differ in their blacklists alone, and each entry of the first stands on the
same blacklist of the second. -/
structure Laxer (c c' : Config) : Prop where
  unlisted_eq : c.unlisted = c'.unlisted
  property : c.propertyBlacklist.entries ⊆ c'.propertyBlacklist.entries
  selector : c.selectorBlacklist.entries ⊆ c'.selectorBlacklist.entries

namespace Laxer

variable {c c' : Config} (h : c.Laxer c')

include h

/-- What does not depend on the blacklists is the same in both configurations. -/
theorem apply_unlisted {α : Type} (f : Config → α) : f c.unlisted = f c'.unlisted :=
  congrArg f h.unlisted_eq

theorem sourceUnit : c.sourceUnit = c'.sourceUnit := h.apply_unlisted Config.sourceUnit

theorem mentionsUnit : c.mentionsUnit = c'.mentionsUnit := h.apply_unlisted Config.mentionsUnit

theorem directive? : c.directive? = c'.directive? := h.apply_unlisted Config.directive?

theorem unitFor : c.unitFor = c'.unitFor := h.apply_unlisted Config.unitFor

theorem conversion : c.conversion = c'.conversion := h.apply_unlisted Config.conversion

theorem viewportUnit : c.viewportUnit = c'.viewportUnit := h.apply_unlisted Config.viewportUnit

theorem convertMediaQueries : c.convertMediaQueries = c'.convertMediaQueries :=
  h.apply_unlisted Config.convertMediaQueries

/-- A selector that the longer blacklist does not cover is not covered by the shorter one. -/
theorem not_covers_selector {selector : Option String}
    (hs : selector.any c'.selectorBlacklist.covers = false) :
    selector.any c.selectorBlacklist.covers = false := by
  cases selector with
  | none => rfl
  | some selector =>
    exact Bool.eq_false_iff.2 fun hc =>
      Bool.eq_false_iff.1 hs (Blacklist.covers_mono h.selector hc)

/-- A property that the longer blacklist does not cover is not covered by the shorter one. -/
theorem not_covers_property {property : String}
    (hp : c'.propertyBlacklist.covers property = false) :
    c.propertyBlacklist.covers property = false :=
  Bool.eq_false_iff.2 fun hc => Bool.eq_false_iff.1 hp (Blacklist.covers_mono h.property hc)

/-- What is converted with more on the blacklists is converted with less. -/
theorem action_eq_convert {d : Candidate} (hd : (c'.verdict d).action = .convert) :
    (c.verdict d).action = .convert := by
  rw [action_verdict_eq_convert_iff] at hd ⊢
  rw [h.mentionsUnit, h.directive?]
  obtain ⟨hunit, hselector, hdir⟩ := hd
  exact ⟨hunit, h.not_covers_selector hselector,
    hdir.imp_right fun hnone => ⟨hnone.1, h.not_covers_property hnone.2⟩⟩

/-- What is used up with more on the blacklists is used up with less. -/
theorem consumesComment {d : Candidate} (hd : (c'.verdict d).consumesComment = true) :
    (c.verdict d).consumesComment = true := by
  rw [consumesComment_verdict_iff] at hd ⊢
  rw [h.mentionsUnit, h.directive?]
  exact hd.imp_right fun hen => ⟨hen.1, hen.2.1, h.not_covers_selector hen.2.2⟩

/-- Where each stands on the blacklists of the other, two configurations decide alike. -/
theorem verdict_eq (h' : c'.Laxer c) (d : Candidate) : c.verdict d = c'.verdict d := by
  have hselector : d.selector.any c.selectorBlacklist.covers =
      d.selector.any c'.selectorBlacklist.covers := by
    rw [Bool.eq_iff_iff, ← not_iff_not, Bool.not_eq_true, Bool.not_eq_true]
    exact ⟨h'.not_covers_selector, h.not_covers_selector⟩
  have hproperty : c.propertyBlacklist.covers d.property =
      c'.propertyBlacklist.covers d.property := by
    rw [Bool.eq_iff_iff, ← not_iff_not, Bool.not_eq_true, Bool.not_eq_true]
    exact ⟨h'.not_covers_property, h.not_covers_property⟩
  rw [verdict, verdict, h.directive?, h.mentionsUnit, hselector, hproperty]

end Laxer

end Config

namespace Stage

section Laxer

variable {s s' : Stage} (h : s.config.Laxer s'.config)

include h

/-- Values are converted to the same ones. -/
theorem convertValue_of_laxer : s.convertValue = s'.convertValue := by
  funext target value
  rw [convertValue, convertValue, h.conversion, h.sourceUnit]

theorem paramsFor_of_laxer : s.paramsFor = s'.paramsFor := by
  funext name params
  rw [paramsFor, paramsFor, h.convertMediaQueries, h.mentionsUnit, h.viewportUnit,
    convertValue_of_laxer h]

/-- The same is done to a declaration that is converted. -/
theorem perform_of_laxer : s.perform = s'.perform := by
  funext d action
  cases action with
  | convert => simp only [perform, h.unitFor, convertValue_of_laxer h]
  | skip reason => rfl

/-- What a run does at a site with more on the blacklists it does with less, if it is to convert. -/
theorem edit_declaration_of_laxer {site : Site}
    (hd : (s'.config.verdictAt site).action = .convert) :
    (s.edit site).1.declaration = (s'.edit site).1.declaration := by
  have hd' : (s.config.verdictAt site).action = .convert := h.action_eq_convert hd
  rw [edit_fst, edit_fst, hd, hd', perform_of_laxer h]

/-- A comment that the longer blacklists have taken out is taken out by the shorter ones. -/
theorem detaches_of_laxer {site : Site} (hd : site.detaches (s'.edit site).1 = true) :
    site.detaches (s.edit site).1 = true := by
  rw [Site.detaches_iff, edit_fst] at hd ⊢
  exact ⟨h.consumesComment hd.1, hd.2⟩

/-- The edits of a whole sheet are compared one by one. -/
theorem edits_of_laxer (h' : s'.config.Laxer s.config) (sheet : Sheet) :
    s.edits sheet = s'.edits sheet := by
  refine List.map_congr_left fun site _ => ?_
  have hv : s.config.verdictAt site = s'.config.verdictAt site := h.verdict_eq h' _
  rw [edit_fst, edit_fst, hv, perform_of_laxer h]

/-- Blacklists act monotonically, and as sets. Where two stages differ in their blacklists alone,
and all that is on those of the first is on those of the second, both edit the declarations of a
sheet one by one and replace the same parameters by the same; what the second converts the first
converts to the same; and where the second takes a comment out the first takes it out. If the
blacklists have the same on them, the runs come to the same sheet. -/
theorem transform_of_laxer (sheet : Sheet) :
    (s.transform sheet).1 =
        ⟨Node.withParams s.paramsFor (Node.edited sheet.nodes (s.edits sheet))⟩ ∧
      (s'.transform sheet).1 =
        ⟨Node.withParams s.paramsFor (Node.edited sheet.nodes (s'.edits sheet))⟩ ∧
      (s.transform sheet).1.atRules = (s'.transform sheet).1.atRules ∧
      (∀ (i : Nat) (site : Site), sheet.sites[i]? = some site →
        ((s'.config.verdictAt site).action = .convert →
          (s.config.verdictAt site).action = .convert ∧
            ∃ d, (s.transform sheet).1.declarations[i]? = some d ∧
              (s'.transform sheet).1.declarations[i]? = some d) ∧
        (site.detaches (s'.edit site).1 = true → site.detaches (s.edit site).1 = true)) ∧
      (s'.config.Laxer s.config → (s.transform sheet).1 = (s'.transform sheet).1) := by
  have hparams : s'.paramsFor = s.paramsFor := (paramsFor_of_laxer h).symm
  refine ⟨s.transform_fst_eq_edited sheet, ?_, ?_, fun i site hi => ⟨fun hd => ?_, ?_⟩,
    fun h' => ?_⟩
  · rw [transform_fst_eq_edited, hparams]
  · rw [atRules_transform, atRules_transform, hparams]
  · refine ⟨h.action_eq_convert hd, (s.edit site).1.declaration, ?_, ?_⟩
    · simp [declarations_transform, edits, hi]
    · simp [declarations_transform, edits, hi, edit_declaration_of_laxer h hd]
  · exact detaches_of_laxer h
  · rw [transform_fst_eq_edited, transform_fst_eq_edited, hparams, edits_of_laxer h h']

end Laxer

theorem transform_of_laxer_enabled :
    let s : Stage := ⟨{}, by decide⟩
    let s' : Stage :=
      ⟨{ propertyBlacklist := ⟨[.substring "border"]⟩
         selectorBlacklist := ⟨[.substring ".raw"]⟩ }, by decide⟩
    let site : Site := ⟨⟨"border-width", "75px", false⟩, some ".a", some (.comment "on")⟩
    let sheet : Sheet :=
      ⟨[.rule ".a" [.declaration ⟨"border-width", "75px", false⟩, .comment "on"]]⟩
    s.config.Laxer s'.config ∧ sheet.sites[0]? = some site ∧
      (s'.config.verdictAt site).action = .convert ∧ site.detaches (s'.edit site).1 = true ∧
      (∃ d, (s.transform sheet).1.declarations[0]? = some d ∧
        (s'.transform sheet).1.declarations[0]? = some d) ∧
      site.detaches (s.edit site).1 = true := by
  intro s s' site sheet
  have hlaxer : s.config.Laxer s'.config := ⟨rfl, List.nil_subset _, List.nil_subset _⟩
  have hsite : sheet.sites[0]? = some site := by simp [sheet, site, Sheet.sites, Node.sites]
  have hconvert : (s'.config.verdictAt site).action = .convert := by decide
  have hdetaches : site.detaches (s'.edit site).1 = true := by
    rw [edit_fst]
    decide
  obtain ⟨-, -, -, hsites, -⟩ := transform_of_laxer hlaxer sheet
  obtain ⟨hvalue, hcomment⟩ := hsites 0 site hsite
  exact ⟨hlaxer, hsite, hconvert, hdetaches, (hvalue hconvert).2, hcomment hdetaches⟩

end Stage

end Viewport
