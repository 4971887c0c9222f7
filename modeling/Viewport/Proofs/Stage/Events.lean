import Viewport.Proofs.Stage.Transform

/-!
# The events of a run

A run tells of each declaration, then of each media query that it converts, and at last of how
many declarations it has converted. The log is compared with the sheet as it was and with the
sheet as it has become.
-/

namespace Viewport

def Event.isConverted : Event → Bool
  | .converted _ _ _ => true
  | _ => false

namespace Config

def converts (c : Config) (site : Site) : Bool := (c.verdictAt site).action = .convert

/-- The event that tells what has become of the declaration at a site. -/
def report (c : Config) (site : Site) (after : Declaration) : Event :=
  match (c.verdictAt site).action with
  | .convert => .converted site.declaration.property site.declaration.value after.value
  | .skip reason => .skipped site.declaration.property reason

/-- The events that tell what has become of the media queries with the source unit in them, if
media queries are converted. -/
def mediaReports (c : Config) (before after : List Header) : List Event :=
  if c.convertMediaQueries then
    ((before.zip after).filter fun (old, _) =>
      sameAsciiCase old.name "media" && c.mentionsUnit old.params).map fun (old, new) =>
        .mediaConverted old.params new.params
  else []

variable (c : Config)

/-- A report says that a declaration is converted exactly if it is. -/
theorem isConverted_report (site : Site) (after : Declaration) :
    (c.report site after).isConverted = c.converts site := by
  rw [report, converts]
  cases (c.verdictAt site).action <;> rfl

theorem level_report (site : Site) (after : Declaration) :
    (c.report site after).level = .debug := by
  rw [report]
  cases (c.verdictAt site).action <;> rfl

/-- Media queries whose parameters are replaced each for itself. -/
theorem mediaReports_map (g : Header → Header) (hs : List Header) :
    c.mediaReports hs (hs.map g) =
      if c.convertMediaQueries then
        (hs.filter fun h => sameAsciiCase h.name "media" && c.mentionsUnit h.params).map fun h =>
          .mediaConverted h.params (g h).params
      else [] := by
  have hzip : hs.zip (hs.map g) = hs.map fun h => (h, g h) := by
    have hids : (hs.map id).zip (hs.map g) = hs.map fun h => (h, g h) := List.zip_map'
    rw [List.map_id] at hids
    exact hids
  rw [mediaReports, hzip, List.filter_map, List.map_map]
  rfl

/-- Media reports are of converted parameters only. -/
theorem exists_of_mem_mediaReports {before after : List Header} {e : Event}
    (h : e ∈ c.mediaReports before after) : ∃ old new, e = .mediaConverted old new := by
  rw [mediaReports] at h
  split at h
  · obtain ⟨⟨old, new⟩, -, rfl⟩ := List.mem_map.1 h
    exact ⟨old.params, new.params, rfl⟩
  · exact absurd h List.not_mem_nil

theorem countP_isConverted_mediaReports (before after : List Header) :
    (c.mediaReports before after).countP Event.isConverted = 0 := by
  refine List.countP_eq_zero.2 fun e he => ?_
  obtain ⟨old, new, rfl⟩ := c.exists_of_mem_mediaReports he
  exact Bool.false_ne_true

theorem map_level_mediaReports (before after : List Header) :
    (c.mediaReports before after).map Event.level =
      List.replicate (c.mediaReports before after).length .trace := by
  refine List.map_eq_replicate_iff.2 fun e he => ?_
  obtain ⟨old, new, rfl⟩ := c.exists_of_mem_mediaReports he
  rfl

end Config

namespace Stage

namespace Log

theorem count_eq (l : Log) (e : Event) :
    l.count e = ⟨l.events ++ [e], l.converted + if e.isConverted then 1 else 0⟩ := by
  cases e <;> rfl

/-- Events are kept in order, and the converted ones are counted. -/
theorem foldl_count (es : List Event) (l : Log) :
    es.foldl count l = ⟨l.events ++ es, l.converted + es.countP Event.isConverted⟩ := by
  induction es generalizing l with
  | nil => simp
  | cons e es ih =>
    rw [List.foldl_cons, ih, count_eq, List.countP_cons]
    simp only [List.append_assoc, List.singleton_append, Log.mk.injEq, true_and]
    omega

/-- Events that are not counted are kept in order. -/
theorem foldl_add {α : Type} (p : α → Bool) (e : α → Event) (as : List α) (l : Log) :
    as.foldl (fun l a => if p a then l.add (e a) else l) l =
      { l with events := l.events ++ (as.filter p).map e } := by
  induction as generalizing l with
  | nil => simp
  | cons a as ih =>
    rw [List.foldl_cons, ih, List.filter_cons]
    split <;> simp [add]

end Log

variable (s : Stage)

/-- The event of a declaration tells of its edit. -/
theorem edit_snd (site : Site) :
    (s.edit site).2 = s.config.report site (s.edit site).1.declaration := by
  unfold edit Config.report Config.verdictAt
  dsimp only
  split <;> simp_all

/-- The log after the first visit. -/
theorem run_mapM_visitDeclaration_snd (sites : List Site) (log : Log) :
    ((sites.mapM s.visitDeclaration).run log).2 =
      (sites.map fun site => (s.edit site).2).foldl Log.count log := by
  induction sites generalizing log with
  | nil => rfl
  | cons site sites ih =>
    rw [List.mapM_cons]
    simp only [run_bind_snd, run_pure_snd, run_visitDeclaration, ih, List.map_cons,
      List.foldl_cons]

/-- Parameters that mention the unit are reported. -/
theorem run_visitMedia_snd (params : String) (log : Log) :
    ((s.visitMedia params).run log).2 =
      if s.config.mentionsUnit params then
        log.add (.mediaConverted params (s.convertValue s.config.viewportUnit params))
      else log := by
  unfold visitMedia
  split <;> rfl

/-- The log after the second visit. -/
theorem run_visitMediaQueries_snd (sheet : Sheet) (log : Log) :
    ((s.visitMediaQueries sheet).run log).2 =
      { log with
        events := log.events ++ s.config.mediaReports sheet.atRules
          (sheet.atRules.map fun h => ⟨h.name, s.paramsFor h.name h.params⟩) } := by
  rw [Config.mediaReports_map, visitMediaQueries]
  split
  · rename_i hm
    rw [Sheet.visitAtRules, run_bind_snd, run_pure_snd,
      Node.run_visitAtRules_snd fun _ params _ => s.run_visitMedia_snd params, Log.foldl_add,
      List.filter_filter]
    refine congrArg (fun es => Log.mk (log.events ++ es) log.converted) ?_
    have hand (h : Header) : (s.config.mentionsUnit h.params && sameAsciiCase h.name "media") =
      (sameAsciiCase h.name "media" && s.config.mentionsUnit h.params) := Bool.and_comm _ _
    simp only [hand]
    refine List.map_congr_left fun h hh => ?_
    have hp := (List.mem_filter.1 hh).2
    rw [paramsFor, hm, Bool.true_and, if_pos hp]
  · rw [run_pure_snd, List.append_nil]

/-- The events of the declarations are the reports on them. -/
theorem zipWith_report (sheet : Sheet) :
    List.zipWith s.config.report sheet.sites (s.transform sheet).1.declarations =
      sheet.sites.map fun site => (s.edit site).2 := by
  rw [declarations_transform, edits, List.map_map, List.zipWith_map_right, List.zipWith_self]
  exact List.map_congr_left fun site _ => (s.edit_snd site).symm

/-- As many declarations are counted as are converted. -/
theorem countP_isConverted_edit_snd (sites : List Site) :
    (sites.map fun site => (s.edit site).2).countP Event.isConverted =
      sites.countP s.config.converts := by
  rw [List.countP_map]
  refine List.countP_congr fun site _ => ?_
  rw [Function.comp_apply, edit_snd, Config.isConverted_report]

theorem map_level_edit_snd (sites : List Site) :
    (sites.map fun site => (s.edit site).2).map Event.level =
      List.replicate sites.length .debug := by
  rw [List.map_map]
  refine List.map_eq_replicate_iff.2 fun site _ => ?_
  rw [Function.comp_apply, edit_snd, Config.level_report]

/-- The events of a run: those of the declarations, those of the media queries, and the last. -/
theorem transform_snd (sheet : Sheet) :
    (s.transform sheet).2 =
      (sheet.sites.map fun site => (s.edit site).2) ++
        s.config.mediaReports sheet.atRules (s.transform sheet).1.atRules ++
        [.finished (sheet.sites.countP s.config.converts)] := by
  -- the second visit goes through the edited sheet, which has the at-rules of the sheet as it was
  have hatRules : ((sheet.visitDeclarations s.visitDeclaration).run ⟨[], 0⟩).1.atRules =
      sheet.atRules := by
    rw [run_visitDeclarations_fst]
    exact Node.atRules_edited sheet.nodes _
  have hlog : ((sheet.visitDeclarations s.visitDeclaration).run ⟨[], 0⟩).2 =
      ⟨sheet.sites.map fun site => (s.edit site).2, sheet.sites.countP s.config.converts⟩ := by
    have hfold := s.run_mapM_visitDeclaration_snd sheet.sites ⟨[], 0⟩
    rw [Log.foldl_count, countP_isConverted_edit_snd, List.nil_append, Nat.zero_add] at hfold
    rw [Sheet.visitDeclarations_eq]
    exact hfold
  have hrun : (s.transform sheet).2 = ((s.run sheet).run ⟨[], 0⟩).2.events := rfl
  rw [hrun, run, run_bind_snd, run_bind_snd, run_visitMediaQueries_snd, hatRules, hlog,
    ← atRules_transform]
  rfl

/-- The events of a run are one for each declaration of the sheet as it was, in document order,
that tells of what the verdict has made of it; then, if media queries are converted, one for each
of them that has the source unit in it, in document order; then one that tells how many
declarations the verdict was to convert, which is how many events have told of that. -/
theorem transform_events (sheet : Sheet) :
    (s.transform sheet).2 =
        List.zipWith s.config.report sheet.sites (s.transform sheet).1.declarations ++
          s.config.mediaReports sheet.atRules (s.transform sheet).1.atRules ++
          [.finished (sheet.sites.countP s.config.converts)] ∧
      sheet.sites.map Site.declaration = sheet.declarations ∧
      (s.transform sheet).1.declarations.length = sheet.declarations.length ∧
      (s.transform sheet).1.atRules.map Header.name = sheet.atRules.map Header.name ∧
      (s.transform sheet).2.countP Event.isConverted = sheet.sites.countP s.config.converts ∧
      (s.transform sheet).2.map Event.level =
        List.replicate sheet.declarations.length .debug ++
          List.replicate
            (s.config.mediaReports sheet.atRules (s.transform sheet).1.atRules).length .trace ++
          [.debug] := by
  have hsites : sheet.sites.map Site.declaration = sheet.declarations :=
    Node.map_declaration_sites none sheet.nodes
  have hlength : sheet.sites.length = sheet.declarations.length := by
    rw [← hsites, List.length_map]
  refine ⟨?_, hsites, ?_, ?_, ?_, ?_⟩
  · rw [zipWith_report, transform_snd]
  · rw [declarations_transform, edits, List.length_map, List.length_map, hlength]
  · rw [atRules_transform, List.map_map]
    rfl
  · rw [transform_snd, List.countP_append, List.countP_append, countP_isConverted_edit_snd,
      Config.countP_isConverted_mediaReports]
    rfl
  · rw [transform_snd, List.map_append, List.map_append, map_level_edit_snd,
      Config.map_level_mediaReports, hlength]
    rfl

end Stage

end Viewport
