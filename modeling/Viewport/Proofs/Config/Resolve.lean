import Mathlib.Data.List.Forall2
import Viewport.Proofs.Json.Take
import Viewport.Proofs.Length.Pattern
import Viewport.Stage

/-!
# From options to a configuration

What options come to is said without the functions that merge them: which options are refused and
with which error, what each field of a configuration is taken from, and what is warned of. A stage
can run with every configuration that comes out.
-/

namespace Viewport

/-! ## Blacklists -/

/-- An entry that can be read: a string, or a text that is a pattern. -/
def EntrySpec.IsReadable : EntrySpec → Prop
  | .substring _ => True
  | .pattern text => ∃ e, Pattern.Expr.read text.toList = .ok e

/-- An entry as it is given, and what it is kept as. -/
inductive Entry.Reads : EntrySpec → Entry → Prop
  | substring (needle : String) : Reads (.substring needle) (.substring needle)
  | pattern {text : String} {e : Pattern.Expr} (h : Pattern.Expr.read text.toList = .ok e) :
    Reads (.pattern text) (.pattern e)

/-- The first entry that cannot be read is a text that is no pattern, for this reason. -/
def FirstFault (specs : List EntrySpec) (text : String) (e : Pattern.Error) : Prop :=
  ∃ before after, specs = before ++ .pattern text :: after ∧ (∀ s ∈ before, s.IsReadable) ∧
    Pattern.Expr.read text.toList = .error e

/-- An entry is read as it is meant. -/
theorem Entry.ofSpec_eq_ok_iff {s : EntrySpec} {e : Entry} :
    Entry.ofSpec s = .ok e ↔ Entry.Reads s e := by
  cases s with
  | substring needle =>
    constructor
    · intro h
      obtain rfl := Except.ok.inj h
      exact .substring needle
    · rintro ⟨⟩
      rfl
  | pattern text =>
    rw [Entry.ofSpec]
    constructor
    · intro h
      split at h
      · rename_i p hp
        obtain rfl := Except.ok.inj h
        exact .pattern hp
      · contradiction
    · rintro (_ | hp)
      rw [hp]

/-- Only a pattern can fail to be read, and it fails with what is wrong with it. -/
theorem Entry.ofSpec_eq_error_iff {s : EntrySpec} {text : String} {e : Pattern.Error} :
    Entry.ofSpec s = .error (text, e) ↔
      s = .pattern text ∧ Pattern.Expr.read text.toList = .error e := by
  cases s with
  | substring needle => simp [Entry.ofSpec]
  | pattern t =>
    rw [Entry.ofSpec]
    constructor
    · intro h
      split at h
      · contradiction
      · rename_i hp
        obtain ⟨rfl, rfl⟩ := Prod.mk.inj (Except.error.inj h)
        exact ⟨rfl, hp⟩
    · rintro ⟨ht, hp⟩
      obtain rfl := EntrySpec.pattern.inj ht
      rw [hp]

/-- An entry is readable if there is something that it is read as. -/
theorem EntrySpec.isReadable_iff {s : EntrySpec} : s.IsReadable ↔ ∃ e, Entry.Reads s e := by
  cases s with
  | substring needle => exact ⟨fun _ => ⟨_, .substring needle⟩, fun _ => trivial⟩
  | pattern text =>
    constructor
    · rintro ⟨e, he⟩
      exact ⟨_, .pattern he⟩
    · rintro ⟨_, _ | he⟩
      exact ⟨_, he⟩

namespace Blacklist

variable {s : EntrySpec} {ss : List EntrySpec}

/-- A blacklist is read entry by entry: none is left out, and their order is kept. -/
theorem ofSpecs_eq_ok_iff {specs : List EntrySpec} {b : Blacklist} :
    ofSpecs specs = .ok b ↔ List.Forall₂ Entry.Reads specs b.entries := by
  obtain ⟨entries⟩ := b
  induction specs generalizing entries with
  | nil => simp [ofSpecs, empty, eq_comm]
  | cons s ss ih =>
    rw [ofSpecs, List.forall₂_cons_left_iff]
    simp only [bind_eq_ok_iff, Entry.ofSpec_eq_ok_iff]
    constructor
    · rintro ⟨e, hs, ⟨rest⟩, hss, h⟩
      obtain rfl : e :: rest = entries := congrArg Blacklist.entries (Except.ok.inj h)
      exact ⟨e, rest, hs, (ih rest).1 hss, rfl⟩
    · rintro ⟨e, rest, hs, hss, rfl⟩
      exact ⟨e, hs, ⟨rest⟩, (ih rest).2 hss, rfl⟩

/-- Reading stops at the first entry that cannot be read. -/
theorem ofSpecs_eq_error_iff {specs : List EntrySpec} {text : String} {e : Pattern.Error} :
    ofSpecs specs = .error (text, e) ↔ FirstFault specs text e := by
  induction specs with
  | nil => simp [ofSpecs, FirstFault]
  | cons s ss ih =>
    rw [ofSpecs]
    simp only [bind_eq_error_iff, Entry.ofSpec_eq_ok_iff, Entry.ofSpec_eq_error_iff, ih]
    constructor
    · rintro (⟨rfl, he⟩ | ⟨entry, hs, ⟨before, after, rfl, hbefore, he⟩ | ⟨rest, -, h⟩⟩)
      · exact ⟨[], ss, rfl, by simp, he⟩
      · have hhead : s.IsReadable := EntrySpec.isReadable_iff.2 ⟨entry, hs⟩
        exact ⟨s :: before, after, rfl, List.forall_mem_cons.2 ⟨hhead, hbefore⟩, he⟩
      · cases h
    · rintro ⟨before, after, hspecs, hbefore, he⟩
      cases before with
      | nil =>
        obtain ⟨rfl, rfl⟩ := List.cons.inj hspecs
        exact .inl ⟨rfl, he⟩
      | cons b before =>
        obtain ⟨rfl, rfl⟩ := List.cons.inj hspecs
        obtain ⟨hhead, hrest⟩ := List.forall_mem_cons.1 hbefore
        obtain ⟨entry, hs⟩ := EntrySpec.isReadable_iff.1 hhead
        exact .inr ⟨entry, hs, .inl ⟨before, after, rfl, hrest, he⟩⟩

variable {source : PatternSource} {specs : List EntrySpec}

/-- A blacklist is read if each of its entries is, in their order. -/
theorem read_eq_ok_iff {b : Blacklist} :
    read source specs = .ok b ↔ List.Forall₂ Entry.Reads specs b.entries := by
  rw [← ofSpecs_eq_ok_iff, read]
  cases ofSpecs specs <;> simp

/-- A blacklist is refused with the first of its patterns that something is wrong with. -/
theorem read_eq_error_iff {e : ConfigError} :
    read source specs = .error e ↔
      ∃ text problem, e = .invalidPattern source text problem ∧ FirstFault specs text problem := by
  simp only [← ofSpecs_eq_error_iff]
  rw [read]
  cases ofSpecs specs with
  | ok b => simp
  | error x =>
    constructor
    · intro h
      exact ⟨x.1, x.2, (Except.error.inj h).symm, rfl⟩
    · rintro ⟨text, problem, rfl, hx⟩
      obtain rfl := Except.error.inj hx
      rfl

/-- A blacklist can be read if all its entries can. -/
theorem exists_read_eq_ok_iff (source : PatternSource) :
    (∃ b, read source specs = .ok b) ↔ ∀ s ∈ specs, s.IsReadable := by
  simp only [read_eq_ok_iff]
  induction specs with
  | nil => simp [show ∃ b : Blacklist, b.entries = [] from ⟨empty, rfl⟩]
  | cons s ss ih =>
    rw [List.forall_mem_cons, ← ih, EntrySpec.isReadable_iff]
    constructor
    · rintro ⟨⟨entries⟩, h⟩
      obtain ⟨e, rest, hs, hss, -⟩ := List.forall₂_cons_left_iff.1 h
      exact ⟨⟨e, hs⟩, ⟨rest⟩, hss⟩
    · rintro ⟨⟨e, hs⟩, rest, hss⟩
      exact ⟨⟨e :: rest.entries⟩, .cons hs hss⟩

end Blacklist

/-! ## Numbers -/

/-- A width is a finite number above zero. -/
def IsWidth (x : Binary64) : Prop := ∃ n, 0 < n ∧ x = .finite false n

/-- A threshold is a finite number. -/
def IsThreshold (x : Binary64) : Prop := ∃ negative n, x = .finite negative n

/-- A width is admissible if it is finite and positive. -/
theorem admissibleWidth_iff {x : Binary64} : Options.admissibleWidth x = true ↔ IsWidth x := by
  rcases x with _ | s | ⟨s, n⟩
  · simp [Options.admissibleWidth, Binary64.isFinite, IsWidth]
  · simp [Options.admissibleWidth, Binary64.isFinite, IsWidth]
  · cases s <;> simp [Options.admissibleWidth, Binary64.isFinite, Binary64.isPositive, IsWidth,
      Nat.pos_iff_ne_zero]

/-- A threshold is admissible if it is finite. -/
theorem isFinite_iff {x : Binary64} : x.isFinite = true ↔ IsThreshold x := by
  rcases x with _ | s | ⟨s, n⟩ <;> simp [Binary64.isFinite, IsThreshold]

instance : DecidablePred IsWidth := fun _ => decidable_of_iff _ admissibleWidth_iff

instance : DecidablePred IsThreshold := fun _ => decidable_of_iff _ isFinite_iff

/-- What is not admissible is left out and warned of. -/
theorem keepIf_eq {α : Type} (admissible : α → Bool) (p : α → Prop) [DecidablePred p]
    (h : ∀ a, admissible a = true ↔ p a) (warning : α → Event) (a : Option α) :
    keepIf admissible warning a = (a.filter (p ·), (a.filter (¬p ·)).toList.map warning) := by
  cases a with
  | none => rfl
  | some a =>
    by_cases ha : p a
    · simp [keepIf, (h a).2 ha, ha, Option.filter]
    · simp [keepIf, mt (h a).1 ha, ha, Option.filter]

/-- A value that is taken only if it is admissible, in place of a default that is. -/
theorem getD_filter {α : Type} {p : α → Prop} [DecidablePred p] {default : α} (h : p default)
    (a : Option α) : p ((a.filter (p ·)).getD default) := by
  cases a with
  | none => exact h
  | some a =>
    by_cases ha : p a
    · simp [Option.filter, ha]
    · simp [Option.filter, ha, h]

/-! ## Options -/

namespace Options

variable (o : Options)

/-- Every number that is given and is out of range is warned of, in this order. -/
def warnings : List Event :=
  (o.viewportWidth.filter (¬IsWidth ·)).toList.map .widthNotPositive ++
    (o.precision.filter (¬· ≤ 15)).toList.map .precisionTooLarge ++
    (o.minPixelValue.filter (¬IsThreshold ·)).toList.map .thresholdNotFinite

/-- What is wrong with options. The source unit counts first, then the first fault of the property
blacklist, and then that of the selector blacklist. -/
inductive Refused : ConfigError → Prop
  | sourceUnit (h : o.sourceUnit = some "") : Refused .emptySourceUnit
  | propertyBlacklist (h : o.sourceUnit ≠ some "") {text : String} {e : Pattern.Error}
      (he : FirstFault (o.propertyBlacklist.getD []) text e) :
    Refused (.invalidPattern .propertyBlacklist text e)
  | selectorBlacklist (h : o.sourceUnit ≠ some "")
      (hp : ∀ s ∈ o.propertyBlacklist.getD [], s.IsReadable) {text : String} {e : Pattern.Error}
      (he : FirstFault (o.selectorBlacklist.getD []) text e) :
    Refused (.invalidPattern .selectorBlacklist text e)

end Options

namespace Config

/-- Each field is what is given for it, if that is admissible, and its default otherwise. -/
structure Follows (o : Options) (c : Config) : Prop where
  sourceUnit : c.sourceUnit = o.sourceUnit.getD "px"
  viewportWidth : c.viewportWidth = (o.viewportWidth.filter (IsWidth ·)).getD (.ofNat 750)
  viewportUnit : c.viewportUnit = o.viewportUnit.getD "vmin"
  precision : c.precision = (o.precision.filter (· ≤ 15)).getD 5
  fontViewportUnit : c.fontViewportUnit = o.fontViewportUnit.getD "vw"
  propertyBlacklist :
    List.Forall₂ Entry.Reads (o.propertyBlacklist.getD []) c.propertyBlacklist.entries
  selectorBlacklist :
    List.Forall₂ Entry.Reads (o.selectorBlacklist.getD []) c.selectorBlacklist.entries
  minPixelValue : c.minPixelValue = (o.minPixelValue.filter (IsThreshold ·)).getD (.ofNat 1)
  enableComment : c.enableComment = o.enableComment.getD "on"
  disableComment : c.disableComment = o.disableComment.getD "off"
  convertMediaQueries : c.convertMediaQueries = o.convertMediaQueries.getD false

/-- The ranges that every configuration keeps to that options come to. -/
structure Admissible (c : Config) : Prop where
  sourceUnit_ne : c.sourceUnit ≠ ""
  viewportWidth : IsWidth c.viewportWidth
  precision_le : c.precision ≤ 15
  minPixelValue : IsThreshold c.minPixelValue

theorem Admissible.precision_toNat_le {c : Config} (h : c.Admissible) : c.precision.toNat ≤ 15 :=
  UInt32.le_iff_toNat_le.1 h.precision_le

/-- An empty source unit is refused before anything else is looked at. -/
theorem resolve_of_empty {o : Options} (h : o.sourceUnit = some "") :
    resolve o = (.error .emptySourceUnit, []) := if_pos h

theorem resolve_of_ne {o : Options} (h : o.sourceUnit ≠ some "") :
    resolve o = (Options.assigned { o with
      viewportWidth := o.viewportWidth.filter (IsWidth ·)
      precision := o.precision.filter (· ≤ 15)
      minPixelValue := o.minPixelValue.filter (IsThreshold ·) }, o.warnings) := by
  rw [resolve, if_neg h]
  simp only [Options.screened, keepIf_eq _ _ (fun _ => admissibleWidth_iff),
    keepIf_eq _ _ (fun _ => isFinite_iff),
    keepIf_eq _ _ (fun n : UInt32 => decide_eq_true_iff (p := n ≤ maxPrecision))]
  rfl

/-- The blacklist of properties is read before that of selectors, and the first fault is told. -/
theorem assigned_eq_error_iff {o : Options} {e : ConfigError} :
    o.assigned = .error e ↔
      Blacklist.read .propertyBlacklist (o.propertyBlacklist.getD []) = .error e ∨
        (∃ p, Blacklist.read .propertyBlacklist (o.propertyBlacklist.getD []) = .ok p) ∧
          Blacklist.read .selectorBlacklist (o.selectorBlacklist.getD []) = .error e := by
  rw [Options.assigned]
  simp only [bind_eq_error_iff]
  constructor
  · rintro (h | ⟨p, hp, h | ⟨s, -, h⟩⟩)
    · exact .inl h
    · exact .inr ⟨⟨p, hp⟩, h⟩
    · cases h
  · rintro (h | ⟨⟨p, hp⟩, h⟩)
    · exact .inl h
    · exact .inr ⟨p, hp, .inl h⟩

/-- Options that are not refused are assigned with defaults in place of those that are left out. -/
theorem assigned_eq_ok_iff {o : Options} {c : Config} :
    o.assigned = .ok c ↔ c = {
      sourceUnit := o.sourceUnit.getD "px"
      viewportWidth := o.viewportWidth.getD (.ofNat 750)
      viewportUnit := o.viewportUnit.getD "vmin"
      precision := o.precision.getD 5
      fontViewportUnit := o.fontViewportUnit.getD "vw"
      propertyBlacklist := c.propertyBlacklist
      selectorBlacklist := c.selectorBlacklist
      minPixelValue := o.minPixelValue.getD (.ofNat 1)
      enableComment := o.enableComment.getD "on"
      disableComment := o.disableComment.getD "off"
      convertMediaQueries := o.convertMediaQueries.getD false } ∧
    Blacklist.read .propertyBlacklist (o.propertyBlacklist.getD []) = .ok c.propertyBlacklist ∧
    Blacklist.read .selectorBlacklist (o.selectorBlacklist.getD []) = .ok c.selectorBlacklist := by
  rw [Options.assigned]
  simp only [bind_eq_ok_iff]
  constructor
  · rintro ⟨p, hp, s, hs, h⟩
    obtain rfl := Except.ok.inj h
    exact ⟨rfl, hp, hs⟩
  · rintro ⟨h, hp, hs⟩
    exact ⟨_, hp, _, hs, congrArg Except.ok h.symm⟩

variable {o : Options} {c : Config}

/-- Options are refused exactly with what they are to be refused with. -/
theorem resolve_eq_error_iff {e : ConfigError} : (resolve o).1 = .error e ↔ o.Refused e := by
  by_cases h : o.sourceUnit = some ""
  · rw [resolve_of_empty h]
    constructor
    · intro he
      obtain rfl := Except.error.inj he
      exact .sourceUnit h
    · rintro (_ | ⟨hne, -⟩ | ⟨hne, -, -⟩)
      · rfl
      all_goals exact absurd h hne
  · rw [resolve_of_ne h, assigned_eq_error_iff, Blacklist.read_eq_error_iff,
      Blacklist.exists_read_eq_ok_iff, Blacklist.read_eq_error_iff]
    constructor
    · rintro (⟨text, problem, rfl, hp⟩ | ⟨hp, text, problem, rfl, hs⟩)
      · exact .propertyBlacklist h hp
      · exact .selectorBlacklist h hp hs
    · rintro (hempty | ⟨-, hp⟩ | ⟨-, hp, hs⟩)
      · exact absurd hempty h
      · exact .inl ⟨_, _, rfl, hp⟩
      · exact .inr ⟨hp, _, _, rfl, hs⟩

/-- A configuration comes from options that have a source unit exactly if it follows them. -/
theorem resolve_eq_ok_iff :
    (resolve o).1 = .ok c ↔ o.sourceUnit ≠ some "" ∧ c.Follows o := by
  by_cases h : o.sourceUnit = some ""
  · simp [resolve_of_empty h, h]
  · rw [resolve_of_ne h, assigned_eq_ok_iff, Blacklist.read_eq_ok_iff, Blacklist.read_eq_ok_iff]
    obtain ⟨unit, width, target, precision, fontTarget, p, s, least, enable, disable, media⟩ := c
    constructor
    · rintro ⟨hc, hp, hs⟩
      obtain ⟨rfl, rfl, rfl, rfl, rfl, -, -, rfl, rfl, rfl, rfl⟩ := Config.mk.inj hc
      exact ⟨h, rfl, rfl, rfl, rfl, rfl, hp, hs, rfl, rfl, rfl, rfl⟩
    · rintro ⟨-, rfl, rfl, rfl, rfl, rfl, hp, hs, rfl, rfl, rfl, rfl⟩
      exact ⟨rfl, hp, hs⟩

/-- A configuration comes from options exactly if their source unit is not empty and both their
blacklists can be read. -/
theorem exists_resolve_eq_ok_iff :
    (∃ c, (resolve o).1 = .ok c) ↔
      o.sourceUnit ≠ some "" ∧ (∀ s ∈ o.propertyBlacklist.getD [], s.IsReadable) ∧
        ∀ s ∈ o.selectorBlacklist.getD [], s.IsReadable := by
  by_cases h : o.sourceUnit = some ""
  · simp [resolve_of_empty h, h]
  · rw [resolve_of_ne h]
    constructor
    · rintro ⟨c, hc⟩
      obtain ⟨-, hp, hs⟩ := assigned_eq_ok_iff.1 hc
      exact ⟨h, (Blacklist.exists_read_eq_ok_iff _).1 ⟨_, hp⟩,
        (Blacklist.exists_read_eq_ok_iff _).1 ⟨_, hs⟩⟩
    · rintro ⟨-, hp, hs⟩
      obtain ⟨p, hp⟩ := (Blacklist.exists_read_eq_ok_iff .propertyBlacklist).2 hp
      obtain ⟨s, hs⟩ := (Blacklist.exists_read_eq_ok_iff .selectorBlacklist).2 hs
      exact ⟨_, bind_eq_ok_iff.2 ⟨p, hp, bind_eq_ok_iff.2 ⟨s, hs, rfl⟩⟩⟩

/-- The warnings, which an empty source unit keeps back. -/
theorem resolve_snd (o : Options) :
    (resolve o).2 = if o.sourceUnit = some "" then [] else o.warnings := by
  split
  · rw [resolve_of_empty ‹_›]
  · rw [resolve_of_ne ‹_›]

/-- A configuration that follows options can be run with. -/
theorem Follows.admissible (hne : o.sourceUnit ≠ some "") (h : c.Follows o) : c.Admissible where
  sourceUnit_ne := by
    rw [h.sourceUnit]
    cases hu : o.sourceUnit with
    | none => decide
    | some u => exact fun hempty => hne (hu.trans (congrArg some hempty))
  viewportWidth := by
    rw [h.viewportWidth]
    exact getD_filter (show IsWidth _ by decide +kernel) _
  precision_le := by
    rw [h.precision]
    exact getD_filter (p := (· ≤ 15)) (by decide) _
  minPixelValue := by
    rw [h.minPixelValue]
    exact getD_filter (show IsThreshold _ by decide +kernel) _

end Config

/-- A stage runs with every configuration that has a source unit. -/
theorem Stage.ofConfig_eq_ok {c : Config} (h : c.sourceUnit ≠ "") : ofConfig c = .ok ⟨c, h⟩ := by
  have hne : c.sourceUnit.toList ≠ [] := mt String.toList_eq_nil_iff.1 h
  rw [ofConfig, dif_neg h]
  simp only [readIn_lengthPattern hne]

/-- What options come to. They are refused with the first thing that is wrong with them, or else
a configuration follows them that a stage can run with. Numbers out of range are warned of unless
the source unit is empty. -/
theorem Config.resolve_outcome (o : Options) :
    (∀ e, (resolve o).1 = .error e ↔ o.Refused e) ∧
    ((∃ c, (resolve o).1 = .ok c) ↔
      o.sourceUnit ≠ some "" ∧ (∀ s ∈ o.propertyBlacklist.getD [], s.IsReadable) ∧
        ∀ s ∈ o.selectorBlacklist.getD [], s.IsReadable) ∧
    (∀ c, (resolve o).1 = .ok c → c.Follows o ∧ c.Admissible ∧
      ∃ s, Stage.ofConfig c = .ok s ∧ s.config = c) ∧
    (resolve o).2 = (if o.sourceUnit = some "" then [] else o.warnings) ∧
    ∀ e, Stage.ofOptions o = .error e ↔ (resolve o).1 = .error e := by
  have hstage (c : Config) (hc : (resolve o).1 = .ok c) :
      c.Follows o ∧ c.Admissible ∧ ∃ s, Stage.ofConfig c = .ok s ∧ s.config = c := by
    obtain ⟨hne, hfollows⟩ := resolve_eq_ok_iff.1 hc
    have hadmissible := hfollows.admissible hne
    exact ⟨hfollows, hadmissible, _, Stage.ofConfig_eq_ok hadmissible.sourceUnit_ne, rfl⟩
  refine ⟨fun e => resolve_eq_error_iff, exists_resolve_eq_ok_iff, hstage, resolve_snd o,
    fun e => ?_⟩
  rw [Stage.ofOptions, bind_eq_error_iff]
  constructor
  · rintro (he | ⟨c, hc, he⟩)
    · exact he
    · obtain ⟨-, -, s, hs, -⟩ := hstage c hc
      rw [hs] at he
      cases he
  · exact .inl

end Viewport
