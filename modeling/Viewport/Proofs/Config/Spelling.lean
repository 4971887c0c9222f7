import Viewport.Proofs.Config.Json

/-!
# Options under any spelling

Options are read from the drafts that a text gives for them, whatever their order and their names,
and whether they are the members of an object or the items of an array. So two texts that give the
same drafts come to the same options, or both are refused. An option that an object gives twice is
refused at its second key. Every key is read, also one of a member that is for no option, so an
object with a key that is no string is refused.
-/

namespace Viewport

open Json

namespace Options

/-! ## Drafts that set options -/

/-- What an option is set to by a draft: the draft has a value that the option accepts, and the
setting is what the value stands for. -/
def Sets (name : OptionName) (d : Draft) (s : Option Setting) : Prop :=
  ∃ v, d.value innerRoom = .ok v ∧ name.Accepts v ∧ ∀ t, s = some t ↔ Setting.Of name.type v t

/-- What options come to when pairs of an option and a draft are taken. -/
structure SetTo (o : Options) (ps : List (OptionName × Draft)) (o' : Options) : Prop where
  sets : ∀ p ∈ ps, Sets p.1 p.2 (o'.get p.1)
  get_of_not_mem : ∀ name ∉ ps.map Prod.fst, o'.get name = o.get name

section Take

variable {o o' : Options} {name : OptionName} {d : Draft} {r : Options × List Event}

theorem exists_values_of_entriesOf {room : Nat} {ds : List Draft} {specs : List EntrySpec}
    (h : entriesOf room ds = .ok specs) : ∃ vs, Draft.values room ds = .ok vs := by
  induction ds generalizing specs with
  | nil => exact ⟨[], rfl⟩
  | cons d ds ih =>
    simp only [entriesOf, bind_eq_ok_iff] at h
    obtain ⟨v, hv, e, -, es, hes, -⟩ := h
    obtain ⟨vs, hvs⟩ := ih hes
    exact ⟨v :: vs, Draft.values_cons_eq_ok_iff.2 ⟨v, vs, hv, hvs, rfl⟩⟩

theorem exists_value_of_blacklistOf {b : Option (List EntrySpec)} (h : blacklistOf d = .ok b) :
    ∃ v, d.value innerRoom = .ok v := by
  cases d with
  | null => exact ⟨.null, rfl⟩
  | list items broken =>
    simp only [blacklistOf, bind_eq_ok_iff, Draft.failAt_eq_ok_iff] at h
    obtain ⟨specs, hspecs, rfl, -⟩ := h
    obtain ⟨vs, hvs⟩ := exists_values_of_entriesOf hspecs
    refine ⟨.list vs, ?_⟩
    rw [Draft.value, Draft.enter_eq_ok_iff]
    exact ⟨innerRoom - 1, rfl, bind_eq_ok_iff.2 ⟨vs, hvs, rfl⟩⟩
  | _ => exact absurd h Draft.refuse_ne_ok

/-- An option is taken from a draft only if the draft has a value. -/
theorem exists_value_of_take (h : o.take name d = .ok r) : ∃ v, d.value innerRoom = .ok v := by
  by_cases hlist : name.type = .blacklist
  · obtain ⟨put, -, -, htake⟩ := exists_put_of_blacklist o hlist
    rw [htake, bind_eq_ok_iff] at h
    obtain ⟨b, hb, -⟩ := h
    exact exists_value_of_blacklistOf hb
  · cases name with
    | propertyBlacklist | selectorBlacklist => exact absurd rfl hlist
    | _ =>
      simp only [take, lenient, bind_eq_ok_iff] at h
      obtain ⟨v, hv, -⟩ := h
      exact ⟨v, hv⟩

theorem sets_of_take (h : o.take name d = .ok r) :
    Sets name d (r.1.get name) ∧ ∀ n ≠ name, r.1.get n = o.get n := by
  obtain ⟨v, hv⟩ := exists_value_of_take h
  have haccepts := accepts_of_take hv h
  obtain ⟨r', hr', hchange, -⟩ := exists_take (o := o) hv haccepts
  obtain rfl := Except.ok.inj (h.symm.trans hr')
  exact ⟨⟨v, hv, haccepts, hchange.get_eq⟩, hchange.get_of_ne⟩

theorem exists_take_of_sets {s : Option Setting} (o : Options) (h : Sets name d s) :
    ∃ r, o.take name d = .ok r ∧ r.1.get name = s := by
  obtain ⟨v, hv, haccepts, hs⟩ := h
  obtain ⟨r, hr, hchange, -⟩ := exists_take (o := o) hv haccepts
  exact ⟨r, hr, Option.ext fun t => (hchange.get_eq t).trans (hs t).symm⟩

/-- Of several pairs the first is taken first, and the others leave its option alone. -/
theorem setTo_cons_iff {ps : List (OptionName × Draft)} (hname : name ∉ ps.map Prod.fst) :
    SetTo o ((name, d) :: ps) o' ↔ ∃ r, o.take name d = .ok r ∧ SetTo r.1 ps o' := by
  constructor
  · intro h
    obtain ⟨r, hr, hget⟩ := exists_take_of_sets o (h.sets (name, d) List.mem_cons_self)
    obtain ⟨-, hother⟩ := sets_of_take hr
    refine ⟨r, hr, fun p hp => h.sets p (List.mem_cons_of_mem _ hp), fun n hn => ?_⟩
    by_cases heq : n = name
    · rw [heq, hget]
    · rw [hother n heq]
      exact h.get_of_not_mem n (List.not_mem_cons_of_ne_of_not_mem heq hn)
  · rintro ⟨r, hr, h⟩
    obtain ⟨hsets, hother⟩ := sets_of_take hr
    refine ⟨fun p hp => ?_, fun n hn => ?_⟩
    · obtain rfl | hp := List.mem_cons.1 hp
      · rwa [h.get_of_not_mem name hname]
      · exact h.sets p hp
    · obtain ⟨hne, hn⟩ := List.ne_and_not_mem_of_not_mem_cons hn
      rw [h.get_of_not_mem n hn, hother n hne]

theorem SetTo.perm {ps ps' : List (OptionName × Draft)} (hps : ps.Perm ps')
    (h : SetTo o ps o') : SetTo o ps' o' where
  sets p hp := h.sets p (hps.mem_iff.2 hp)
  get_of_not_mem n hn := h.get_of_not_mem n fun hmem => hn ((hps.map _).mem_iff.1 hmem)

end Take

/-! ## Texts that give drafts -/

/-- A text that gives drafts for options: an object, in which well-formed members for none may
stand as long as their keys are whole, or an array of the first options. -/
inductive GivenBy : String → List (OptionName × Draft) → Prop
  | object {text : String} {ms : List (String × Draft)}
    (htext : Reading.of text.toList = ⟨.object (wholeKeys ms) none, false⟩)
    (hskip : ∀ m ∈ ms, OptionName.ofText? m.1 = none → m.2.skip = .ok ()) :
    GivenBy text (given OptionName.ofText? ms)
  | list {text : String} {items : List Draft}
    (htext : Reading.of text.toList = ⟨.list items none, false⟩)
    (hlength : items.length ≤ OptionName.all.length) : GivenBy text (OptionName.all.zip items)

/-- A member that is read without an error: its option accepts the value of its draft, or it is
for no option and is passed over. -/
def Decodes (m : String × Draft) : Prop :=
  match OptionName.ofText? m.1 with
  | none => m.2.skip = .ok ()
  | some name => ∃ v, m.2.value innerRoom = .ok v ∧ name.Accepts v

section Run

variable {o o' : Options} {log : List Event} {seen : List OptionName} {ms : List (String × Draft)}
  {k : String} {d : Draft} {name : OptionName}

theorem exists_ok_iff_setTo_nil :
    (∃ log', (.ok (o, log) : Result (Options × List Event)) = .ok (o', log')) ↔
      SetTo o [] o' := by
  constructor
  · rintro ⟨log', h⟩
    obtain ⟨rfl, -⟩ := Prod.mk.inj (Except.ok.inj h)
    exact ⟨fun p hp => absurd hp List.not_mem_nil, fun _ _ => rfl⟩
  · intro h
    obtain rfl := ext_get fun n => h.get_of_not_mem n List.not_mem_nil
    exact ⟨log, rfl⟩

/-- An option is taken, and then the others. -/
theorem exists_take_bind_iff {ps : List (OptionName × Draft)}
    {run : Options × List Event → Result (Options × List Event)} (hname : name ∉ ps.map Prod.fst)
    (hrun : ∀ r, (∃ log', run r = .ok (o', log')) ↔ SetTo r.1 ps o') :
    (∃ log', o.take name d >>= run = .ok (o', log')) ↔ SetTo o ((name, d) :: ps) o' := by
  simp only [setTo_cons_iff hname, bind_eq_ok_iff, ← hrun, ← exists_and_left]
  exact exists_comm

/-- The members of an object set each option that is given, and no other. -/
theorem ofMembers_wholeKeys_eq_ok_iff
    (hskip : ∀ m ∈ ms, OptionName.ofText? m.1 = none → m.2.skip = .ok ())
    (hnodup : ((given OptionName.ofText? ms).map Prod.fst).Nodup)
    (hseen : List.Disjoint seen ((given OptionName.ofText? ms).map Prod.fst)) :
    (∃ log', ofMembers seen o log (wholeKeys ms) = .ok (o', log')) ↔
      SetTo o (given OptionName.ofText? ms) o' := by
  induction ms generalizing seen o log with
  | nil => exact exists_ok_iff_setTo_nil
  | cons m ms ih =>
    obtain ⟨k, d⟩ := m
    have hskip' := fun m hm => hskip m (List.mem_cons_of_mem _ hm)
    cases hk : OptionName.ofText? k with
    | none =>
      rw [given_cons_of_unknown hk] at hnodup hseen ⊢
      rw [wholeKeys_cons, ofMembers_cons_of_unknown (hskip _ List.mem_cons_self hk) hk]
      exact ih hskip' hnodup hseen
    | some name =>
      rw [given_cons_of_known hk] at hnodup hseen ⊢
      obtain ⟨hname, hnodup⟩ := List.nodup_cons.1 hnodup
      obtain ⟨hname', hseen⟩ := List.disjoint_cons_right.1 hseen
      rw [wholeKeys_cons, ofMembers_cons_of_known hk hname']
      exact exists_take_bind_iff hname fun r =>
        ih hskip' hnodup (List.disjoint_cons_left.2 ⟨hname, hseen⟩)

/-- The items of an array set the first options, and no other. -/
theorem ofItems_eq_ok_iff {names : List OptionName} {items : List Draft}
    (hlength : items.length ≤ names.length) (hnodup : names.Nodup) :
    (∃ log', ofItems o log none names items = .ok (o', log')) ↔
      SetTo o (names.zip items) o' := by
  induction names generalizing items o log with
  | nil =>
    obtain rfl := List.length_eq_zero_iff.1 (Nat.le_zero.1 hlength)
    exact exists_ok_iff_setTo_nil
  | cons name names ih =>
    obtain ⟨hname, hnodup⟩ := List.nodup_cons.1 hnodup
    cases items with
    | nil => exact exists_ok_iff_setTo_nil
    | cons d items =>
      have hname' : name ∉ (names.zip items).map Prod.fst := by
        intro hmem
        obtain ⟨p, hp, rfl⟩ := List.mem_map.1 hmem
        exact hname (List.of_mem_zip hp).1
      exact exists_take_bind_iff hname' fun r => ih (Nat.le_of_succ_le_succ hlength) hnodup

/-- Members that are read without an error leave their options seen, whatever follows them. -/
theorem exists_ofMembers_wholeKeys_append (o : Options) (log : List Event)
    (hdecodes : ∀ m ∈ ms, Decodes m)
    (hnodup : ((given OptionName.ofText? ms).map Prod.fst).Nodup)
    (hseen : List.Disjoint seen ((given OptionName.ofText? ms).map Prod.fst)) :
    ∃ seen' o' log',
      (∀ n, n ∈ seen ∨ n ∈ (given OptionName.ofText? ms).map Prod.fst → n ∈ seen') ∧
      ∀ rest, ofMembers seen o log (wholeKeys ms ++ rest) = ofMembers seen' o' log' rest := by
  induction ms generalizing seen o log with
  | nil => exact ⟨seen, o, log, fun n h => h.resolve_right List.not_mem_nil, fun _ => rfl⟩
  | cons m ms ih =>
    obtain ⟨k, d⟩ := m
    have hm := hdecodes (k, d) List.mem_cons_self
    have hdecodes' := fun m hm => hdecodes m (List.mem_cons_of_mem _ hm)
    rw [wholeKeys_cons]
    cases hk : OptionName.ofText? k with
    | none =>
      simp only [Decodes, hk] at hm
      rw [given_cons_of_unknown hk] at hnodup hseen ⊢
      obtain ⟨seen', o', log', hmem, hrun⟩ := ih o log hdecodes' hnodup hseen
      refine ⟨seen', o', log', hmem, fun rest => ?_⟩
      rw [List.cons_append, ofMembers_cons_of_unknown hm hk]
      exact hrun rest
    | some name =>
      simp only [Decodes, hk] at hm
      rw [given_cons_of_known hk] at hnodup hseen ⊢
      obtain ⟨hname, hnodup⟩ := List.nodup_cons.1 hnodup
      obtain ⟨hname', hseen⟩ := List.disjoint_cons_right.1 hseen
      obtain ⟨v, hv, haccepts⟩ := hm
      obtain ⟨r, hr, -⟩ := exists_take (o := o) hv haccepts
      obtain ⟨seen', o', log', hmem, hrun⟩ :=
        ih r.1 (log ++ r.2) hdecodes' hnodup (List.disjoint_cons_left.2 ⟨hname, hseen⟩)
      refine ⟨seen', o', log', fun n hn => hmem n ?_, fun rest => ?_⟩
      · rw [List.map_cons, List.mem_cons] at hn
        rw [List.mem_cons]
        tauto
      · rw [List.cons_append, ofMembers_cons_of_known hk hname', hr]
        exact hrun rest

/-- The second key of an option is refused, whatever stands under it and after it. -/
theorem ofMembers_cons_of_seen {ms : List (Except Fault String × Draft)}
    (hk : OptionName.ofText? k = some name) (hseen : name ∈ seen) :
    ofMembers seen o log ((.ok k, d) :: ms) = .error (.duplicateField name.text) := by
  rw [ofMembers]
  simp only [wholeString, bind, Except.bind, hk, hseen]
  rfl

/-- Members are taken only if all of their keys are whole. -/
theorem exists_wholeKeys_of_ofMembers {ms : List (Except Fault String × Draft)}
    {r : Options × List Event} (h : ofMembers seen o log ms = .ok r) :
    ∃ ms', ms = wholeKeys ms' := by
  induction ms generalizing seen o log with
  | nil => exact ⟨[], rfl⟩
  | cons m ms ih =>
    obtain ⟨key, d⟩ := m
    obtain ⟨k, rfl⟩ : ∃ k, key = .ok k := by
      rw [ofMembers, bind_eq_ok_iff] at h
      obtain ⟨k, hk, -⟩ := h
      exact ⟨k, Draft.wholeString_eq_ok_iff.1 hk⟩
    have hrest : ∃ seen o log, ofMembers seen o log ms = .ok r := by
      cases hk : OptionName.ofText? k with
      | none =>
        rw [ofMembers] at h
        simp only [wholeString, bind_eq_ok_iff, Except.ok.injEq, exists_eq_left', hk] at h
        obtain ⟨-, -, h⟩ := h
        exact ⟨_, _, _, h⟩
      | some name =>
        by_cases hseen : name ∈ seen
        · rw [ofMembers_cons_of_seen hk hseen] at h
          cases h
        · rw [ofMembers_cons_of_known hk hseen, bind_eq_ok_iff] at h
          obtain ⟨_, -, h⟩ := h
          exact ⟨_, _, _, h⟩
    obtain ⟨_, _, _, hrest⟩ := hrest
    obtain ⟨ms', rfl⟩ := ih hrest
    exact ⟨(k, d) :: ms', rfl⟩

end Run

theorem ofJson_eq_ok_iff_ofDraft {text : String} {d : Draft}
    (htext : Reading.of text.toList = ⟨d, false⟩) {r : Options × List Event} :
    ofJson text = .ok r ↔ ofDraft d = .ok r := by
  have htake : Reading.take ⟨d, false⟩ ofDraft = .ok r ↔ ofDraft d = .ok r :=
    Reading.take_eq_ok_iff.trans (and_iff_left rfl)
  rw [ofJson, htext, ← htake]
  cases Reading.take ⟨d, false⟩ ofDraft <;> simp

/-- What a text comes to is said by the drafts that it gives. -/
theorem GivenBy.ofJson_eq_ok_iff {text : String} {ps : List (OptionName × Draft)}
    (h : GivenBy text ps) (hnodup : (ps.map Prod.fst).Nodup) {o : Options} :
    (∃ log, ofJson text = .ok (o, log)) ↔ SetTo {} ps o := by
  cases h with
  | object htext hskip =>
    simp only [ofJson_eq_ok_iff_ofDraft htext, ofDraft, bind_eq_ok_iff, Draft.failAt_eq_ok_iff,
      true_and, exists_eq_right]
    exact ofMembers_wholeKeys_eq_ok_iff hskip hnodup (List.disjoint_nil_left _)
  | list htext hlength =>
    simp only [ofJson_eq_ok_iff_ofDraft htext]
    exact ofItems_eq_ok_iff hlength (by decide)

/-- An object with a key that is no string is refused. -/
theorem exists_ofJson_eq_error {text : String} {ms : List (Except Fault String × Draft)}
    {broken : Option Break} {trailing : Bool}
    (htext : Reading.of text.toList = ⟨.object ms broken, trailing⟩)
    (hms : ∃ m ∈ ms, ∃ f, m.1 = .error f) : ∃ e, ofJson text = .error e := by
  cases hread : ofJson text with
  | error e => exact ⟨e, rfl⟩
  | ok r =>
    have hdraft : ofDraft (.object ms broken) = .ok r := by
      rw [ofJson, htext] at hread
      split at hread
      · rename_i htake
        obtain rfl := Except.ok.inj hread
        exact (Reading.take_eq_ok_iff.1 htake).1
      · cases hread
    rw [ofDraft, bind_eq_ok_iff] at hdraft
    obtain ⟨r', hmembers, -⟩ := hdraft
    obtain ⟨ms, rfl⟩ := exists_wholeKeys_of_ofMembers hmembers
    obtain ⟨m, hm, f, hf⟩ := hms
    obtain ⟨m', -, rfl⟩ := List.mem_map.1 hm
    cases hf

/-- What options come to is the same for all texts that give the same drafts for the same options,
none of them twice: whatever the order and the names, whatever else stands in the object under whole
keys, and also if the first options are the items of an array. If an object gives an option twice,
it is refused at the second key, whatever the drafts and whatever follows, and the current name is
told. If it has a key that is not whole, it is refused as well. -/
theorem ofJson_of_givenBy (text : String) :
    (∀ ps text' ps', GivenBy text ps → GivenBy text' ps' → (ps.map Prod.fst).Nodup → ps.Perm ps' →
      ∀ o, (∃ log, ofJson text = .ok (o, log)) ↔ ∃ log, ofJson text' = .ok (o, log)) ∧
    (∀ before key d after broken trailing name,
      Reading.of text.toList =
        ⟨.object (wholeKeys before ++ (.ok key, d) :: after) broken, trailing⟩ →
      (∀ m ∈ before, Decodes m) → ((given OptionName.ofText? before).map Prod.fst).Nodup →
      OptionName.ofText? key = some name → name ∈ (given OptionName.ofText? before).map Prod.fst →
      ofJson text = .error (.json (.duplicateField name.text))) ∧
    ∀ ms broken trailing, Reading.of text.toList = ⟨.object ms broken, trailing⟩ →
      (∃ m ∈ ms, ∃ f, m.1 = .error f) → ∃ e, ofJson text = .error e := by
  refine ⟨?_, ?_, fun ms broken trailing => exists_ofJson_eq_error⟩
  · intro ps text' ps' h h' hnodup hperm o
    rw [h.ofJson_eq_ok_iff hnodup, h'.ofJson_eq_ok_iff ((hperm.map _).nodup hnodup)]
    exact ⟨.perm hperm, .perm hperm.symm⟩
  · intro before key d after broken trailing name htext hdecodes hnodup hkey hname
    obtain ⟨seen, o, log, hseen, hrun⟩ :=
      exists_ofMembers_wholeKeys_append {} [] hdecodes hnodup (List.disjoint_nil_left _)
    rw [ofJson, htext, Reading.take, ofDraft, hrun,
      ofMembers_cons_of_seen hkey (hseen name (.inr hname))]
    rfl

/-- A unit under its former name, among other members. -/
def formerUnit : List (String × Value) :=
  [("viewportWidth", .null), ("units", .list []), ("unitToConvert", .string "rem")]

/-- A unit under both its names. -/
def unitTwice : List (String × Value) := [("unitToConvert", .null), ("sourceUnit", .string "rem")]

/-- A unit, and a member for no option under half of a pair of surrogates. -/
def unitBesideHalfPair : String := "\x7b\"sourceUnit\":\"rem\",\"\\ud800\":1\x7d"

theorem reading_unitBesideHalfPair : Reading.of unitBesideHalfPair.toList =
    ⟨.object [(.ok "sourceUnit", .string (.ok "rem")),
      (.error .unfinishedPair, .number (some (.integer 1)))] none, false⟩ := rfl

theorem ofJson_of_givenBy_formerUnit :
    (∃ o log, ofJson (Value.object formerUnit).text = .ok (o, log) ∧
      ∃ log, ofJson (Value.list [.string "rem", .null]).text = .ok (o, log)) ∧
    ofJson (Value.object unitTwice).text = .error (.json (.duplicateField "sourceUnit")) ∧
    ∃ e, ofJson unitBesideHalfPair = .error e := by
  have hobject : Reading.of (Value.object formerUnit).text.toList =
      ⟨.object (wholeKeys [("viewportWidth", .null), ("units", .list [] none),
        ("unitToConvert", .string (.ok "rem"))]) none, false⟩ :=
    Reading.of_eq (Value.tokens_text (.object (by
      simp [formerUnit, Value.Numberless.null, Value.Numberless.list, Value.Numberless.string])))
  have hlist : Reading.of (Value.list [.string "rem", .null]).text.toList =
      ⟨.list [.string (.ok "rem"), .null] none, false⟩ :=
    Reading.of_eq (Value.tokens_text (.list (by
      simp [Value.Numberless.null, Value.Numberless.string])))
  have htwice : Reading.of (Value.object unitTwice).text.toList =
      ⟨.object (wholeKeys [("unitToConvert", .null)] ++ [(.ok "sourceUnit", .string (.ok "rem"))])
        none, false⟩ :=
    Reading.of_eq (Value.tokens_text (.object (by
      simp [unitTwice, Value.Numberless.null, Value.Numberless.string])))
  obtain ⟨hsame, -⟩ := ofJson_of_givenBy (Value.object formerUnit).text
  obtain ⟨-, hduplicate, -⟩ := ofJson_of_givenBy (Value.object unitTwice).text
  obtain ⟨-, -, hbroken⟩ := ofJson_of_givenBy unitBesideHalfPair
  refine ⟨?_, ?_, hbroken _ _ _ reading_unitBesideHalfPair
    ⟨_, List.mem_cons_of_mem _ List.mem_cons_self, _, rfl⟩⟩
  · have hunknown : ∀ m ∈ [("viewportWidth", Draft.null), ("units", .list [] none),
        ("unitToConvert", .string (.ok "rem"))],
        OptionName.ofText? m.1 = none → m.2.skip = .ok () := by
      simp [Draft.skip, Draft.skipAll, bind, Except.bind]
    have hiff := hsame _ _ _ (.object hobject hunknown) (.list hlist (by decide)) (by decide)
      (.swap _ _ _) { sourceUnit := some "rem" }
    have hok : ∃ log, ofJson (Value.list [.string "rem", .null]).text =
        .ok ({ sourceUnit := some "rem" }, log) := ⟨[], by rw [ofJson, hlist]; rfl⟩
    obtain ⟨log, hlog⟩ := hiff.2 hok
    exact ⟨_, log, hlog, hok⟩
  · refine hduplicate _ _ _ _ _ _ .sourceUnit htwice ?_ (by decide) (by decide) (by decide)
    simp only [List.mem_singleton, forall_eq]
    exact ⟨.null, rfl, fun _ => .inl rfl⟩

/-- The unit alone is accepted. With the other member, in which nothing is wrong for who passes over
it, it is refused because of the key. -/
theorem ofJson_unitBesideHalfPair :
    GivenBy (Value.object [("sourceUnit", .string "rem")]).text
      [(.sourceUnit, .string (.ok "rem"))] ∧
    ofJson (Value.object [("sourceUnit", .string "rem")]).text =
      .ok ({ sourceUnit := some "rem" }, []) ∧
    (∃ f d, Reading.of unitBesideHalfPair.toList =
      ⟨.object [(.ok "sourceUnit", .string (.ok "rem")), (.error f, d)] none, false⟩) ∧
    (Reading.of unitBesideHalfPair.toList).draft.skip = .ok () ∧
    ofJson unitBesideHalfPair = .error (.json (.fault .unfinishedPair)) := by
  have halone : Reading.of (Value.object [("sourceUnit", .string "rem")]).text.toList =
      ⟨.object (wholeKeys [("sourceUnit", .string (.ok "rem"))]) none, false⟩ :=
    Reading.of_eq (Value.tokens_text (.object (by simp [Value.Numberless.string])))
  refine ⟨.object halone ?_, ?_, ⟨_, _, reading_unitBesideHalfPair⟩, ?_, ?_⟩
  · simp only [List.mem_singleton, forall_eq]
    rintro ⟨⟩
  · rw [ofJson, halone]
    rfl
  · rw [reading_unitBesideHalfPair]
    rfl
  · rw [ofJson, reading_unitBesideHalfPair]
    rfl

end Options

end Viewport
