import Viewport.Proofs.Config.Setting

/-!
# Options are read leniently

What options hold is said by the members of the object they are read from, without the reader. A
scalar of another type than its option counts as left out, whatever it is; a blacklist of another
shape is refused.
-/

namespace Viewport

open Json

/-! ## Members -/

/-- The value that members give for an option, under one of its names. -/
def Given (members : List (String × Value)) (name : OptionName) (v : Value) : Prop :=
  ∃ key, (key, v) ∈ members ∧ OptionName.ofText? key = some name

/-- The options that members give, in the order of the members. -/
def givenNames (members : List (String × Value)) : List OptionName :=
  members.filterMap fun m => OptionName.ofText? m.1

/-- A member that gives a value of another type for a scalar option. -/
structure Malformed (m : String × Value) (name : OptionName) : Prop where
  name_eq : OptionName.ofText? m.1 = some name
  scalar : name.type ≠ .blacklist
  ne_null : m.2 ≠ .null
  not_hasType : ¬ m.2.HasType name.type

/-- The warnings of members: one of each that is malformed, in their order. -/
inductive Warned : List (String × Value) → List Event → Prop
  | nil : Warned [] []
  | malformed {m : String × Value} {name : OptionName} {ms : List (String × Value)}
    {log : List Event} (h : Malformed m name) (hms : Warned ms log) :
    Warned (m :: ms) (.malformedOption m.2.sorted (name.type.problem m.2) :: log)
  | other {m : String × Value} {ms : List (String × Value)} {log : List Event}
    (h : ∀ name, ¬ Malformed m name) (hms : Warned ms log) : Warned (m :: ms) log

theorem Warned.append {ms ms' : List (String × Value)} {log log' : List Event}
    (h : Warned ms log) (h' : Warned ms' log') : Warned (ms ++ ms') (log ++ log') := by
  induction h with
  | nil => exact h'
  | malformed hm _ ih => exact .malformed hm ih
  | other hm _ ih => exact .other hm ih

section Given

variable {m : String × Value} {ms : List (String × Value)} {name : OptionName} {v : Value}

/-- A member is malformed for the one option that its key names. -/
theorem Malformed.eq {m : String × Value} {name name' : OptionName} (h : Malformed m name)
    (h' : OptionName.ofText? m.1 = some name') : name = name' :=
  Option.some.inj (h.name_eq.symm.trans h')

theorem given_cons_iff :
    Given (m :: ms) name v ↔ OptionName.ofText? m.1 = some name ∧ v = m.2 ∨ Given ms name v := by
  obtain ⟨key, w⟩ := m
  constructor
  · rintro ⟨k, hk, hname⟩
    obtain h | h := List.mem_cons.1 hk
    · obtain ⟨rfl, rfl⟩ := Prod.mk.inj h
      exact .inl ⟨hname, rfl⟩
    · exact .inr ⟨k, h, hname⟩
  · rintro (⟨hname, rfl⟩ | ⟨k, hk, hname⟩)
    · exact ⟨key, List.mem_cons_self, hname⟩
    · exact ⟨k, List.mem_cons_of_mem _ hk, hname⟩

/-- A member in the middle gives its value, and the others theirs. -/
theorem given_middle_iff {before after : List (String × Value)} :
    Given (before ++ m :: after) name v ↔
      OptionName.ofText? m.1 = some name ∧ v = m.2 ∨ Given (before ++ after) name v := by
  rw [← given_cons_iff, Given, Given]
  simp only [List.perm_middle.mem_iff]

theorem givenNames_middle_nodup {before after : List (String × Value)}
    (h : (givenNames (before ++ m :: after)).Nodup) : (givenNames (before ++ after)).Nodup :=
  h.sublist (((List.sublist_cons_self m after).append_left before).filterMap _)

/-- The names that are given are those with a value. -/
theorem mem_givenNames_iff : name ∈ givenNames ms ↔ ∃ v, Given ms name v := by
  simp only [givenNames, List.mem_filterMap, Given, Prod.exists]
  exact exists_comm

end Given

namespace Options

/-- What an option that is taken changes: its own setting, and nothing else. -/
structure Changed (o : Options) (name : OptionName) (v : Value) (o' : Options) : Prop where
  get_eq : ∀ s, o'.get name = some s ↔ Setting.Of name.type v s
  get_of_ne : ∀ n ≠ name, o'.get n = o.get n

/-- What comes of taking an option. -/
def Taken (o : Options) (name : OptionName) (v : Value) (r : Options × List Event) : Prop :=
  Changed o name v r.1 ∧ ∀ key, OptionName.ofText? key = some name → Warned [(key, v)] r.2

section Take

variable {o : Options} {name : OptionName} {d : Draft} {v : Value}

section Lenient

variable {α : Type} {take : Value → Result α} {put : Option α → Options}

/-- A null leaves the option out and is not warned of. -/
theorem lenient_of_null (hd : d.value innerRoom = .ok .null) :
    lenient take d put = .ok (put none, []) := by
  rw [lenient, hd]
  rfl

/-- A value that can be taken is set. -/
theorem lenient_of_ok (hd : d.value innerRoom = .ok v) (hv : v ≠ .null) {a : α}
    (ha : take v = .ok a) : lenient take d put = .ok (put (some a), []) := by
  rw [lenient, hd]
  simp only [bind, Except.bind, ha]
  rfl

/-- A value that cannot be taken leaves the option out, with a warning that tells of the value. -/
theorem lenient_of_error (hd : d.value innerRoom = .ok v) (hv : v ≠ .null) {e : Error}
    (he : take v = .error e) :
    lenient take d put = .ok (put none, [.malformedOption v.sorted e]) := by
  rw [lenient, hd]
  simp only [bind, Except.bind, he]
  rfl

end Lenient

/-- A scalar option takes every value: it is set if the value is of its type, and left out
otherwise. -/
theorem exists_lenient_eq_ok {α : Type} {take : Value → Result α} {wrap : α → Setting}
    {put : Option α → Options} (htake : Takes take wrap name.type)
    (hscalar : name.type ≠ .blacklist) (hd : d.value innerRoom = .ok v)
    (hname : ∀ a, (put a).get name = a.map wrap)
    (hother : ∀ a, ∀ n ≠ name, (put a).get n = o.get n) :
    ∃ r, lenient take d put = .ok r ∧ Taken o name v r := by
  have silent {key : String} (hkey : OptionName.ofText? key = some name)
      (hv : v = .null ∨ v.HasType name.type) : Warned [(key, v)] [] := by
    refine .other (fun n hn => ?_) .nil
    obtain rfl := hn.eq hkey
    exact hv.elim hn.ne_null hn.not_hasType
  have unset (hv : ¬ v.HasType name.type) : Changed o name v (put none) :=
    ⟨fun s => by simpa [hname] using fun h => hv ⟨s, h⟩, hother none⟩
  by_cases hnull : v = .null
  · subst hnull
    exact ⟨_, lenient_of_null hd, unset not_hasType_null, fun _ hkey => silent hkey (.inl rfl)⟩
  · cases htv : take v with
    | ok a =>
      have hof := htake.of_eq_ok htv
      refine ⟨_, lenient_of_ok hd hnull htv, ⟨fun s => ?_, hother (some a)⟩,
        fun _ hkey => silent hkey (.inr ⟨_, hof⟩)⟩
      rw [hname, Option.map_some, Option.some_inj]
      constructor
      · rintro rfl
        exact hof
      · intro hs
        obtain ⟨b, hb, rfl⟩ := htake.eq_ok_of hs
        rw [Except.ok.inj (htv.symm.trans hb)]
    | error e =>
      have hv : ¬ v.HasType name.type := by
        rintro ⟨s, hs⟩
        obtain ⟨b, hb, -⟩ := htake.eq_ok_of hs
        cases htv.symm.trans hb
      obtain rfl := htake.of_eq_error htv
      exact ⟨_, lenient_of_error hd hnull htv, unset hv,
        fun _ hkey => .malformed ⟨hkey, hscalar, hnull, hv⟩ .nil⟩

/-- Every option but a blacklist is taken from any value. -/
theorem exists_take_of_scalar (hd : d.value innerRoom = .ok v) (hscalar : name.type ≠ .blacklist) :
    ∃ r, o.take name d = .ok r ∧ Taken o name v r := by
  cases name with
  | sourceUnit | viewportUnit | fontViewportUnit | enableComment | disableComment =>
    rw [Options.take]
    refine exists_lenient_eq_ok takes_asString hscalar hd (fun _ => rfl) fun _ n hn => ?_
    cases n <;> first | contradiction | rfl
  | viewportWidth | minPixelValue =>
    rw [Options.take]
    refine exists_lenient_eq_ok takes_floatOf hscalar hd (fun _ => rfl) fun _ n hn => ?_
    cases n <;> first | contradiction | rfl
  | precision =>
    rw [Options.take]
    refine exists_lenient_eq_ok takes_countOf hscalar hd (fun _ => rfl) fun _ n hn => ?_
    cases n <;> first | contradiction | rfl
  | convertMediaQueries =>
    rw [Options.take]
    refine exists_lenient_eq_ok takes_asBool hscalar hd (fun _ => rfl) fun _ n hn => ?_
    cases n <;> first | contradiction | rfl
  | propertyBlacklist | selectorBlacklist => contradiction

/-- A blacklist is put in its place as it is read. -/
theorem exists_put_of_blacklist (o : Options) (hlist : name.type = .blacklist) :
    ∃ put : Option (List EntrySpec) → Options,
      (∀ b, (put b).get name = b.map .blacklist) ∧ (∀ b, ∀ n ≠ name, (put b).get n = o.get n) ∧
      ∀ d, o.take name d = blacklistOf d >>= fun b => .ok (put b, []) := by
  cases name with
  | propertyBlacklist =>
    refine ⟨({ o with propertyBlacklist := · }), fun _ => rfl, fun _ n hn => ?_, fun _ => rfl⟩
    cases n <;> first | contradiction | rfl
  | selectorBlacklist =>
    refine ⟨({ o with selectorBlacklist := · }), fun _ => rfl, fun _ n hn => ?_, fun _ => rfl⟩
    cases n <;> first | contradiction | rfl
  | _ => contradiction

/-- A blacklist is read from the values of its type. -/
theorem blacklistOf_some_iff (hd : d.value innerRoom = .ok v) {specs : List EntrySpec} :
    blacklistOf d = .ok (some specs) ↔ Setting.Of .blacklist v (.blacklist specs) := by
  rw [blacklistOf_eq_ok_iff hd]
  constructor
  · rintro (⟨-, h⟩ | ⟨_, hv, h⟩)
    · cases h
    · obtain rfl := Option.some.inj h
      exact hv
  · exact fun hv => .inr ⟨specs, hv, rfl⟩

/-- A blacklist is taken from a null and from a list of entries, and silently. -/
theorem exists_take_of_blacklist (hd : d.value innerRoom = .ok v) (hlist : name.type = .blacklist)
    (hv : v = .null ∨ v.HasType .blacklist) : ∃ r, o.take name d = .ok r ∧ Taken o name v r := by
  obtain ⟨put, hname, hother, htake⟩ := exists_put_of_blacklist o hlist
  have silent (k : String) (hk : OptionName.ofText? k = some name) : Warned [(k, v)] [] := by
    refine .other (fun n hn => ?_) .nil
    obtain rfl := hn.eq hk
    exact hn.scalar hlist
  obtain rfl | ⟨s, hs⟩ := hv
  · have hnone : blacklistOf d = .ok none := (blacklistOf_eq_ok_iff hd).2 (.inl ⟨rfl, rfl⟩)
    refine ⟨(put none, []), by rw [htake, hnone]; rfl, ⟨fun s => ?_, hother none⟩, silent⟩
    exact iff_of_false (by simp [hname]) fun h => not_hasType_null ⟨s, h⟩
  · obtain ⟨specs, rfl⟩ := hs.exists_specs
    have hsome := (blacklistOf_some_iff hd).2 hs
    refine ⟨(put (some specs), []), by rw [htake, hsome]; rfl, ⟨fun s => ?_, hother (some specs)⟩,
      silent⟩
    rw [hname, Option.map_some, Option.some_inj, hlist]
    constructor
    · rintro rfl
      exact hs
    · intro hs'
      obtain ⟨specs', rfl⟩ := hs'.exists_specs
      have hsome' := (blacklistOf_some_iff hd).2 hs'
      rw [Option.some.inj (Except.ok.inj (hsome.symm.trans hsome'))]

/-- An option is taken from every value that it accepts. -/
theorem exists_take (hd : d.value innerRoom = .ok v) (hv : name.Accepts v) :
    ∃ r, o.take name d = .ok r ∧ Taken o name v r := by
  by_cases hlist : name.type = .blacklist
  · exact exists_take_of_blacklist hd hlist (hv hlist)
  · exact exists_take_of_scalar hd hlist

/-- An option only takes what it accepts. -/
theorem accepts_of_take (hd : d.value innerRoom = .ok v) {r : Options × List Event}
    (h : o.take name d = .ok r) : name.Accepts v := by
  intro hlist
  obtain ⟨put, -, -, htake⟩ := exists_put_of_blacklist o hlist
  rw [htake, bind_eq_ok_iff] at h
  obtain ⟨b, hb, -⟩ := h
  obtain ⟨hv, -⟩ | ⟨specs, hv, -⟩ := (blacklistOf_eq_ok_iff hd).1 hb
  · exact .inl hv
  · exact .inr ⟨_, hv⟩

end Take

/-! ## Runs over members -/

/-- What comes of taking the members of an object. -/
structure Merged (o : Options) (members : List (String × Value)) (o' : Options) : Prop where
  get_of_given : ∀ name v, Given members name v →
    ∀ s, o'.get name = some s ↔ Setting.Of name.type v s
  get_of_not_given : ∀ name, name ∉ givenNames members → o'.get name = o.get name

theorem get_empty (name : OptionName) : get {} name = none := by cases name <;> rfl

section Members

variable {ms : List (Except Fault String × Draft)} {members : List (String × Value)}
  {seen : List OptionName} {o o' o'' : Options} {log : List Event} {k : String} {d : Draft}
  {v : Value} {name : OptionName}

theorem givenNames_cons_of_unknown (hk : OptionName.ofText? k = none) :
    givenNames ((k, v) :: members) = givenNames members := by
  simp only [givenNames, List.filterMap_cons, hk]

/-- A member with a known key gives its option. -/
theorem givenNames_cons_of_known (hk : OptionName.ofText? k = some name) :
    givenNames ((k, v) :: members) = name :: givenNames members := by
  simp only [givenNames, List.filterMap_cons, hk]

theorem Merged.nil : Merged o [] o where
  get_of_given _ _ := by
    rintro ⟨_, h, _⟩
    cases h
  get_of_not_given _ _ := rfl

theorem Merged.cons_of_unknown (hk : OptionName.ofText? k = none) (h : Merged o members o') :
    Merged o ((k, v) :: members) o' where
  get_of_given n w hn := by
    obtain ⟨hname, -⟩ | hn := given_cons_iff.1 hn
    · cases hk.symm.trans hname
    · exact h.get_of_given n w hn
  get_of_not_given n hn := h.get_of_not_given n (givenNames_cons_of_unknown hk ▸ hn)

/-- A member that no later one repeats changes its option, and the others change theirs. -/
theorem Merged.cons_of_known (hk : OptionName.ofText? k = some name)
    (hname : name ∉ givenNames members) (hchange : Changed o name v o')
    (h : Merged o' members o'') : Merged o ((k, v) :: members) o'' where
  get_of_given n w hn s := by
    obtain ⟨hn, rfl⟩ | hn := given_cons_iff.1 hn
    · obtain rfl := Option.some.inj (hk.symm.trans hn)
      rw [h.get_of_not_given name hname, hchange.get_eq]
    · exact h.get_of_given n w hn s
  get_of_not_given n hn := by
    rw [givenNames_cons_of_known hk, List.mem_cons, not_or] at hn
    rw [h.get_of_not_given n hn.2, hchange.get_of_ne n hn.1]

/-- Starting from no options, the options are set that are given a value of their type. -/
theorem Merged.get_iff_of_empty (h : Merged {} members o) (name : OptionName) (s : Setting) :
    o.get name = some s ↔ ∃ v, Given members name v ∧ Setting.Of name.type v s := by
  by_cases hname : name ∈ givenNames members
  · obtain ⟨v, hv⟩ := mem_givenNames_iff.1 hname
    constructor
    · exact fun hs => ⟨v, hv, (h.get_of_given name v hv s).1 hs⟩
    · rintro ⟨w, hw, hs⟩
      exact (h.get_of_given name w hw s).2 hs
  · rw [h.get_of_not_given name hname, get_empty]
    exact iff_of_false (nofun) fun ⟨v, hv, _⟩ => hname (mem_givenNames_iff.2 ⟨v, hv⟩)

/-- A member with an unknown key is passed over. -/
theorem ofMembers_cons_of_unknown (hd : d.skip = .ok ()) (hk : OptionName.ofText? k = none) :
    ofMembers seen o log ((.ok k, d) :: ms) = ofMembers seen o log ms := by
  rw [ofMembers]
  simp only [wholeString, bind, Except.bind, hk, hd]

/-- A member with a known key sets its option, unless it has been set before. -/
theorem ofMembers_cons_of_known (hk : OptionName.ofText? k = some name) (hseen : name ∉ seen) :
    ofMembers seen o log ((.ok k, d) :: ms) =
      o.take name d >>= fun r => ofMembers (name :: seen) r.1 (log ++ r.2) ms := by
  rw [ofMembers]
  simp only [wholeString, bind, Except.bind, hk, hseen]
  rfl

/-- Reading members succeeds if no option is given twice and each accepts its value. The members are
merged into the options, and the malformed ones are warned of. -/
theorem exists_ofMembers (hms : Draft.memberValues innerRoom ms = .ok members)
    (hnodup : (givenNames members).Nodup) (hseen : List.Disjoint seen (givenNames members))
    (haccepts : ∀ name v, Given members name v → name.Accepts v) :
    ∃ o' w, ofMembers seen o log ms = .ok (o', log ++ w) ∧ Merged o members o' ∧
      Warned members w := by
  induction ms generalizing members seen o log with
  | nil =>
    obtain rfl := Except.ok.inj hms
    exact ⟨o, [], by rw [List.append_nil]; rfl, .nil, .nil⟩
  | cons m ms ih =>
    obtain ⟨key, d⟩ := m
    obtain ⟨k, v, rest, rfl, hd, hrest, rfl⟩ := Draft.memberValues_cons_eq_ok_iff.1 hms
    have haccepts' (n : OptionName) (w : Value) (h : Given rest n w) : n.Accepts w :=
      haccepts n w (given_cons_iff.2 (.inr h))
    cases hk : OptionName.ofText? k with
    | none =>
      rw [givenNames_cons_of_unknown hk] at hnodup hseen
      obtain ⟨o', w, hrun, hmerged, hwarned⟩ := ih hrest hnodup hseen haccepts'
      refine ⟨o', w, ?_, hmerged.cons_of_unknown hk, .other (fun n hn => ?_) hwarned⟩
      · rw [ofMembers_cons_of_unknown (Draft.skip_of_value hd) hk, hrun]
      · cases hk.symm.trans hn.name_eq
    | some name =>
      rw [givenNames_cons_of_known hk] at hnodup hseen
      obtain ⟨hname, hnodup⟩ := List.nodup_cons.1 hnodup
      obtain ⟨hname', hseen⟩ := List.disjoint_cons_right.1 hseen
      obtain ⟨⟨o₁, w₁⟩, htake, hchange, hwarn⟩ :=
        exists_take hd (haccepts name v (given_cons_iff.2 (.inl ⟨hk, rfl⟩)))
      obtain ⟨o', w, hrun, hmerged, hwarned⟩ :=
        ih hrest hnodup (List.disjoint_cons_left.2 ⟨hname, hseen⟩) haccepts'
      refine ⟨o', w₁ ++ w, ?_, hmerged.cons_of_known hk hname hchange, (hwarn k hk).append hwarned⟩
      rw [ofMembers_cons_of_known hk hname', htake, ← List.append_assoc]
      exact hrun

/-- Members that have been read had values that their options accept. -/
theorem accepts_of_ofMembers (hms : Draft.memberValues innerRoom ms = .ok members)
    (hnodup : (givenNames members).Nodup) (hseen : List.Disjoint seen (givenNames members))
    {r : Options × List Event} (h : ofMembers seen o log ms = .ok r) :
    ∀ name v, Given members name v → name.Accepts v := by
  induction ms generalizing members seen o log with
  | nil =>
    obtain rfl := Except.ok.inj hms
    rintro name v ⟨_, hmem, -⟩
    cases hmem
  | cons m ms ih =>
    obtain ⟨key, d⟩ := m
    obtain ⟨k, v, rest, rfl, hd, hrest, rfl⟩ := Draft.memberValues_cons_eq_ok_iff.1 hms
    intro n w hgiven
    cases hk : OptionName.ofText? k with
    | none =>
      rw [givenNames_cons_of_unknown hk] at hnodup hseen
      rw [ofMembers_cons_of_unknown (Draft.skip_of_value hd) hk] at h
      obtain ⟨hn, -⟩ | hgiven := given_cons_iff.1 hgiven
      · cases hk.symm.trans hn
      · exact ih hrest hnodup hseen h n w hgiven
    | some name =>
      rw [givenNames_cons_of_known hk] at hnodup hseen
      obtain ⟨hname, hnodup⟩ := List.nodup_cons.1 hnodup
      obtain ⟨hname', hseen⟩ := List.disjoint_cons_right.1 hseen
      rw [ofMembers_cons_of_known hk hname', bind_eq_ok_iff] at h
      obtain ⟨r₁, htake, h⟩ := h
      obtain ⟨hn, rfl⟩ | hgiven := given_cons_iff.1 hgiven
      · obtain rfl := Option.some.inj (hk.symm.trans hn)
        exact accepts_of_take hd htake
      · exact ih hrest hnodup (List.disjoint_cons_left.2 ⟨hname, hseen⟩) h n w hgiven

end Members

/-- What is said of a result that the members of an object come to: it is there if every blacklist
has the right shape, every setting in it is that of the value given for its option, and every
malformed scalar is warned of. -/
structure ReadFrom (members : List (String × Value))
    (result : Except ConfigError (Options × List Event)) : Prop where
  isOk_iff : (∃ r, result = .ok r) ↔ ∀ name v, Given members name v → name.Accepts v
  get_iff : ∀ o log, result = .ok (o, log) →
    ∀ name s, o.get name = some s ↔ ∃ v, Given members name v ∧ Setting.Of name.type v s
  warned : ∀ o log, result = .ok (o, log) → Warned members log

/-- Of a text that is an object the members are read. -/
theorem ofJson_eq_ok_iff {text : String} {ms : List (Except Fault String × Draft)}
    (h : Reading.of text.toList = ⟨.object ms none, false⟩) {r : Options × List Event} :
    ofJson text = .ok r ↔ ofMembers [] {} [] ms = .ok r := by
  rw [ofJson, h]
  cases hms : ofMembers [] {} [] ms with
  | ok r => simp [Reading.take, ofDraft, hms, failAt, bind, Except.bind]
  | error e => simp [Reading.take, ofDraft, hms, bind, Except.bind]

/-- Options are read from an object that gives none of them twice. -/
theorem readFrom_ofJson {text : String} {members : List (String × Value)}
    (htext : Value.ofJson text = .ok (.object members)) (hnodup : (givenNames members).Nodup) :
    ReadFrom members (ofJson text) := by
  obtain ⟨ms, hof, hms⟩ := Value.exists_draft_of_ofJson htext
  have hseen : List.Disjoint [] (givenNames members) := List.disjoint_nil_left _
  have haccepts (r : Options × List Event) (h : ofJson text = .ok r) :=
    accepts_of_ofMembers hms hnodup hseen ((ofJson_eq_ok_iff hof).1 h)
  have hrun (h : ∀ name v, Given members name v → name.Accepts v) :
      ∃ o log, ofJson text = .ok (o, log) ∧ Merged {} members o ∧ Warned members log := by
    obtain ⟨o, log, hrun, h⟩ := exists_ofMembers hms hnodup hseen h
    exact ⟨o, log, (ofJson_eq_ok_iff hof).2 hrun, h⟩
  refine ⟨⟨fun ⟨r, h⟩ => haccepts r h, fun h => ?_⟩, fun o log h => ?_, fun o log h => ?_⟩
  · obtain ⟨o, log, hok, -⟩ := hrun h
    exact ⟨_, hok⟩
  · obtain ⟨o', log', hok, hmerged, -⟩ := hrun (haccepts _ h)
    obtain ⟨rfl, -⟩ := Prod.mk.inj (Except.ok.inj (h.symm.trans hok))
    exact hmerged.get_iff_of_empty
  · obtain ⟨o', log', hok, -, hwarned⟩ := hrun (haccepts _ h)
    obtain ⟨-, rfl⟩ := Prod.mk.inj (Except.ok.inj (h.symm.trans hok))
    exact hwarned

/-- Members that give the same settings come to the same options. -/
theorem ReadFrom.congr {members members' : List (String × Value)}
    {result result' : Except ConfigError (Options × List Event)} (h : ReadFrom members result)
    (h' : ReadFrom members' result')
    (haccepts : (∀ name v, Given members name v → name.Accepts v) →
      ∀ name v, Given members' name v → name.Accepts v)
    (hof : ∀ name s, (∃ v, Given members name v ∧ Setting.Of name.type v s) ↔
      ∃ v, Given members' name v ∧ Setting.Of name.type v s)
    {o : Options} (hok : ∃ log, result = .ok (o, log)) : ∃ log, result' = .ok (o, log) := by
  obtain ⟨log, hok⟩ := hok
  obtain ⟨⟨o', log'⟩, hok'⟩ := h'.isOk_iff.2 (haccepts (h.isOk_iff.1 ⟨_, hok⟩))
  obtain rfl : o = o' := ext_get fun name => Option.ext fun s => by
    rw [h.get_iff o log hok, hof, h'.get_iff o' log' hok']
  exact ⟨log', hok'⟩

/-- The members of an object come to options if every blacklist among them has the right shape. The
options are then what the values stand for; each malformed scalar is warned of, and comes to the
same as none. -/
theorem ofJson_of_object {text : String} {members : List (String × Value)}
    (htext : Value.ofJson text = .ok (.object members)) (hnodup : (givenNames members).Nodup) :
    ((∃ r, ofJson text = .ok r) ↔ ∀ name v, Given members name v → name.Accepts v) ∧
    (∀ o log, ofJson text = .ok (o, log) →
      (∀ name s, o.get name = some s ↔ ∃ v, Given members name v ∧ Setting.Of name.type v s) ∧
      Warned members log) ∧
    ∀ before m after name, members = before ++ m :: after → Malformed m name →
      ∀ text', Value.ofJson text' = .ok (.object (before ++ after)) →
        ∀ o, (∃ log, ofJson text = .ok (o, log)) ↔ ∃ log, ofJson text' = .ok (o, log) := by
  have hread := readFrom_ofJson htext hnodup
  refine ⟨hread.isOk_iff, fun o log h => ⟨hread.get_iff o log h, hread.warned o log h⟩, ?_⟩
  rintro before m after name rfl hm text' htext' o
  have hread' := readFrom_ofJson htext' (givenNames_middle_nodup hnodup)
  have haccepts (n : OptionName) (h : OptionName.ofText? m.1 = some n) : n.Accepts m.2 := by
    obtain rfl := hm.eq h
    exact fun hlist => absurd hlist hm.scalar
  have hsettings (n : OptionName) (s : Setting) :
      (∃ v, Given (before ++ m :: after) n v ∧ Setting.Of n.type v s) ↔
        ∃ v, Given (before ++ after) n v ∧ Setting.Of n.type v s := by
    constructor
    · rintro ⟨v, hv, hs⟩
      obtain ⟨hn, rfl⟩ | hv := given_middle_iff.1 hv
      · obtain rfl := hm.eq hn
        exact absurd ⟨s, hs⟩ hm.not_hasType
      · exact ⟨v, hv, hs⟩
    · rintro ⟨v, hv, hs⟩
      exact ⟨v, given_middle_iff.2 (.inr hv), hs⟩
  constructor
  · exact hread.congr hread' (fun h n v hv => h n v (given_middle_iff.2 (.inr hv))) hsettings
  · refine hread'.congr hread (fun h n v hv => ?_) fun n s => (hsettings n s).symm
    obtain ⟨hn, rfl⟩ | hv := given_middle_iff.1 hv
    · exact haccepts n hn
    · exact h n v hv

/-- A source unit, and a precision that is written as a string. -/
def quotedPrecision : List (String × Value) :=
  [("sourceUnit", .string "rem"), ("unitPrecision", .string "3")]

theorem ofJson_of_object_quotedPrecision :
    ∃ o log log', ofJson (Value.object quotedPrecision).text = .ok (o, log) ∧
      ofJson (Value.object [("sourceUnit", .string "rem")]).text = .ok (o, log') ∧
      Warned quotedPrecision log ∧ o.get .sourceUnit = some (.text "rem") := by
  have htext : Value.ofJson (Value.object quotedPrecision).text = .ok (.object quotedPrecision) :=
    Value.ofJson_text (.object (by simp [quotedPrecision, Value.Numberless.string])) (by decide)
  have htext' : Value.ofJson (Value.object [("sourceUnit", .string "rem")]).text =
      .ok (.object [("sourceUnit", .string "rem")]) :=
    Value.ofJson_text (.object (by simp [Value.Numberless.string])) (by decide)
  have hgiven : Given quotedPrecision .sourceUnit (.string "rem") :=
    ⟨"sourceUnit", List.mem_cons_self, by decide⟩
  have hmalformed : Malformed ("unitPrecision", .string "3") .precision :=
    ⟨by decide, by decide, nofun, by rintro ⟨s, ⟨⟩⟩⟩
  obtain ⟨hok, hread, hleft⟩ := ofJson_of_object htext (by decide)
  have hscalar : ∀ name ∈ givenNames quotedPrecision, name.type ≠ .blacklist := by decide
  obtain ⟨⟨o, log⟩, h⟩ := hok.2 fun name v hv hlist =>
    absurd hlist (hscalar name (mem_givenNames_iff.2 ⟨v, hv⟩))
  obtain ⟨hget, hwarned⟩ := hread o log h
  obtain ⟨log', h'⟩ := (hleft [("sourceUnit", .string "rem")] ("unitPrecision", .string "3") []
    .precision rfl hmalformed _ htext' o).1 ⟨log, h⟩
  exact ⟨o, log, log', h, h', hwarned, (hget _ _).2 ⟨_, hgiven, .text "rem"⟩⟩

end Options

end Viewport
