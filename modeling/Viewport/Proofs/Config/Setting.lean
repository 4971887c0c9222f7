import Mathlib.Data.List.Forall2
import Viewport.Config.Json
import Viewport.Proofs.Json.Take

/-!
# Options and the values they stand for

Each option has a type, and a value of that type stands for a setting. The settings are exactly
what the reader takes from values, and a value that it does not take is of another type.
-/

namespace Viewport

open Json

/-! ## Settings -/

inductive OptionType where
  | text
  | number
  | count
  | flag
  | blacklist
deriving DecidableEq, Repr

def OptionName.type : OptionName → OptionType
  | .sourceUnit | .viewportUnit | .fontViewportUnit | .enableComment | .disableComment => .text
  | .viewportWidth | .minPixelValue => .number
  | .precision => .count
  | .convertMediaQueries => .flag
  | .propertyBlacklist | .selectorBlacklist => .blacklist

/-- What an option is set to. -/
inductive Setting where
  | text (s : String)
  | number (x : Binary64)
  | count (n : UInt32)
  | flag (b : Bool)
  | blacklist (specs : List EntrySpec)
deriving DecidableEq, Repr

/-- What an option is set to, if it is set. -/
def Options.get (o : Options) : OptionName → Option Setting
  | .sourceUnit => o.sourceUnit.map .text
  | .viewportWidth => o.viewportWidth.map .number
  | .viewportUnit => o.viewportUnit.map .text
  | .precision => o.precision.map .count
  | .fontViewportUnit => o.fontViewportUnit.map .text
  | .propertyBlacklist => o.propertyBlacklist.map .blacklist
  | .selectorBlacklist => o.selectorBlacklist.map .blacklist
  | .minPixelValue => o.minPixelValue.map .number
  | .enableComment => o.enableComment.map .text
  | .disableComment => o.disableComment.map .text
  | .convertMediaQueries => o.convertMediaQueries.map .flag

/-- The nearest of the numbers that options hold. -/
def Json.Number.nearest : Number → Binary64
  | .integer i => .ofInt i
  | .float x => x

/-- An item of a blacklist, and the entry it stands for: a string, or an object with one pattern
that is a string. -/
inductive EntrySpec.Of : Value → EntrySpec → Prop
  | substring (s : String) : Of (.string s) (.substring s)
  | pattern {members : List (String × Value)} {s : String}
    (h : members.filter (·.1 = "pattern") = [("pattern", .string s)]) :
    Of (.object members) (.pattern s)

/-- A value of a type, and the setting it stands for. -/
inductive Setting.Of : OptionType → Value → Setting → Prop
  | text (s : String) : Of .text (.string s) (.text s)
  | number (n : Number) : Of .number (.number n) (.number n.nearest)
  | count (n : UInt32) : Of .count (.number (.integer n.toNat)) (.count n)
  | flag (b : Bool) : Of .flag (.bool b) (.flag b)
  | blacklist {items : List Value} {specs : List EntrySpec}
    (h : List.Forall₂ EntrySpec.Of items specs) : Of .blacklist (.list items) (.blacklist specs)

theorem Setting.Of.exists_specs {v : Value} {s : Setting} (h : Setting.Of .blacklist v s) :
    ∃ specs, s = .blacklist specs := by
  cases h with
  | blacklist => exact ⟨_, rfl⟩

/-- A value has a type if it stands for a setting of it. -/
def Json.Value.HasType (v : Value) (t : OptionType) : Prop := ∃ s, Setting.Of t v s

/-- A null is of no type. -/
theorem not_hasType_null {t : OptionType} : ¬ Value.null.HasType t := by
  rintro ⟨s, ⟨⟩⟩

/-- What is wrong with a scalar of another type. -/
def OptionType.problem : OptionType → Value → Error
  | .count, .number (.integer i) => .outOfRange (.integer i) "u32"
  | .text, v => .wrongType v.found "a string"
  | .number, v => .wrongType v.found "f64"
  | .count, v => .wrongType v.found "u32"
  | .flag, v => .wrongType v.found "a boolean"
  | .blacklist, v => .wrongType v.found "a sequence"

/-- An option accepts every value but a blacklist of the wrong shape. -/
def OptionName.Accepts (name : OptionName) (v : Value) : Prop :=
  name.type = .blacklist → v = .null ∨ v.HasType .blacklist

/-! ## Scalars -/

/-- The scalars that are taken as settings of a type, and what is said of other values. -/
structure Takes {α : Type} (take : Value → Result α) (wrap : α → Setting) (t : OptionType) :
    Prop where
  of_eq_ok : ∀ {v a}, take v = .ok a → Setting.Of t v (wrap a)
  eq_ok_of : ∀ {v s}, Setting.Of t v s → ∃ a, take v = .ok a ∧ wrap a = s
  of_eq_error : ∀ {v e}, take v = .error e → e = t.problem v

/-- A text is taken from a string, and from nothing else. -/
theorem takes_asString : Takes Value.asString .text .text where
  of_eq_ok {v a} h := by
    cases v with
    | string s =>
      obtain rfl := Except.ok.inj h
      exact .text s
    | _ => cases h
  eq_ok_of h := by
    cases h with
    | text s => exact ⟨s, rfl, rfl⟩
  of_eq_error {v e} h := by
    cases v with
    | string s => cases h
    | _ => exact (Except.error.inj h).symm

/-- A flag is taken from a truth value, and from nothing else. -/
theorem takes_asBool : Takes Value.asBool .flag .flag where
  of_eq_ok {v a} h := by
    cases v with
    | bool b =>
      obtain rfl := Except.ok.inj h
      exact .flag b
    | _ => cases h
  eq_ok_of h := by
    cases h with
    | flag b => exact ⟨b, rfl, rfl⟩
  of_eq_error {v e} h := by
    cases v with
    | bool b => cases h
    | _ => exact (Except.error.inj h).symm

theorem floatOf_number (n : Number) : floatOf (.number n) = .ok n.nearest := by cases n <;> rfl

/-- A number is taken from every number, whole or not. -/
theorem takes_floatOf : Takes floatOf .number .number where
  of_eq_ok {v a} h := by
    cases v with
    | number n =>
      obtain rfl := Except.ok.inj ((floatOf_number n).symm.trans h)
      exact .number n
    | _ => cases h
  eq_ok_of h := by
    cases h with
    | number n => exact ⟨n.nearest, floatOf_number n, rfl⟩
  of_eq_error {v e} h := by
    cases v with
    | number n => cases (floatOf_number n).symm.trans h
    | _ => exact (Except.error.inj h).symm

/-- Every count is read from the number that it is. -/
theorem countOf_toNat (n : UInt32) : countOf (.number (.integer n.toNat)) = .ok n := by
  have hn := n.toNat_lt_size
  rw [countOf, if_pos ⟨by omega, by omega⟩, Int.toNat_natCast, UInt32.ofNat_toNat]

/-- Whole numbers that are no counts are out of range. -/
theorem countOf_integer {i : Int} (h : ∀ n : UInt32, i ≠ n.toNat) :
    countOf (.number (.integer i)) = .error (.outOfRange (.integer i) "u32") := by
  refine if_neg fun ⟨hi, hlt⟩ => ?_
  obtain ⟨n, rfl⟩ := Int.eq_ofNat_of_zero_le hi
  refine h (.ofNat n) ?_
  rw [UInt32.toNat_ofNat_of_lt' (by omega)]

/-- A count is taken from whole numbers of 32 bits without a sign, and from nothing else. -/
theorem takes_countOf : Takes countOf .count .count where
  of_eq_ok {v a} h := by
    cases v with
    | number n =>
      cases n with
      | integer i =>
        by_cases hi : ∃ n : UInt32, i = n.toNat
        · obtain ⟨n, rfl⟩ := hi
          obtain rfl := Except.ok.inj ((countOf_toNat n).symm.trans h)
          exact .count n
        · rw [countOf_integer (not_exists.1 hi)] at h
          cases h
      | float x => cases h
    | _ => cases h
  eq_ok_of h := by
    cases h with
    | count n => exact ⟨n, countOf_toNat n, rfl⟩
  of_eq_error {v e} h := by
    cases v with
    | number n =>
      cases n with
      | integer i =>
        by_cases hi : ∃ n : UInt32, i = n.toNat
        · obtain ⟨n, rfl⟩ := hi
          cases (countOf_toNat n).symm.trans h
        · rw [countOf_integer (not_exists.1 hi)] at h
          exact (Except.error.inj h).symm
      | float x => exact (Except.error.inj h).symm
    | _ => exact (Except.error.inj h).symm

/-! ## Blacklists -/

theorem entryOf_eq_ok_iff {v : Value} {e : EntrySpec} : entryOf v = .ok e ↔ EntrySpec.Of v e := by
  cases v with
  | string s =>
    constructor
    · intro h
      obtain rfl := Except.ok.inj h
      exact .substring s
    · rintro ⟨⟩
      rfl
  | object members =>
    rw [entryOf]
    constructor
    · intro h
      split at h
      · rename_i key s hm
        obtain rfl := Except.ok.inj h
        have hkey : (key, Value.string s) ∈ members.filter (·.1 = "pattern") := by simp [hm]
        obtain rfl : key = "pattern" := of_decide_eq_true (List.mem_filter.1 hkey).2
        exact .pattern hm
      · cases h
    · rintro (_ | hm)
      rw [hm]
  | _ =>
    constructor
    · rintro ⟨⟩
    · rintro ⟨⟩

/-- Entries are read from the values of a list, each from its own. -/
theorem entriesOf_eq_ok_iff {room : Nat} {ds : List Draft} {vs : List Value}
    {specs : List EntrySpec} (h : Draft.values room ds = .ok vs) :
    entriesOf room ds = .ok specs ↔ List.Forall₂ EntrySpec.Of vs specs := by
  induction ds generalizing vs specs with
  | nil =>
    obtain rfl := Except.ok.inj h
    simp [entriesOf, eq_comm, pure, Except.pure]
  | cons d ds ih =>
    obtain ⟨w, ws, hw, hws, rfl⟩ := Draft.values_cons_eq_ok_iff.1 h
    rw [List.forall₂_cons_left_iff, entriesOf]
    simp only [bind_eq_ok_iff, hw, Except.ok.injEq, exists_eq_left', entryOf_eq_ok_iff, ih hws]
    constructor
    · rintro ⟨e, he, es, hes, h⟩
      exact ⟨e, es, he, hes, (Except.ok.inj h).symm⟩
    · rintro ⟨e, es, he, hes, rfl⟩
      exact ⟨e, he, es, hes, rfl⟩

/-- A blacklist is a null, which stands for none, or a list of entries. -/
theorem blacklistOf_eq_ok_iff {d : Draft} {v : Value} {b : Option (List EntrySpec)}
    (h : d.value innerRoom = .ok v) :
    blacklistOf d = .ok b ↔ v = .null ∧ b = none ∨
      ∃ specs, Setting.Of .blacklist v (.blacklist specs) ∧ b = some specs := by
  cases Draft.hasValue_of_value h with
  | null =>
    constructor
    · intro hb
      exact .inl ⟨rfl, (Except.ok.inj hb).symm⟩
    · rintro (⟨-, rfl⟩ | ⟨specs, hv, -⟩)
      · rfl
      · cases hv
  | list hvs =>
    rw [blacklistOf, bind_eq_ok_iff]
    constructor
    · rintro ⟨specs, hspecs, hb⟩
      exact .inr ⟨specs, .blacklist ((entriesOf_eq_ok_iff hvs).1 hspecs), (Except.ok.inj hb).symm⟩
    · rintro (⟨hv, -⟩ | ⟨specs, hv, rfl⟩)
      · cases hv
      · cases hv with
        | blacklist hspecs => exact ⟨specs, (entriesOf_eq_ok_iff hvs).2 hspecs, rfl⟩
  | _ =>
    refine iff_of_false Draft.refuse_ne_ok ?_
    rintro (⟨hv, -⟩ | ⟨specs, hv, -⟩) <;> cases hv

namespace Options

/-- Options are known by their settings. -/
theorem ext_get {o o' : Options} (h : ∀ name, o.get name = o'.get name) : o = o' := by
  have text {x y : Option String} (h : x.map Setting.text = y.map .text) : x = y :=
    Option.map_injective (fun _ _ => Setting.text.inj) h
  have number {x y : Option Binary64} (h : x.map Setting.number = y.map .number) : x = y :=
    Option.map_injective (fun _ _ => Setting.number.inj) h
  have blacklist {x y : Option (List EntrySpec)}
      (h : x.map Setting.blacklist = y.map .blacklist) : x = y :=
    Option.map_injective (fun _ _ => Setting.blacklist.inj) h
  obtain ⟨a, b, c, d, e, f, g, i, j, k, l⟩ := o
  obtain ⟨a', b', c', d', e', f', g', i', j', k', l'⟩ := o'
  obtain rfl : a = a' := text (h .sourceUnit)
  obtain rfl : b = b' := number (h .viewportWidth)
  obtain rfl : c = c' := text (h .viewportUnit)
  obtain rfl : d = d' := Option.map_injective (fun _ _ => Setting.count.inj) (h .precision)
  obtain rfl : e = e' := text (h .fontViewportUnit)
  obtain rfl : f = f' := blacklist (h .propertyBlacklist)
  obtain rfl : g = g' := blacklist (h .selectorBlacklist)
  obtain rfl : i = i' := number (h .minPixelValue)
  obtain rfl : j = j' := text (h .enableComment)
  obtain rfl : k = k' := text (h .disableComment)
  obtain rfl : l = l' := Option.map_injective (fun _ _ => Setting.flag.inj) (h .convertMediaQueries)
  rfl

end Options

end Viewport
