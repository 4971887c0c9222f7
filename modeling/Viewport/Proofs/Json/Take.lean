import Viewport.Proofs.Json.Draft

/-!
# What is taken from a draft

A draft that has a value is whole, and its value is of the same kind. So a text that holds an
object is a draft of its members, each with its value.
-/

namespace Viewport

/-! ## Results one after the other -/

section Except

variable {ε α β : Type} {x : Except ε α} {f : α → Except ε β}

/-- A step after another succeeds if both do. -/
theorem bind_eq_ok_iff {b : β} : (x >>= f) = .ok b ↔ ∃ a, x = .ok a ∧ f a = .ok b := by
  cases x <;> simp [bind, Except.bind]

theorem map_eq_ok_iff {g : α → β} {b : β} : x.map g = .ok b ↔ ∃ a, x = .ok a ∧ g a = b := by
  cases x <;> simp [Except.map]

theorem toOption_eq_some_iff {a : α} : x.toOption = some a ↔ x = .ok a := by
  cases x <;> simp [Except.toOption]

/-- A step after another fails if the first one does, or the second one after the first. -/
theorem bind_eq_error_iff {e : ε} :
    (x >>= f) = .error e ↔ x = .error e ∨ ∃ a, x = .ok a ∧ f a = .error e := by
  cases x <;> simp [bind, Except.bind]

end Except

/-! ## Texts that hold a value -/

namespace Json

/-- The value that a text holds, if it holds one and nothing else. -/
def Value.ofJson (text : String) : Result Value :=
  (Reading.of text.toList).take (Draft.value (depthLimit - 1))

namespace Draft

/-- A draft and its value, by the kind of the value. -/
inductive HasValue : Nat → Draft → Value → Prop
  | null {room : Nat} : HasValue room .null .null
  | bool {room : Nat} (b : Bool) : HasValue room (.bool b) (.bool b)
  | number {room : Nat} (n : Number) : HasValue room (.number (some n)) (.number n)
  | string {room : Nat} (s : String) : HasValue room (.string (.ok s)) (.string s)
  | list {room : Nat} {items : List Draft} {vs : List Value} (h : values room items = .ok vs) :
    HasValue (room + 1) (.list items none) (.list vs)
  | object {room : Nat} {ms : List (Except Fault String × Draft)} {vs : List (String × Value)}
    (h : memberValues room ms = .ok vs) : HasValue (room + 1) (.object ms none) (.object vs)

variable {room : Nat}

/-- Nothing is taken from what has been broken off. -/
theorem failAt_eq_ok_iff {α : Type} {b : Option Break} {x a : α} :
    failAt b x = .ok a ↔ b = none ∧ x = a := by
  cases b <;> simp [failAt]

/-- A list or an object can be gone into as long as there is room. -/
theorem enter_eq_ok_iff {α : Type} {inside : Nat → Result α} {a : α} :
    enter room inside = .ok a ↔ ∃ n, room = n + 1 ∧ inside n = .ok a := by
  cases room <;> simp [enter]

/-- A draft of the wrong kind gives nothing. -/
theorem refuse_ne_ok {α : Type} {d : Draft} {wanted : String} {a : α} :
    d.refuse wanted ≠ .ok a := by
  rw [refuse]
  cases d.found with
  | ok f => nofun
  | error e => nofun

theorem wholeString_eq_ok_iff {s : Except Fault String} {t : String} :
    wholeString s = .ok t ↔ s = .ok t := by
  cases s <;> simp [wholeString]

/-- The values of a list are those of its drafts, one by one. -/
theorem values_cons_eq_ok_iff {d : Draft} {ds : List Draft} {vs : List Value} :
    values room (d :: ds) = .ok vs ↔
      ∃ w ws, d.value room = .ok w ∧ values room ds = .ok ws ∧ vs = w :: ws := by
  simp only [values, bind_eq_ok_iff, Except.ok.injEq]
  constructor
  · rintro ⟨w, hw, ws, hws, h⟩
    exact ⟨w, ws, hw, hws, h.symm⟩
  · rintro ⟨w, ws, hw, hws, h⟩
    exact ⟨w, hw, ws, hws, h.symm⟩

/-- The members of an object are read one by one, the key before the value. -/
theorem memberValues_cons_eq_ok_iff {key : Except Fault String} {d : Draft}
    {ms : List (Except Fault String × Draft)} {vs : List (String × Value)} :
    memberValues room ((key, d) :: ms) = .ok vs ↔
      ∃ k w ws, key = .ok k ∧ d.value room = .ok w ∧ memberValues room ms = .ok ws ∧
        vs = (k, w) :: ws := by
  simp only [memberValues, bind_eq_ok_iff, Except.ok.injEq, wholeString_eq_ok_iff]
  constructor
  · rintro ⟨k, hk, w, hw, ws, hws, h⟩
    exact ⟨k, w, ws, hk, hw, hws, h.symm⟩
  · rintro ⟨k, w, ws, hk, hw, hws, h⟩
    exact ⟨k, hk, w, hw, ws, hws, h.symm⟩

/-- A draft that is read as a value has one. -/
theorem hasValue_of_value {d : Draft} {v : Value} (h : d.value room = .ok v) :
    HasValue room d v := by
  cases d with
  | null =>
    obtain rfl := Except.ok.inj h
    exact .null
  | bool b =>
    obtain rfl := Except.ok.inj h
    exact .bool b
  | number n =>
    cases n with
    | none => cases h
    | some n =>
      obtain rfl := Except.ok.inj h
      exact .number n
  | string s =>
    cases s with
    | error f => cases h
    | ok s =>
      obtain rfl := Except.ok.inj h
      exact .string s
  | list items b =>
    rw [value, enter_eq_ok_iff] at h
    simp only [bind_eq_ok_iff, failAt_eq_ok_iff] at h
    obtain ⟨n, rfl, vs, hvs, rfl, rfl⟩ := h
    exact .list hvs
  | object ms b =>
    rw [value, enter_eq_ok_iff] at h
    simp only [bind_eq_ok_iff, failAt_eq_ok_iff] at h
    obtain ⟨n, rfl, vs, hvs, rfl, rfl⟩ := h
    exact .object hvs
  | broken b => cases h

mutual

/-- A draft that has a value breaks off nowhere, so it can be passed over. -/
theorem skip_of_value {d : Draft} {room : Nat} {v : Value} (h : d.value room = .ok v) :
    d.skip = .ok () := by
  cases hasValue_of_value h with
  | null | bool | number | string => rfl
  | list hvs =>
    rw [skip, skipAll_of_values hvs]
    rfl
  | object hvs =>
    rw [skip, skipMembers_of_memberValues hvs]
    rfl

/-- What can be read can be passed over. -/
theorem skipAll_of_values {ds : List Draft} {room : Nat} {vs : List Value}
    (h : values room ds = .ok vs) : skipAll ds = .ok () := by
  cases ds with
  | nil => rfl
  | cons d ds =>
    obtain ⟨w, ws, hw, hws, -⟩ := values_cons_eq_ok_iff.1 h
    rw [skipAll, skip_of_value hw]
    exact skipAll_of_values hws

theorem skipMembers_of_memberValues {ms : List (Except Fault String × Draft)} {room : Nat}
    {vs : List (String × Value)} (h : memberValues room ms = .ok vs) : skipMembers ms = .ok () := by
  cases ms with
  | nil => rfl
  | cons m ms =>
    obtain ⟨key, d⟩ := m
    obtain ⟨k, w, ws, -, hw, hws, -⟩ := memberValues_cons_eq_ok_iff.1 h
    rw [skipMembers, skip_of_value hw]
    exact skipMembers_of_memberValues hws

end

mutual

/-- A value opens no more than there was room for where it was taken. -/
theorem depth_le_of_value {d : Draft} {room : Nat} {v : Value} (h : d.value room = .ok v) :
    v.depth ≤ room := by
  cases hasValue_of_value h with
  | null | bool | number | string => exact Nat.zero_le _
  | list hvs => exact Nat.succ_le_succ (itemDepth_le_of_values hvs)
  | object hvs => exact Nat.succ_le_succ (memberDepth_le_of_memberValues hvs)

/-- Items that have been read are no deeper than there was room. -/
theorem itemDepth_le_of_values {ds : List Draft} {room : Nat} {vs : List Value}
    (h : values room ds = .ok vs) : Value.itemDepth vs ≤ room := by
  cases ds with
  | nil =>
    obtain rfl := Except.ok.inj h
    exact Nat.zero_le _
  | cons d ds =>
    obtain ⟨w, ws, hw, hws, rfl⟩ := values_cons_eq_ok_iff.1 h
    exact Nat.max_le.2 ⟨depth_le_of_value hw, itemDepth_le_of_values hws⟩

/-- Members that have been read are no deeper than there was room. -/
theorem memberDepth_le_of_memberValues {ms : List (Except Fault String × Draft)} {room : Nat}
    {vs : List (String × Value)} (h : memberValues room ms = .ok vs) :
    Value.memberDepth vs ≤ room := by
  cases ms with
  | nil =>
    obtain rfl := Except.ok.inj h
    exact Nat.zero_le _
  | cons m ms =>
    obtain ⟨key, d⟩ := m
    obtain ⟨k, w, ws, -, hw, hws, rfl⟩ := memberValues_cons_eq_ok_iff.1 h
    exact Nat.max_le.2 ⟨depth_le_of_value hw, memberDepth_le_of_memberValues hws⟩

end

end Draft

/-- A list ends where nothing is left of it and it has not been broken off. -/
theorem endOfList_eq_ok_iff {rest : List Draft} {b : Option Break} {u : Unit} :
    endOfList rest b = .ok u ↔ rest = [] ∧ b = none := by
  cases rest with
  | cons d rest => exact iff_of_false nofun nofun
  | nil =>
    cases b with
    | none => exact iff_of_true rfl ⟨rfl, rfl⟩
    | some b =>
      rw [endOfList]
      split <;> exact iff_of_false nofun nofun

/-- A text is taken if its draft is and nothing stands after it. -/
theorem Reading.take_eq_ok_iff {α : Type} {r : Reading} {take : Draft → Result α} {a : α} :
    r.take take = .ok a ↔ take r.draft = .ok a ∧ r.trailing = false := by
  obtain ⟨d, trailing⟩ := r
  rw [Reading.take]
  cases take d <;> cases trailing <;> simp [bind, Except.bind]

/-- The members of an object whose keys are whole. -/
def wholeKeys (ms : List (String × Draft)) : List (Except Fault String × Draft) :=
  ms.map fun m => (.ok m.1, m.2)

theorem wholeKeys_cons (m : String × Draft) (ms : List (String × Draft)) :
    wholeKeys (m :: ms) = (.ok m.1, m.2) :: wholeKeys ms := rfl

/-- The members whose keys are known, each under what its key stands for. -/
def given {α β : Type} (find : String → Option α) (ms : List (String × β)) : List (α × β) :=
  ms.filterMap fun m => (find m.1).map (·, m.2)

section Given

variable {α β : Type} {find : String → Option α} {key : String} {a : α} {b : β}
  {ms : List (String × β)}

theorem given_cons_of_unknown (hkey : find key = none) :
    given find ((key, b) :: ms) = given find ms := by
  simp only [given, List.filterMap_cons, hkey, Option.map_none]

/-- A member under a known key gives its draft. -/
theorem given_cons_of_known (hkey : find key = some a) :
    given find ((key, b) :: ms) = (a, b) :: given find ms := by
  simp only [given, List.filterMap_cons, hkey, Option.map_some]

end Given

/-- A text that holds an object has a whole object for a draft, and nothing follows it. -/
theorem Value.exists_draft_of_ofJson {text : String} {members : List (String × Value)}
    (h : Value.ofJson text = .ok (.object members)) :
    ∃ ms, Reading.of text.toList = ⟨.object ms none, false⟩ ∧
      Draft.memberValues innerRoom ms = .ok members := by
  rw [Value.ofJson, Reading.take, bind_eq_ok_iff] at h
  generalize Reading.of text.toList = r at h
  obtain ⟨d, trailing⟩ := r
  obtain ⟨v, hv, h⟩ := h
  cases trailing with
  | true => cases h
  | false =>
    obtain rfl := Except.ok.inj h
    cases Draft.hasValue_of_value hv with
    | object hms => exact ⟨_, rfl, hms⟩

/-- A value without numbers is read from its text if there is room for it. -/
theorem Value.ofJson_text {v : Value} (h : v.Numberless) (hdepth : v.depth < depthLimit) :
    Value.ofJson v.text = .ok v := by
  rw [Value.ofJson, Reading.of_eq (Value.tokens_text h), Reading.take, Value.value_draft, fit,
    if_pos (Nat.le_sub_one_of_lt hdepth)]
  rfl

end Json

end Viewport
