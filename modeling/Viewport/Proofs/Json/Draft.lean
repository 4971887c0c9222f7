import Viewport.Proofs.Json.Write
import Mathlib.Logic.Basic

/-!
# Reading what has been written

The tokens of a value put its draft in its place, and the value is taken from the draft wherever
there is room for the lists and objects that are open in it.
-/

namespace Viewport.Json

variable {α β : Type}

/-! ## Values in drafts -/

namespace Value

/-- Induction over the items of lists and the values of members. -/
@[elab_as_elim]
theorem inductionOn {motive : Value → Prop} (v : Value) (null : motive .null)
    (bool : ∀ b, motive (.bool b)) (number : ∀ n, motive (.number n))
    (string : ∀ s, motive (.string s))
    (list : ∀ items, (∀ v ∈ items, motive v) → motive (.list items))
    (object : ∀ members, (∀ m ∈ members, motive m.2) → motive (.object members)) : motive v :=
  match v with
  | .null => null
  | .bool b => bool b
  | .number n => number n
  | .string s => string s
  | .list items => list items fun v _ => inductionOn v null bool number string list object
  | .object members =>
    object members fun m _ => inductionOn m.2 null bool number string list object
termination_by sizeOf v
decreasing_by
  · rename_i h
    have := List.sizeOf_lt_of_mem h
    simp only [Value.list.sizeOf_spec]
    omega
  · rename_i h
    have := List.sizeOf_lt_of_mem h
    obtain ⟨k, v⟩ := m
    simp only [Value.object.sizeOf_spec, Prod.mk.sizeOf_spec] at *
    omega

mutual

/-- The whole draft of a value. -/
def draft : Value → Draft
  | .null => .null
  | .bool b => .bool b
  | .number n => .number (some n)
  | .string s => .string (.ok s)
  | .list items => .list (drafts items) none
  | .object members => .object (memberDrafts members) none

def drafts : List Value → List Draft
  | [] => []
  | v :: vs => v.draft :: drafts vs

def memberDrafts : List (String × Value) → List (Except Fault String × Draft)
  | [] => []
  | (k, v) :: ms => (.ok k, v.draft) :: memberDrafts ms

end

mutual

/-- How many lists and objects are open at once in a value, at most. -/
def depth : Value → Nat
  | .list items => itemDepth items + 1
  | .object members => memberDepth members + 1
  | _ => 0

def itemDepth : List Value → Nat
  | [] => 0
  | v :: vs => max v.depth (itemDepth vs)

def memberDepth : List (String × Value) → Nat
  | [] => 0
  | (_, v) :: ms => max v.depth (memberDepth ms)

end

/-- No item is deeper than the deepest of them. -/
theorem depth_le_itemDepth {v : Value} {vs : List Value} (h : v ∈ vs) : v.depth ≤ itemDepth vs := by
  induction vs with
  | nil => cases h
  | cons w ws ih =>
    rw [itemDepth]
    rcases List.mem_cons.1 h with rfl | h
    · exact Nat.le_max_left _ _
    · exact Nat.le_trans (ih h) (Nat.le_max_right _ _)

/-- No member is deeper than the deepest of them. -/
theorem depth_le_memberDepth {m : String × Value} {ms : List (String × Value)} (h : m ∈ ms) :
    m.2.depth ≤ memberDepth ms := by
  induction ms with
  | nil => cases h
  | cons m' ms ih =>
    rw [memberDepth]
    rcases List.mem_cons.1 h with rfl | h
    · exact Nat.le_max_left _ _
    · exact Nat.le_trans (ih h) (Nat.le_max_right _ _)

end Value

/-! ## From tokens to drafts -/

/-- A value may come next. -/
def Expecting.IsOpen (e : Expecting) : Prop := e = .value ∨ e = .firstItem ∨ e = .item

namespace Progress

/-- Where a value may stand, a token is taken as the start of one. -/
theorem step_of_isOpen {e : Expecting} (he : e.IsOpen) {t : Token} (ht : t ≠ .closeList)
    (frames : List Frame) : step (.within frames e) t = value frames t := by
  obtain rfl | rfl | rfl := he
  · rfl
  all_goals
    cases t with
    | closeList => contradiction
    | _ => rfl

/-- What the tokens of a value come to where a value may come next. -/
def Places (v : Value) : Prop :=
  ∀ (frames : List Frame) (e : Expecting), e.IsOpen →
    v.tokens.foldl step (.within frames e) = place v.draft frames

/-- The items of a list are placed in it, the last one first. -/
theorem foldl_step_itemTokens {items : List Value} (h : ∀ v ∈ items, Places v) (hi : items ≠ [])
    (ds : List Draft) (frames : List Frame) {e : Expecting} (he : e.IsOpen) :
    (Value.itemTokens items).foldl step (.within (.list ds :: frames) e) =
      .within (.list ((Value.drafts items).reverse ++ ds) :: frames) .next := by
  induction items generalizing ds e with
  | nil => contradiction
  | cons v vs ih =>
    have hv : v.tokens.foldl step (.within (.list ds :: frames) e) =
        .within (.list (v.draft :: ds) :: frames) .next := h v List.mem_cons_self _ e he
    -- a comma is written between two items alone, so the last item is a case of its own
    cases vs with
    | nil => exact hv
    | cons w ws =>
      have hvs := ih (fun v hv => h v (List.mem_cons_of_mem _ hv)) (List.cons_ne_nil w ws)
        (v.draft :: ds) (.inr (.inr rfl))
      rw [Value.itemTokens, List.foldl_append, hv, List.foldl_cons, Value.drafts,
        List.reverse_cons, List.append_assoc, List.singleton_append]
      · exact hvs
      · exact List.cons_ne_nil w ws

/-- A key and its value, where a key may come next. -/
theorem foldl_step_member {v : Value} (h : Places v) (k : String) (key : Except Fault String)
    (ms : List (Except Fault String × Draft)) (frames : List Frame) {e : Expecting}
    (he : e = .firstKey ∨ e = .key) :
    (.string (.ok k) :: .colon :: v.tokens).foldl step (.within (.object ms key :: frames) e) =
      .within (.object ((.ok k, v.draft) :: ms) (.ok k) :: frames) .next := by
  have hkey : step (.within (.object ms key :: frames) e) (.string (.ok k)) =
      .within (.object ms (.ok k) :: frames) .colon := by
    obtain rfl | rfl := he <;> rfl
  rw [List.foldl_cons, hkey, List.foldl_cons]
  exact h (.object ms (.ok k) :: frames) .value (.inl rfl)

theorem foldl_step_memberTokens {members : List (String × Value)}
    (h : ∀ m ∈ members, Places m.2) (hm : members ≠ []) (key : Except Fault String)
    (ms : List (Except Fault String × Draft)) (frames : List Frame) {e : Expecting}
    (he : e = .firstKey ∨ e = .key) :
    ∃ last, (Value.memberTokens members).foldl step (.within (.object ms key :: frames) e) =
      .within (.object ((Value.memberDrafts members).reverse ++ ms) last :: frames) .next := by
  induction members generalizing ms key e with
  | nil => contradiction
  | cons m rest ih =>
    obtain ⟨k, v⟩ := m
    have hkv := foldl_step_member (h (k, v) List.mem_cons_self) k key ms frames he
    cases rest with
    | nil => exact ⟨.ok k, hkv⟩
    | cons m' rest =>
      obtain ⟨last, hrest⟩ := ih (fun m hm => h m (List.mem_cons_of_mem _ hm))
        (List.cons_ne_nil m' rest) (.ok k) ((.ok k, v.draft) :: ms) (.inr rfl)
      refine ⟨last, ?_⟩
      rw [Value.memberTokens, List.foldl_append, hkv, List.foldl_cons, Value.memberDrafts,
        List.reverse_cons, List.append_assoc, List.singleton_append]
      · exact hrest
      · exact List.cons_ne_nil m' rest

/-- The tokens of a value put its draft in the place where they begin. -/
theorem places (v : Value) : Places v := by
  induction v using Value.inductionOn with
  | null | bool b | number n | string s =>
    intro frames e he
    exact step_of_isOpen he (by simp) frames
  | list items ih =>
    intro frames e he
    rw [Value.tokens, List.cons_append, List.foldl_cons, step_of_isOpen he (by simp),
      List.foldl_append, Value.draft]
    by_cases hi : items = []
    · subst hi
      rfl
    · have hitems := foldl_step_itemTokens ih hi [] frames (e := .firstItem) (.inr (.inl rfl))
      rw [List.append_nil] at hitems
      rw [value, hitems]
      exact congrArg (fun ds => place (.list ds none) frames) (List.reverse_reverse _)
  | object members ih =>
    intro frames e he
    rw [Value.tokens, List.cons_append, List.foldl_cons, step_of_isOpen he (by simp),
      List.foldl_append, Value.draft]
    by_cases hm : members = []
    · subst hm
      rfl
    · obtain ⟨last, hmembers⟩ := foldl_step_memberTokens ih hm (.ok "") [] frames (.inl rfl)
      rw [List.append_nil] at hmembers
      rw [value, hmembers]
      exact congrArg (fun ds => place (.object ds none) frames) (List.reverse_reverse _)

end Progress

/-- A text that is cut into the tokens of a value holds it whole, and nothing else. -/
theorem Reading.of_eq {v : Value} {text : List Char} (h : tokens text = v.tokens) :
    Reading.of text = ⟨v.draft, false⟩ := by
  have hplace : v.tokens.foldl Progress.step (.within [] .value) = .done v.draft :=
    Progress.places v [] .value (.inl rfl)
  rw [Reading.of, h, hplace]
  rfl

/-! ## From drafts to values -/

/-- A result for which so many lists and objects have to be opened, where there is room for so
many. -/
def fit (room depth : Nat) (a : α) : Result α :=
  if depth ≤ room then .ok a else .error (.fault .tooDeep)

section Fit

variable (room d e : Nat) (a : α)

@[simp] theorem fit_zero : fit room 0 a = .ok a := if_pos (Nat.zero_le room)

/-- Of two results one after the other the deeper one decides. -/
@[simp] theorem fit_bind_fit (f : α → β) :
    (fit room d a >>= fun a => fit room e (f a)) = fit room (max d e) (f a) := by
  unfold fit
  by_cases hd : d ≤ room
  · rw [if_pos hd]
    exact if_congr (by omega) rfl rfl
  · rw [if_neg hd, if_neg (by omega)]
    rfl

theorem fit_bind_eq {f : α → Result β} {b : β} (h : f a = .ok b) :
    (fit room d a >>= f) = fit room d b := by
  unfold fit
  by_cases hd : d ≤ room
  · rw [if_pos hd, if_pos hd]
    exact h
  · rw [if_neg hd, if_neg hd]
    rfl

@[simp] theorem fit_bind_ok (f : α → β) :
    (fit room d a >>= fun a => .ok (f a)) = fit room d (f a) := fit_bind_eq room d a rfl

/-- Going into a list or an object takes one level of the room. -/
@[simp] theorem enter_fit : (enter room fun room => fit room d a) = fit room (d + 1) a := by
  cases room with
  | zero => exact (if_neg (Nat.not_succ_le_zero d)).symm
  | succ room => exact if_congr Nat.succ_le_succ_iff.symm rfl rfl

end Fit

namespace Value

variable {room : Nat}

/-- The items of a list have values if there is room for the deepest of them. -/
theorem values_drafts {items : List Value}
    (h : ∀ v ∈ items, v.draft.value room = fit room v.depth v) :
    Draft.values room (drafts items) = fit room (itemDepth items) items := by
  induction items with
  | nil => exact (fit_zero room []).symm
  | cons v vs ih =>
    have hv := h v List.mem_cons_self
    have hvs := ih fun v hv => h v (List.mem_cons_of_mem _ hv)
    rw [drafts, Draft.values, hv, hvs, itemDepth]
    simp only [fit_bind_ok, fit_bind_fit]

/-- The members of an object have values if there is room for the deepest of them. -/
theorem memberValues_memberDrafts {members : List (String × Value)}
    (h : ∀ m ∈ members, m.2.draft.value room = fit room m.2.depth m.2) :
    Draft.memberValues room (memberDrafts members) = fit room (memberDepth members) members := by
  induction members with
  | nil => exact (fit_zero room []).symm
  | cons m ms ih =>
    obtain ⟨k, v⟩ := m
    have hv : v.draft.value room = fit room v.depth v := h (k, v) List.mem_cons_self
    have hms := ih fun m hm => h m (List.mem_cons_of_mem _ hm)
    have hk : wholeString (.ok k) = fit room 0 k := (fit_zero room k).symm
    rw [memberDrafts, Draft.memberValues, hk, hv, hms, memberDepth]
    simp only [fit_bind_ok, fit_bind_fit, Nat.zero_max]

/-- A value is taken from its draft where there is room for it, and is too deep elsewhere. -/
theorem value_draft (v : Value) (room : Nat) : v.draft.value room = fit room v.depth v := by
  induction v using inductionOn generalizing room with
  | null | bool b | number n | string s => exact (fit_zero room _).symm
  | list items ih =>
    have hitems (room : Nat) := values_drafts fun v hv => ih v hv room
    simp only [draft, Draft.value, hitems, failAt, fit_bind_ok, enter_fit, depth]
  | object members ih =>
    have hmembers (room : Nat) := memberValues_memberDrafts fun m hm => ih m hm room
    simp only [draft, Draft.value, hmembers, failAt, fit_bind_ok, enter_fit, depth]

end Value

end Viewport.Json
