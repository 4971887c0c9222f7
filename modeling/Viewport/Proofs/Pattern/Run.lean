import Mathlib.Tactic.Tauto
import Viewport.Pattern.Run

/-!
# Where a pattern matches

What a pattern matches is said by its parts, without a run: a stretch of text between the character
before it and the text after it. A run that enters the pattern at every place leaves it somewhere
exactly if the pattern matches some stretch of the text. The proof follows the run over one
character: what is inside after it has been inside before, or has entered at the place in between.
-/

namespace Viewport.Pattern

/-- The last character of a text, or the one before it if it is empty. -/
def lastOf (before : Option Char) (text : List Char) : Option Char :=
  text.foldl (fun _ c => some c) before

theorem lastOf_nil (before : Option Char) : lastOf before [] = before := rfl

theorem lastOf_cons (before : Option Char) (c : Char) (t : List Char) :
    lastOf before (c :: t) = lastOf (some c) t := rfl

theorem lastOf_eq (before : Option Char) (text : List Char) :
    lastOf before text = text.getLast?.or before := by
  induction text generalizing before with
  | nil => rfl
  | cons c text ih =>
    rw [lastOf_cons, ih, List.getLast?_cons]
    cases text.getLast? <;> rfl

/-- The text is two texts in a row that have a property together. -/
def Splits (P : List Char → List Char → Prop) (text : List Char) : Prop :=
  ∃ t u, text = t ++ u ∧ P t u

section Splits

variable {P Q : List Char → List Char → Prop} {p : Prop} {c : Char} {text : List Char}

theorem splits_nil_iff : Splits P [] ↔ P [] [] := by
  constructor
  · rintro ⟨t, u, h, hp⟩
    obtain ⟨rfl, rfl⟩ := List.append_eq_nil_iff.1 h.symm
    exact hp
  · exact fun hp => ⟨[], [], rfl, hp⟩

/-- A text that starts with a character is split before it or after it. -/
theorem splits_cons_iff :
    Splits P (c :: text) ↔ P [] (c :: text) ∨ Splits (fun t u => P (c :: t) u) text := by
  constructor
  · rintro ⟨t, u, h, hp⟩
    cases t with
    | nil =>
      obtain rfl : c :: text = u := h
      exact .inl hp
    | cons d t =>
      obtain ⟨rfl, rfl⟩ := List.cons.inj h
      exact .inr ⟨t, u, rfl, hp⟩
  · rintro (hp | ⟨t, u, rfl, hp⟩)
    · exact ⟨[], c :: text, rfl, hp⟩
    · exact ⟨c :: t, u, rfl, hp⟩

theorem splits_or_iff :
    Splits (fun t u => P t u ∨ Q t u) text ↔ Splits P text ∨ Splits Q text := by
  simp only [Splits, and_or_left, exists_or]

theorem splits_and_iff : Splits (fun t u => p ∧ P t u) text ↔ p ∧ Splits P text := by
  simp only [Splits, and_left_comm (b := p), exists_and_left]

end Splits

/-- A row of matches, each after the one before it, or none. -/
inductive Repeats (P : Option Char → List Char → List Char → Prop) :
    Option Char → List Char → List Char → Prop
  | none (before : Option Char) (rest : List Char) : Repeats P before [] rest
  | more {before : Option Char} {t u rest : List Char} (h : P before t (u ++ rest))
    (hmore : Repeats P (lastOf before t) u rest) : Repeats P before (t ++ u) rest

namespace Expr

/-- The pattern matches a text that stands after a character and before a rest. -/
def Matches : Expr → Option Char → List Char → List Char → Prop
  | empty, _, text, _ => text = []
  | set s, _, text, _ => ∃ c, s.contains c.toNat = true ∧ text = [c]
  | look l, before, text, rest => l.holds ⟨before, rest.head?⟩ = true ∧ text = []
  | seq a b, before, text, rest =>
    Splits (fun t u => a.Matches before t (u ++ rest) ∧ b.Matches (lastOf before t) u rest) text
  | either a b, before, text, rest => a.Matches before text rest ∨ b.Matches before text rest
  | star e, before, text, rest => Repeats e.Matches before text rest

end Expr

section Expr

variable {P : Option Char → List Char → List Char → Prop} {before : Option Char} {c : Char}
  {text rest : List Char} {a b e : Expr}

/-- A row of matches that take something starts with one that takes something. -/
theorem repeats_cons_iff :
    Repeats P before (c :: text) rest ↔
      Splits (fun t u => P before (c :: t) (u ++ rest) ∧ Repeats P (lastOf (some c) t) u rest)
        text := by
  constructor
  · generalize hrow : c :: text = row
    intro h
    induction h with
    | none => cases hrow
    | @more before t u rest h hmore ih =>
      cases t with
      | nil => exact ih hrow
      | cons d t =>
        obtain ⟨rfl, rfl⟩ := List.cons.inj hrow
        exact ⟨t, u, rfl, h, hmore⟩
  · rintro ⟨t, u, rfl, h, hmore⟩
    exact .more (t := c :: t) h hmore

theorem matches_set_cons_iff {s : CharSet} :
    (Expr.set s).Matches before (c :: text) rest ↔ s.contains c.toNat = true ∧ text = [] := by
  rw [Expr.Matches]
  constructor
  · rintro ⟨d, hd, h⟩
    obtain ⟨rfl, rfl⟩ := List.cons.inj h
    exact ⟨hd, rfl⟩
  · rintro ⟨hc, rfl⟩
    exact ⟨c, hc, rfl⟩

/-- A pattern passes at a place if it matches the empty text there. -/
theorem passes_iff (rest : List Char) :
    e.passes ⟨before, rest.head?⟩ = true ↔ e.Matches before [] rest := by
  induction e with
  | empty => simp [Expr.passes, Expr.Matches]
  | set s => simp [Expr.passes, Expr.Matches]
  | look l => simp [Expr.passes, Expr.Matches]
  | seq a b iha ihb =>
    rw [Expr.passes, Bool.and_eq_true, iha, ihb, Expr.Matches, splits_nil_iff]
    rfl
  | either a b iha ihb => rw [Expr.passes, Bool.or_eq_true, iha, ihb, Expr.Matches]
  | star e => exact iff_of_true rfl (.none before rest)

end Expr

namespace Run

/-- The pattern that a run goes through. -/
def expr : Run → Expr
  | idle e => e
  | past s => .set s
  | seq a b => .seq a.expr b.expr
  | either a b => .either a.expr b.expr
  | star r => .star r.expr

/-- A match inside takes a text that stands after a character and before a rest, and leaves. -/
def Pending : Run → Option Char → List Char → List Char → Prop
  | idle _, _, _, _ => False
  | past _, _, text, _ => text = []
  | seq a b, before, text, rest =>
    Splits (fun t u => a.Pending before t (u ++ rest) ∧ b.expr.Matches (lastOf before t) u rest)
      text ∨ b.Pending before text rest
  | either a b, before, text, rest => a.Pending before text rest ∨ b.Pending before text rest
  | star r, before, text, rest =>
    Splits (fun t u => r.Pending before t (u ++ rest) ∧
      Repeats r.expr.Matches (lastOf before t) u rest) text

variable {before : Option Char} {c : Char} {text rest : List Char} {a b r : Run} {e : Expr}
  {entry : Bool}

section Join

/-- Joining two parts of a run does not change the pattern that it goes through. -/
@[simp] theorem expr_joinSeq : (joinSeq a b).expr = .seq a.expr b.expr := by
  unfold joinSeq
  split <;> rfl

@[simp] theorem expr_joinEither : (joinEither a b).expr = .either a.expr b.expr := by
  unfold joinEither
  split <;> rfl

@[simp] theorem expr_joinStar : (joinStar r).expr = .star r.expr := by
  unfold joinStar
  split <;> rfl

/-- Joining two parts of a run does not change what is inside. -/
theorem pending_joinSeq :
    (joinSeq a b).Pending before text rest ↔ (seq a b).Pending before text rest := by
  unfold joinSeq
  split
  · simp [Pending, Splits]
  · rfl

theorem pending_joinEither :
    (joinEither a b).Pending before text rest ↔ (either a b).Pending before text rest := by
  unfold joinEither
  split
  · simp [Pending]
  · rfl

theorem pending_joinStar :
    (joinStar r).Pending before text rest ↔ (star r).Pending before text rest := by
  unfold joinStar
  split
  · simp [Pending, Splits]
  · rfl

end Join

section Step

@[simp] theorem expr_enter (p : Place) (e : Expr) : (enter p e).expr = e := by
  induction e with
  | empty | look l => rfl
  | set s =>
    rw [enter]
    split <;> rfl
  | seq a b iha ihb =>
    rw [enter, expr_joinSeq, iha]
    split
    · rw [ihb]
    · rfl
  | either a b iha ihb => rw [enter, expr_joinEither, iha, ihb]
  | star e ih => rw [enter, expr_joinStar, ih]

/-- A run goes through the same pattern all the time. -/
@[simp] theorem expr_take (p : Place) (entry : Bool) (r : Run) :
    (r.take p entry).expr = r.expr := by
  induction r generalizing entry with
  | idle e =>
    rw [take]
    split
    · exact expr_enter p e
    · rfl
  | past s =>
    rw [take]
    split <;> rfl
  | seq a b iha ihb => rw [take, expr_joinSeq, iha, ihb, expr]
  | either a b iha ihb => rw [take, expr_joinEither, iha, ihb, expr]
  | star r ih => rw [take, expr_joinStar, ih, expr]

/-- What is inside after a match has entered and taken a character is the rest of the match. -/
theorem pending_enter_iff :
    (enter ⟨before, some c⟩ e).Pending (some c) text rest ↔ e.Matches before (c :: text) rest := by
  induction e generalizing text rest with
  | empty | look l => simp [enter, Pending, Expr.Matches]
  | set s =>
    rw [enter, matches_set_cons_iff]
    by_cases hc : s.contains c.toNat = true <;> simp [Place.isBefore, hc, Pending]
  | seq a b iha ihb =>
    have hpasses : a.passes ⟨before, some c⟩ = true ↔ a.Matches before [] (c :: text ++ rest) :=
      passes_iff (c :: text ++ rest)
    -- the second pattern is entered only where the first one passes
    have hb : (if a.passes ⟨before, some c⟩ then enter ⟨before, some c⟩ b else idle b).Pending
        (some c) text rest ↔
          a.Matches before [] (c :: text ++ rest) ∧ b.Matches before (c :: text) rest := by
      rw [← hpasses, ← ihb]
      split <;> simp_all [Pending]
    have hexpr : (if a.passes ⟨before, some c⟩ then enter ⟨before, some c⟩ b else idle b).expr =
        b := by
      split
      · exact expr_enter _ b
      · rfl
    rw [enter, pending_joinSeq, Pending, hb, hexpr, Expr.Matches, splits_cons_iff]
    simp only [iha]
    exact or_comm
  | either a b iha ihb => rw [enter, pending_joinEither, Pending, iha, ihb, Expr.Matches]
  | star e ih =>
    rw [enter, pending_joinStar, Pending, expr_enter, Expr.Matches, repeats_cons_iff]
    simp only [ih]

/-- What leaves at a place has entered there or has been inside. -/
theorem leaves_iff (rest : List Char) :
    r.leaves ⟨before, rest.head?⟩ entry = true ↔
      entry = true ∧ r.expr.Matches before [] rest ∨ r.Pending before [] rest := by
  induction r generalizing entry with
  | idle e => simp [leaves, Pending, expr, passes_iff]
  | past s => simp [leaves, Pending]
  | seq a b iha ihb =>
    rw [leaves, ihb, iha, Pending, expr, Expr.Matches, splits_nil_iff, splits_nil_iff,
      or_and_right, and_assoc, or_assoc]
    rfl
  | either a b iha ihb =>
    rw [leaves, Bool.or_eq_true, iha, ihb, expr, Expr.Matches, Pending]
    tauto
  | star r ih =>
    have hnil : Repeats r.expr.Matches before [] rest := .none before rest
    rw [leaves, Bool.or_eq_true, ih, Pending, splits_nil_iff, expr, Expr.Matches]
    simp [hnil, lastOf]

/-- Where one enters, what leaves is an empty match or has been inside. -/
theorem leaves_true_iff (rest : List Char) :
    r.leaves ⟨before, rest.head?⟩ true = true ↔
      r.expr.Matches before [] rest ∨ r.Pending before [] rest := by
  rw [leaves_iff, and_iff_right rfl]

/-- Where none enters, only what has been inside leaves. -/
theorem leaves_false_iff (rest : List Char) :
    r.leaves ⟨before, rest.head?⟩ false = true ↔ r.Pending before [] rest := by
  rw [leaves_iff, or_iff_right fun h => Bool.false_ne_true h.1]

/-- What is inside after the next character has been inside before it, or has entered. -/
theorem pending_take_iff :
    (r.take ⟨before, some c⟩ entry).Pending (some c) text rest ↔
      entry = true ∧ r.expr.Matches before (c :: text) rest ∨
        r.Pending before (c :: text) rest := by
  induction r generalizing entry text rest with
  | idle e =>
    rw [take, expr]
    split <;> simp_all [Pending, pending_enter_iff]
  | past s =>
    rw [take, expr, matches_set_cons_iff]
    by_cases hc : s.contains c.toNat = true <;> cases entry <;>
      simp [Place.isBefore, hc, Pending]
  | seq a b iha ihb =>
    have hleaves : a.leaves ⟨before, some c⟩ entry = true ↔
        entry = true ∧ a.expr.Matches before [] (c :: text ++ rest) ∨
          a.Pending before [] (c :: text ++ rest) := leaves_iff (c :: text ++ rest)
    rw [take, pending_joinSeq, Pending, expr_take, ihb, hleaves, expr, Expr.Matches, Pending,
      splits_cons_iff, splits_cons_iff]
    simp only [iha, or_and_right, and_assoc, splits_or_iff, splits_and_iff, lastOf_cons, lastOf_nil]
    tauto
  | either a b iha ihb =>
    rw [take, pending_joinEither, Pending, iha, ihb, expr, Expr.Matches, Pending]
    tauto
  | star r ih =>
    have hleaves : r.leaves ⟨before, some c⟩ false = true ↔
        r.Pending before [] (c :: text ++ rest) :=
      leaves_false_iff (c :: text ++ rest)
    rw [take, pending_joinStar, Pending, expr_take, expr, Expr.Matches, Pending,
      splits_cons_iff, lastOf_nil, repeats_cons_iff]
    simp only [ih, Bool.or_eq_true, hleaves, or_and_right, and_assoc, splits_or_iff, splits_and_iff,
      lastOf_cons]
    tauto

/-- A match leaves somewhere in a text if one is inside, or if the pattern matches some stretch. -/
theorem finds_iff :
    r.finds before text = true ↔ Splits (r.Pending before) text ∨
      Splits (fun s v => Splits (r.expr.Matches (lastOf before s)) v) text := by
  induction text generalizing r before with
  | nil =>
    rw [finds, splits_nil_iff, splits_nil_iff, splits_nil_iff, lastOf_nil]
    exact (leaves_true_iff []).trans or_comm
  | cons c text ih =>
    have hleaves : r.leaves ⟨before, some c⟩ true = true ↔
        r.expr.Matches before [] (c :: text) ∨ r.Pending before [] (c :: text) :=
      leaves_true_iff (c :: text)
    have htake : Splits ((r.take ⟨before, some c⟩ true).Pending (some c)) text ↔
        Splits (fun t u => r.expr.Matches before (c :: t) u) text ∨
          Splits (fun t u => r.Pending before (c :: t) u) text := by
      rw [← splits_or_iff]
      refine exists₂_congr fun t u => and_congr_right fun _ => ?_
      rw [pending_take_iff, and_iff_right rfl]
    rw [finds]
    simp only [Bool.or_eq_true, ih, hleaves, htake, expr_take, splits_cons_iff, lastOf_nil,
      lastOf_cons]
    tauto

end Step

end Run

/-- The run that enters a pattern at every place finds it exactly if it matches some stretch of the
text. -/
theorem Expr.occursIn_iff {e : Expr} {text : List Char} :
    e.occursIn text = true ↔
      ∃ s t u, text = s ++ (t ++ u) ∧ e.Matches s.getLast? t u := by
  have hidle : ¬ Splits ((Run.idle e).Pending none) text := by
    rintro ⟨t, u, -, ⟨⟩⟩
  rw [Expr.occursIn, Run.finds_iff, or_iff_right hidle]
  constructor
  · rintro ⟨s, v, rfl, t, u, rfl, h⟩
    rw [lastOf_eq, Option.or_none] at h
    exact ⟨s, t, u, rfl, h⟩
  · rintro ⟨s, t, u, rfl, h⟩
    refine ⟨s, t ++ u, rfl, t, u, rfl, ?_⟩
    rwa [lastOf_eq, Option.or_none]

end Viewport.Pattern
