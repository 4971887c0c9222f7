import Viewport.Proofs.Length.Cut
import Viewport.Proofs.Length.Pattern
import Viewport.Proofs.Pattern.Run

/-!
# The scanner and the pattern

The pattern of lengths, as it is read, matches the marks of a value: quoted strings, `url(...)`
calls, and numbers with the unit after them, whatever stands around them. The pieces that are cut
from a value are the longest matches of this pattern, and something is found at a place exactly if
the pattern matches there.
-/

namespace Viewport

open Pattern

/-! ## Sets of characters -/

namespace CharSet

variable {c d : Char}

theorem contains_range {m n k : Nat} : (range m n).contains k = true ↔ m ≤ k ∧ k ≤ n := by
  rw [contains, Bool.and_eq_true, decide_eq_true_eq, decide_eq_true_eq]

theorem contains_single {m n : Nat} : (single m).contains n = true ↔ n = m := by
  rw [single, contains_range]
  omega

/-- A set that is put together from code points holds these. -/
theorem contains_foldr_single {ns : List Nat} {n : Nat} :
    (ns.foldr (fun k s => single k ∪ s) none).contains n = true ↔ n ∈ ns := by
  induction ns with
  | nil =>
    rw [List.foldr_nil, none, contains_range]
    exact iff_of_false (by omega) List.not_mem_nil
  | cons k ns ih =>
    rw [List.foldr_cons, List.mem_cons, ← ih, ← contains_single]
    exact Bool.or_eq_true_iff

/-- A character in all its letter cases is what folds with it. -/
theorem contains_anyCase : (anyCase c.toNat).contains d.toNat = true ↔ sameFold c d = true := by
  rw [anyCase, contains_foldr_single, mem_foldOrbit_iff, sameFold_iff_foldCode_eq, eq_comm]

/-- A set with the other letter cases of its characters holds what folds with one of them. -/
theorem contains_fold {s : CharSet} {n : Nat} :
    (fold s).contains n = true ↔ ∃ k, s.contains k = true ∧ foldCode k = foldCode n := by
  rw [contains, List.any_eq_true]
  simp only [mem_foldOrbit_iff, and_comm]

/-- Folding adds nothing to a character without letter cases. -/
theorem contains_fold_single (h : IsCaseless c) :
    (fold (single c.toNat)).contains d.toNat = true ↔ d = c := by
  rw [← h.sameFold_iff, sameFold_iff_foldCode_eq, contains_fold]
  simp only [contains_single, exists_eq_left]

/-- No digit has other letter cases. -/
theorem contains_fold_digit :
    (fold (.range '0'.toNat '9'.toNat)).contains d.toNat = true ↔ d.isDigit = true := by
  have hcaseless : ∀ n : Fin 10, foldOrbit (48 + n) = [48 + n.val] := by decide
  have hdigit : d.isDigit = true ↔ 48 ≤ d.toNat ∧ d.toNat ≤ 57 := by
    rw [Char.isDigit, Bool.and_eq_true, decide_eq_true_eq, decide_eq_true_eq]
    rfl
  rw [contains_fold, hdigit]
  simp only [contains_range]
  constructor
  · rintro ⟨k, hk, hfold⟩
    obtain ⟨hfirst, hlast⟩ : 48 ≤ k ∧ k ≤ 57 := hk
    have horbit := hcaseless ⟨k - 48, by omega⟩
    have hmem := mem_foldOrbit_iff.2 hfold.symm
    simp only [Nat.add_sub_cancel' hfirst] at horbit
    rw [horbit, List.mem_singleton] at hmem
    rw [hmem]
    exact ⟨hfirst, hlast⟩
  · exact fun h => ⟨d.toNat, h, rfl⟩

end CharSet

/-! ## Patterns that do not look around -/

namespace Pattern

/-- The pattern matches the texts with a property, whatever stands around them. -/
def Expr.Takes (e : Expr) (P : List Char → Prop) : Prop :=
  ∀ before text rest, e.Matches before text rest ↔ P text

section Takes

variable {a b e : Expr} {es : List Expr} {s : CharSet} {p : Char → Prop} {P Q : List Char → Prop}

theorem Expr.Takes.congr (h : e.Takes P) (hiff : ∀ t, P t ↔ Q t) : e.Takes Q :=
  fun before text rest => (h before text rest).trans (hiff text)

theorem takes_empty : Expr.empty.Takes (· = []) := fun _ _ _ => Iff.rfl

/-- A pattern after another takes a text in two parts. -/
theorem takes_seq (ha : a.Takes P) (hb : b.Takes Q) :
    (Expr.seq a b).Takes (Splits fun t u => P t ∧ Q u) := by
  intro before text rest
  rw [Expr.Matches]
  exact exists₂_congr fun t u => and_congr_right fun _ =>
    and_congr (ha before t (u ++ rest)) (hb (lastOf before t) u rest)

theorem takes_either (ha : a.Takes P) (hb : b.Takes Q) :
    (Expr.either a b).Takes fun t => P t ∨ Q t :=
  fun before text rest => or_congr (ha before text rest) (hb before text rest)

/-- A row of patterns takes a text part by part. -/
theorem takes_row_cons (he : e.Takes P) (hes : (Expr.row es).Takes Q) :
    (Expr.row (e :: es)).Takes (Splits fun t u => P t ∧ Q u) := by
  cases es with
  | cons e' es => exact takes_seq he hes
  | nil =>
    have hnil (t : List Char) : Q t ↔ t = [] := (hes none t []).symm
    refine he.congr fun t => ?_
    simp [Splits, hnil]

theorem takes_row_nil : (Expr.row []).Takes (· = []) := takes_empty

theorem takes_row_singleton (he : e.Takes P) : (Expr.row [e]).Takes P := he

section Set

variable (h : ∀ c : Char, s.contains c.toNat = true ↔ p c)

include h

theorem takes_set : (Expr.set s).Takes fun t => ∃ c, p c ∧ t = [c] := by
  intro before text rest
  simp only [Expr.Matches, h]

/-- A set any number of times takes the texts of its characters. -/
theorem takes_star_set : (Expr.star (.set s)).Takes fun t => ∀ c ∈ t, p c := by
  intro before text rest
  rw [Expr.Matches]
  induction text generalizing before with
  | nil => exact iff_of_true (.none before rest) fun c hc => absurd hc List.not_mem_nil
  | cons c text ih =>
    have hrest := ih (some c)
    beta_reduce at hrest ⊢
    rw [repeats_cons_iff, List.forall_mem_cons, ← hrest, ← h c]
    simp [Splits, matches_set_cons_iff, lastOf_nil]

/-- Characters of a set, if any. -/
theorem takes_many : (Expr.repeated (.set s) 0 none).Takes fun t => ∀ c ∈ t, p c := by
  have hrow : Expr.repeated (.set s) 0 none = .seq .empty (.star (.set s)) := by
    simp [Expr.repeated, Expr.power]
  rw [hrow]
  refine (takes_seq takes_empty (takes_star_set h)).congr fun t => ?_
  simp [Splits]

/-- One or more characters of a set. -/
theorem takes_some : (Expr.repeated (.set s) 1 none).Takes fun t => t ≠ [] ∧ ∀ c ∈ t, p c := by
  have hrow : Expr.repeated (.set s) 1 none = .seq (.set s) (.star (.set s)) := by
    simp [Expr.repeated, Expr.power, Expr.isBlank]
  rw [hrow]
  refine (takes_seq (takes_set h) (takes_star_set h)).congr fun t => ?_
  cases t <;> simp [Splits]

/-- A character of a set, or nothing. -/
theorem takes_optional :
    (Expr.repeated (.set s) 0 (some 1)).Takes fun t => t = [] ∨ ∃ c, p c ∧ t = [c] := by
  have hrow : Expr.repeated (.set s) 0 (some 1) = .seq .empty (.either (.set s) .empty) := by
    simp [Expr.repeated, Expr.power, Expr.isBlank]
  rw [hrow]
  refine (takes_seq takes_empty (takes_either (takes_set h) takes_empty)).congr fun t => ?_
  simp [Splits, or_comm]

end Set

end Takes

end Pattern

/-! ## The parts of the pattern of lengths -/

section Parts

variable {c q close : Char} {es : List Expr} {Q : List Char → Prop}

/-- A letter of the pattern takes what folds with it. -/
theorem takes_letter (c : Char) :
    (letterExpr c).Takes fun t => ∃ d, sameFold c d = true ∧ t = [d] :=
  takes_set fun _ => CharSet.contains_anyCase

/-- A character without letter cases takes itself only. -/
theorem takes_caseless (h : IsCaseless c) : (letterExpr c).Takes (· = [c]) := by
  refine (takes_letter c).congr fun t => ?_
  simp only [h.sameFold_iff, exists_eq_left]

/-- The characters of a word in any letter case, and more after it. -/
theorem takes_word (w : List Char) (hes : (Expr.row es).Takes Q) :
    (Expr.row (w.map letterExpr ++ es)).Takes (Splits fun t u => Spells w t ∧ Q u) := by
  induction w with
  | nil =>
    refine hes.congr fun t => ?_
    simp [Splits, Spells]
  | cons c w ih =>
    refine (takes_row_cons (takes_letter c) ih).congr fun t => ?_
    constructor
    · rintro ⟨_, _, rfl, ⟨d, hd, rfl⟩, v, u, rfl, hv, hu⟩
      exact ⟨d :: v, u, rfl, .cons hd hv, hu⟩
    · rintro ⟨_, u, rfl, hv, hu⟩
      cases hv with
      | @cons _ d _ v hd hv => exact ⟨[d], v ++ u, rfl, ⟨d, hd, rfl⟩, v, u, rfl, hv, hu⟩

theorem takes_body (h : IsCaseless close) : (bodyExpr close).Takes (IsBody close) := by
  have hother (d : Char) :
      (CharSet.compl (.fold (.single close.toNat))).contains d.toNat = true ↔ d ≠ close := by
    rw [CharSet.contains, Bool.not_eq_true', ← Bool.not_eq_true, CharSet.contains_fold_single h]
  refine (takes_some hother).congr fun t => ?_
  rw [IsBody, List.forall_mem_ne']

/-- A body and the character that closes it. -/
theorem takes_closed (h : IsCaseless close) :
    (Expr.row [bodyExpr close, letterExpr close]).Takes
      fun t => ∃ body, IsBody close body ∧ t = body ++ [close] := by
  refine (takes_row_cons (takes_body h) (takes_row_singleton (takes_caseless h))).congr
    fun t => ?_
  simp [Splits, and_comm]

theorem takes_quoted (h : IsCaseless q) : (quotedExpr q).Takes (IsQuoted q) := by
  refine (takes_row_cons (takes_caseless h) (takes_closed h)).congr fun t => ?_
  constructor
  · rintro ⟨_, _, rfl, rfl, body, hbody, rfl⟩
    exact ⟨body, hbody, rfl⟩
  · rintro ⟨body, hbody, rfl⟩
    exact ⟨[q], body ++ [q], rfl, rfl, body, hbody, rfl⟩

theorem takes_url : urlExpr.Takes IsUrl := by
  refine (takes_word "url(".toList (takes_closed (by decide))).congr fun t => ?_
  simp only [spells_url_iff]
  constructor
  · rintro ⟨word, _, rfl, hword, body, hbody, rfl⟩
    exact ⟨word, body, hword, hbody, rfl⟩
  · rintro ⟨word, body, hword, hbody, rfl⟩
    exact ⟨word, body ++ [')'], rfl, hword, body, hbody, rfl⟩

/-- The part of the pattern for numbers takes numbers. -/
theorem takes_number : numberExpr.Takes IsNumber := by
  have hdigit (d : Char) := CharSet.contains_fold_digit (d := d)
  have hpoint (d : Char) : (CharSet.anyCase '.'.toNat).contains d.toNat = true ↔ d = '.' := by
    rw [CharSet.contains_anyCase]
    exact IsCaseless.sameFold_iff (by decide)
  have hrow := takes_row_cons (takes_many hdigit)
    (takes_row_cons (takes_optional hpoint) (takes_row_singleton (takes_some hdigit)))
  refine hrow.congr fun t => ?_
  simp only [exists_eq_left]
  constructor
  · rintro ⟨whole, _, rfl, hwhole, point, fraction, rfl, hpoint, hfraction⟩
    exact ⟨whole, point, fraction, hwhole, hpoint, hfraction, rfl⟩
  · rintro ⟨whole, point, fraction, hwhole, hpoint, hfraction, rfl⟩
    exact ⟨whole, point ++ fraction, rfl, hwhole, point, fraction, rfl, hpoint, hfraction⟩

end Parts

/-! ## The whole pattern -/

/-- A number and the unit after it. -/
def IsLength (unit text : List Char) : Prop :=
  ∃ n u, IsNumber n ∧ Spells unit u ∧ text = n ++ u

/-- A quoted string, a `url(...)` call, or a number with the unit after it. -/
def IsMark (unit text : List Char) : Prop :=
  IsQuoted '"' text ∨ IsQuoted '\'' text ∨ IsUrl text ∨ IsLength unit text

section Whole

variable {unit text rest : List Char} {before : Option Char}

theorem takes_length (unit : List Char) :
    (Expr.row (numberExpr :: unit.map letterExpr)).Takes (IsLength unit) := by
  have hunit : (Expr.row (unit.map letterExpr)).Takes (Spells unit) := by
    have hword := takes_word unit takes_row_nil
    rw [List.append_nil] at hword
    refine hword.congr fun t => ?_
    simp [Splits]
  refine (takes_row_cons takes_number hunit).congr fun t => ?_
  constructor
  · rintro ⟨n, u, rfl, hn, hu⟩
    exact ⟨n, u, hn, hu, rfl⟩
  · rintro ⟨n, u, hn, hu, rfl⟩
    exact ⟨n, u, rfl, hn, hu⟩

/-- What the pattern of lengths matches, whatever stands around it. -/
theorem matches_lengthExpr_iff :
    (lengthExpr unit).Matches before text rest ↔ IsMark unit text :=
  takes_either (takes_quoted (by decide))
    (takes_either (takes_quoted (by decide)) (takes_either takes_url (takes_length unit)))
    before text rest

theorem Mark.At.isMark {m : Mark} (h : m.At unit rest) : IsMark unit m.text := by
  cases m with
  | sealed t => exact or_assoc.1 (or_assoc.1 (.inl (or_assoc.2 h)))
  | length n u => exact .inr (.inr (.inr ⟨n, u, h.1, h.2.1, rfl⟩))

/-- Where a text could be a mark, one stands that is as long or longer: a number may go on. -/
theorem IsMark.exists_at {t : List Char} (h : IsMark unit t) (rest : List Char) :
    ∃ (m : Mark) (r : List Char), m.At unit r ∧ t ++ rest = m.text ++ r ∧
      t.length ≤ m.text.length := by
  obtain hq | hq | hl | ⟨n, u, hn, hu, rfl⟩ := h
  · exact ⟨.sealed t, rest, .inl hq, rfl, le_rfl⟩
  · exact ⟨.sealed t, rest, .inr (.inl hq), rfl, le_rfl⟩
  · exact ⟨.sealed t, rest, .inr (.inr hl), rfl, le_rfl⟩
  · have hafter : UnitAfter unit n (n ++ u ++ rest) := ⟨u, rest, hu, List.append_assoc n u rest⟩
    obtain ⟨⟨⟨n', u'⟩, r⟩, hfound, hle⟩ := (finds_lengthAt? unit _).complete n hn hafter
    obtain ⟨hat, htext⟩ := lengthAt?_eq_some_iff.1 hfound
    have hunit : u.length = u'.length := hu.length_eq.symm.trans hat.2.1.length_eq
    refine ⟨.length n' u', r, hat, by rw [htext, Mark.text, List.append_assoc], ?_⟩
    rw [Mark.text, List.length_append, List.length_append, hunit]
    exact Nat.add_le_add_right hle _

/-- A mark stands at the front of a text exactly if the text starts like one. -/
theorem opens_iff : Opens unit text ↔ ∃ t rest, text = t ++ rest ∧ IsMark unit t := by
  constructor
  · rintro ⟨m, rest, hm, rfl⟩
    exact ⟨m.text, rest, rfl, hm.isMark⟩
  · rintro ⟨t, rest, rfl, ht⟩
    obtain ⟨m, r, hm, htext, -⟩ := ht.exists_at rest
    exact ⟨m, r, hm, htext⟩

end Whole

/-! ## The scanner and the pattern -/

section Search

variable {unit text value : List Char} {e : Expr} (hunit : unit ≠ [])
  (he : Expr.readIn { caseInsensitive := true } (lengthPattern unit) = .ok e)

include hunit he

/-- What the pattern matches that is read from the pattern of lengths. -/
theorem matches_iff_isMark {before : Option Char} {rest : List Char} :
    e.Matches before text rest ↔ IsMark unit text := by
  obtain rfl : lengthExpr unit = e := Except.ok.inj ((readIn_lengthPattern hunit).symm.trans he)
  exact matches_lengthExpr_iff

/-- Something is found at the front of a text exactly if the pattern matches there. -/
theorem pieceAt?_isSome_iff_matches (before : Option Char) :
    (pieceAt? unit text).isSome = true ↔ ∃ t rest, text = t ++ rest ∧ e.Matches before t rest := by
  simp only [matches_iff_isMark hunit he]
  rw [← opens_iff, Option.isSome_iff_ne_none, Ne, ← not_opens_iff, not_not]

/-- What is found at the front of a text is the longest match of the pattern there. -/
theorem pieceAt?_longest {found : Found Piece} (h : pieceAt? unit text = some found)
    (before : Option Char) :
    (text = found.value.text ++ found.rest ∧ e.Matches before found.value.text found.rest) ∧
      ∀ t rest, text = t ++ rest → e.Matches before t rest →
        t.length ≤ found.value.text.length := by
  simp only [matches_iff_isMark hunit he]
  have hpiece (m : Mark) : m.piece.text = m.text := by cases m <;> rfl
  obtain ⟨m, hm⟩ := exists_mark_of_pieceAt? h
  rw [hm] at h ⊢
  obtain ⟨hat, htext⟩ := pieceAt?_eq_some_iff.1 h
  rw [hpiece]
  refine ⟨⟨htext, hat.isMark⟩, fun t rest ht hmark => ?_⟩
  obtain ⟨m', r, hat', htext', hle⟩ := hmark.exists_at rest
  have h' : pieceAt? unit text = some ⟨m'.piece, r⟩ :=
    pieceAt?_eq_some_iff.2 ⟨hat', ht.trans htext'⟩
  obtain rfl : m' = m :=
    Mark.piece_injective (congrArg Found.value (Option.some.inj (h'.symm.trans h)))
  exact hle

/-- The pattern matches somewhere in a value exactly if a mark starts somewhere. -/
theorem occursIn_iff_exists_opens :
    e.occursIn value = true ↔ ∃ s v, value = s ++ v ∧ Opens unit v := by
  simp only [Expr.occursIn_iff, matches_iff_isMark hunit he, opens_iff]
  constructor
  · rintro ⟨s, t, u, hvalue, ht⟩
    exact ⟨s, t ++ u, hvalue, t, u, rfl, ht⟩
  · rintro ⟨s, v, hvalue, t, u, rfl, ht⟩
    exact ⟨s, t, u, hvalue, ht⟩

/-- The pattern matches somewhere in a value exactly if not all of the pieces are plain. -/
theorem occursIn_iff_exists_piece :
    e.occursIn value = true ↔ ∃ p ∈ pieces unit value, ∀ c, p ≠ .plain c := by
  obtain ⟨c, rfl, hc⟩ := Cut.exists_valid unit value
  rw [occursIn_iff_exists_opens hunit he, Cut.pieces_text hc]
  cases c with
  | last g =>
    refine iff_of_false ?_ ?_
    · rintro ⟨s, v, hvalue, hopens⟩
      cases v with
      | nil => exact not_opens_iff.2 rfl hopens
      | cons x v =>
        refine hc s (x :: v) hvalue (List.cons_ne_nil x v) ?_
        rwa [List.append_nil]
    · rintro ⟨p, hp, hplain⟩
      obtain ⟨x, -, rfl⟩ := List.mem_map.1 hp
      exact hplain x rfl
  | mark g m c =>
    refine iff_of_true ⟨g, _, rfl, m, c.text, hc.2.1, rfl⟩ ⟨m.piece, ?_, m.piece_ne_plain⟩
    exact List.mem_append_right _ List.mem_cons_self

end Search

end Viewport
