import Mathlib.Data.List.Forall2
import Mathlib.Tactic.FinCases
import Viewport.Length.Pattern
import Viewport.Pattern.Resolve

/-!
# Every unit can be looked for

The pattern of lengths is read part by part. A character of the unit is read as itself, be it one
that has a meaning in patterns or not, so that the pattern of every unit is one.
-/

namespace Viewport

namespace Pattern

/-! ## Reading a part of a pattern -/

/-- Reading a text leads from one state to another, whatever follows the text. -/
def Leads (text : List Char) (before after : Level × List Level) : Prop :=
  ∃ steps ≤ text.length, ∀ n rest,
    (loop (n + steps) before.1 before.2).run ⟨text ++ rest, false, []⟩ =
      (loop n after.1 after.2).run ⟨rest, false, []⟩

namespace Leads

variable {text text' : List Char} {s s' s'' : Level × List Level}

theorem nil : Leads [] s s := ⟨0, Nat.le_refl 0, fun _ _ => rfl⟩

/-- A text after another leads on from where the first one leads to. -/
theorem append (h : Leads text s s') (h' : Leads text' s' s'') : Leads (text ++ text') s s'' := by
  obtain ⟨k, hk, hrun⟩ := h
  obtain ⟨k', hk', hrun'⟩ := h'
  refine ⟨k' + k, ?_, fun n rest => ?_⟩
  · rw [List.length_append]
    omega
  · rw [← Nat.add_assoc, List.append_assoc, hrun, hrun']

/-- A text that leads from the start to a level, with no group open, is read as that level. -/
theorem read_eq {l : Level} (h : Leads text (⟨[], false, [], []⟩, []) (l, []))
    (hdepth : l.tree.depth ≤ nestLimit) : Tree.read text = .ok l.tree := by
  obtain ⟨k, hk, hrun⟩ := h
  obtain ⟨n, hn⟩ := Nat.exists_eq_add_of_le' hk
  have hend : (loop n l []).run ⟨[], false, []⟩ = .ok (l.tree, ⟨[], false, []⟩) := by
    cases n <;> rfl
  have hloop := hrun n []
  rw [List.append_nil, ← hn, hend] at hloop
  rw [Tree.read, hloop]
  exact if_neg (Nat.not_lt.2 hdepth)

end Leads

/-! ## Characters that stand for themselves -/

def Tree.character (c : Char) : Tree := .literal ⟨c, false⟩

/-- A character without a meaning of its own is a part of the pattern as it stands. -/
theorem leads_character {c : Char} (h : isMeta c = false) (l : Level) (outer : List Level) :
    Leads [c] (l, outer) (l.push (.character c), outer) := by
  refine ⟨1, Nat.le_refl 1, fun n rest => ?_⟩
  have hstep : (step l outer c).run ⟨c :: rest, false, []⟩ =
      .ok ((l.push (.character c), outer), ⟨rest, false, []⟩) := by
    rw [step.eq_def]
    split
    all_goals first | exact absurd h (by decide) | rfl
  rw [loop]
  exact congrArg (· >>= fun p => (loop n p.1.1 p.1.2).run p.2) hstep

/-- A character with a meaning of its own is a part of the pattern behind a backslash. -/
theorem leads_escaped {c : Char} (h : isMeta c = true) (l : Level) (outer : List Level) :
    Leads ['\\', c] (l, outer) (l.push (.character c), outer) := by
  have hc : c ∈ ['\\', '.', '+', '*', '?', '(', ')', '|', '[', ']', '\x7b', '\x7d', '^', '$', '#',
    '&', '-', '~'] := List.contains_iff_mem.1 h
  refine ⟨1, Nat.le_succ 1, fun n rest => ?_⟩
  fin_cases hc <;> rfl

/-- A quoted text is read as its characters, one after the other. -/
theorem leads_quote (text : List Char) (l : Level) (outer : List Level) :
    Leads (quote text) (l, outer)
      ({ l with items := (text.map Tree.character).reverse ++ l.items }, outer) := by
  induction text generalizing l with
  | nil => exact .nil
  | cons c text ih =>
    have hrest := ih (l.push (.character c))
    rw [List.map_cons, List.reverse_cons, List.append_assoc, List.singleton_append]
    cases hc : isMeta c with
    | true =>
      have hquote : quote (c :: text) = ['\\', c] ++ quote text := by simp [quote, hc]
      rw [hquote]
      exact (leads_escaped hc l outer).append hrest
    | false =>
      have hquote : quote (c :: text) = [c] ++ quote text := by simp [quote, hc]
      rw [hquote]
      exact (leads_character hc l outer).append hrest

end Pattern

open Pattern

/-! ## The parts of the pattern of lengths -/

/-- One or more characters other than this one. -/
def bodyTree (close : Char) : Tree :=
  .repetition (.bracketed true (.literal ⟨close, false⟩)) 1 none

def quotedTree (quote : Char) : Tree :=
  .concat [.character quote, bodyTree quote, .character quote]

def urlTree : Tree := .concat ("url(".toList.map .character ++ [bodyTree ')', .character ')'])

def digitTree : Tree := .bracketed false (.range ⟨'0', false⟩ ⟨'9', false⟩)

def numberTree : Tree :=
  .group [] (.concat [.repetition digitTree 0 none, .repetition (.character '.') 0 (some 1),
    .repetition digitTree 1 none])

/-- What the pattern of lengths is read as. -/
def lengthTree (unit : List Char) : Tree :=
  .alternation [quotedTree '"', quotedTree '\'', urlTree,
    .concat (numberTree :: unit.map .character)]

theorem leads_quoted (q : Char) (hq : q = '"' ∨ q = '\'') (branches : List Tree) :
    Leads [q, '[', '^', q, ']', '+', q, '|'] (⟨[], false, branches, []⟩, [])
      (⟨[], false, quotedTree q :: branches, []⟩, []) := by
  obtain rfl | rfl := hq <;> exact ⟨5, by decide, fun n rest => rfl⟩

theorem leads_url (branches : List Tree) :
    Leads "url\\([^)]+\\)|".toList (⟨[], false, branches, []⟩, [])
      (⟨[], false, urlTree :: branches, []⟩, []) := by
  have hword : Leads "url".toList (⟨[], false, branches, []⟩, []) (⟨[], false, branches, _⟩, []) :=
    (leads_character (by decide) _ _).append
      ((leads_character (by decide) _ _).append (leads_character (by decide) _ _))
  have hbody (items : List Tree) :
      Leads "[^)]+\\)|".toList (⟨[], false, branches, items⟩, [])
        (⟨[], false, _, []⟩, []) :=
    ⟨4, by decide, fun n rest => rfl⟩
  exact hword.append ((leads_escaped (c := '(') (by decide) _ _).append (hbody _))

theorem leads_number (branches : List Tree) :
    Leads "([0-9]*\\.?[0-9]+)".toList (⟨[], false, branches, []⟩, [])
      (⟨[], false, branches, [numberTree]⟩, []) := by
  let outer : List Pattern.Level := [⟨[], false, branches, []⟩]
  let inside (items : List Tree) : Pattern.Level × List Pattern.Level :=
    (⟨[], false, [], items⟩, outer)
  let point : Tree := .repetition (.character '.') 0 (some 1)
  let whole : Tree := .repetition digitTree 0 none
  have hopen : Leads "([0-9]".toList (⟨[], false, branches, []⟩, []) (inside [digitTree]) :=
    ⟨2, by decide, fun n rest => rfl⟩
  have hwhole : Leads "*\\.".toList (inside [digitTree]) (inside [.character '.', whole]) :=
    ⟨2, by decide, fun n rest => rfl⟩
  have hpoint : Leads "?[0-9]".toList (inside [.character '.', whole])
      (inside [digitTree, point, whole]) :=
    ⟨2, by decide, fun n rest => rfl⟩
  have hclose : Leads "+)".toList (inside [digitTree, point, whole])
      (⟨[], false, branches, [numberTree]⟩, []) :=
    ⟨2, by decide, fun n rest => rfl⟩
  exact hopen.append (hwhole.append (hpoint.append hclose))

/-- Reading the pattern of lengths ends in its last branch, with the number and the unit read so
far. -/
theorem leads_lengthPattern (unit : List Char) :
    Leads (lengthPattern unit) (⟨[], false, [], []⟩, [])
      (⟨[], false, [urlTree, quotedTree '\'', quotedTree '"'],
        (unit.map Tree.character).reverse ++ [numberTree]⟩, []) :=
  (leads_quoted '"' (.inl rfl) []).append ((leads_quoted '\'' (.inr rfl) _).append
    ((leads_url _).append ((leads_number _).append (leads_quote unit _ []))))

/-- Two parts or more are put in a row as they stand. -/
theorem branch_eq_concat {l : Pattern.Level} (h : 2 ≤ l.items.length) :
    l.branch = .concat l.items.reverse := by
  obtain ⟨switches, spaced, branches, items⟩ := l
  match items, h with
  | _ :: _ :: _, _ => rfl

theorem maxDepth_map_character (text : List Char) : Tree.maxDepth (text.map .character) = 0 := by
  induction text with
  | nil => rfl
  | cons c text ih => exact (Nat.zero_max _).trans ih

/-- The tree of the pattern is as deep for each unit, and below the limit. -/
theorem depth_lengthTree (unit : List Char) : (lengthTree unit).depth = 6 := by
  simp only [lengthTree, Tree.depth, Tree.maxDepth, maxDepth_map_character]
  rfl

/-- The pattern of lengths is read as it is meant. -/
theorem read_lengthPattern {unit : List Char} (h : unit ≠ []) :
    Tree.read (lengthPattern unit) = .ok (lengthTree unit) := by
  let items := (unit.map Tree.character).reverse ++ [numberTree]
  have hitems : 2 ≤ items.length := by
    have := List.length_pos_of_ne_nil h
    simp only [items, List.length_append, List.length_reverse, List.length_map,
      List.length_singleton]
    omega
  have hreverse : items.reverse = numberTree :: unit.map .character := by
    simp only [items, List.reverse_append, List.reverse_reverse]
    rfl
  have htree : (Pattern.Level.mk [] false [urlTree, quotedTree '\'', quotedTree '"'] items).tree =
      lengthTree unit := by
    rw [Pattern.Level.tree, branch_eq_concat hitems, hreverse]
    rfl
  have hread := (leads_lengthPattern unit).read_eq
  rw [htree, depth_lengthTree] at hread
  exact hread (by decide)

/-! ## The meaning of the pattern -/

namespace Pattern

namespace Expr

/-- Patterns in a row. -/
def row : List Expr → Expr
  | [] => .empty
  | [e] => e
  | e :: es => .seq e (row es)

/-- Any of several patterns. -/
def oneOf : List Expr → Expr
  | [] => .set .none
  | [e] => e
  | e :: es => .either e (oneOf es)

end Expr

/-- A part of a pattern has a meaning, and it switches nothing. -/
def Tree.Means (m : Modes) (t : Tree) (e : Expr) : Prop := t.resolve m = .ok (e, m)

variable {m : Modes} {ts : List Tree} {es : List Expr}

/-- Trees in a row mean their meanings in a row. -/
theorem resolveSeq_eq (h : List.Forall₂ (Tree.Means m) ts es) :
    Tree.resolveSeq m ts = .ok (.row es, m) := by
  induction h with
  | nil => rfl
  | @cons t e ts es ht hts ih =>
    cases hts with
    | nil => exact ht
    | @cons t' e' ts es ht' hts =>
      have hcons : Tree.resolveSeq m (t :: t' :: ts) = t.resolve m >>= fun p =>
          Tree.resolveSeq p.2 (t' :: ts) >>= fun q => .ok (.seq p.1 q.1, q.2) := rfl
      rw [hcons, ht]
      exact congrArg (· >>= fun q => .ok (Expr.seq e q.1, q.2)) ih

/-- Trees to choose from mean any of their meanings. -/
theorem resolveEither_eq (h : List.Forall₂ (Tree.Means m) ts es) :
    Tree.resolveEither m ts = .ok (.oneOf es, m) := by
  induction h with
  | nil => rfl
  | @cons t e ts es ht hts ih =>
    cases hts with
    | nil => exact ht
    | @cons t' e' ts es ht' hts =>
      have hcons : Tree.resolveEither m (t :: t' :: ts) = t.resolve m >>= fun p =>
          Tree.resolveEither p.2 (t' :: ts) >>= fun q => .ok (.either p.1 q.1, q.2) := rfl
      rw [hcons, ht]
      exact congrArg (· >>= fun q => .ok (Expr.either e q.1, q.2)) ih

end Pattern

/-- A character in any letter case. -/
def letterExpr (c : Char) : Expr := .set (.anyCase c.toNat)

def bodyExpr (close : Char) : Expr :=
  .repeated (.set (.compl (.fold (.single close.toNat)))) 1 none

def quotedExpr (quote : Char) : Expr := .row [letterExpr quote, bodyExpr quote, letterExpr quote]

def urlExpr : Expr := .row ("url(".toList.map letterExpr ++ [bodyExpr ')', letterExpr ')'])

def digitExpr : Expr := .set (.fold (.range '0'.toNat '9'.toNat))

def numberExpr : Expr :=
  .row [.repeated digitExpr 0 none, .repeated (letterExpr '.') 0 (some 1),
    .repeated digitExpr 1 none]

/-- What the pattern of lengths means. -/
def lengthExpr (unit : List Char) : Expr :=
  .oneOf [quotedExpr '"', quotedExpr '\'', urlExpr, .row (numberExpr :: unit.map letterExpr)]

/-- The tree means the pattern, if letter case is not to matter. -/
theorem means_lengthTree (unit : List Char) :
    (lengthTree unit).Means { caseInsensitive := true } (lengthExpr unit) := by
  have hlast : List.Forall₂ (Tree.Means { caseInsensitive := true })
      (numberTree :: unit.map .character) (numberExpr :: unit.map letterExpr) := by
    refine .cons rfl ?_
    rw [List.forall₂_map_left_iff, List.forall₂_map_right_iff, List.forall₂_same]
    exact fun _ _ => rfl
  exact resolveEither_eq (.cons rfl (.cons rfl (.cons rfl (.cons (resolveSeq_eq hlast) .nil))))

/-- Every unit can be looked for, whatever its characters mean in patterns. -/
theorem readIn_lengthPattern {unit : List Char} (h : unit ≠ []) :
    Expr.readIn { caseInsensitive := true } (lengthPattern unit) = .ok (lengthExpr unit) := by
  rw [Expr.readIn, read_lengthPattern h]
  exact congrArg (· >>= fun p => .ok p.1) (means_lengthTree unit)

end Viewport
