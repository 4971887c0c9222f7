import Viewport.Length.Conversion
import Viewport.Proofs.Binary64.Format
import Viewport.Proofs.Length.Cut

/-!
# Converting a value twice

What a length in `px` is converted to is inert text: no mark starts in it, and none reaches into
it from the text before. So the gaps of a value stay gaps when lengths are converted, the marks
that are kept stay marks, and a second conversion finds only lengths that the first has kept.
-/

namespace Viewport

/-- What closes a quoted string or a call. -/
def closers : List Char := ['"', '\'', ')']

def IsNumeric (c : Char) : Prop := c.isDigit = true ∨ c = '.'

instance (c : Char) : Decidable (IsNumeric c) := inferInstanceAs (Decidable (_ ∨ _))

/-- Text that neither opens nor closes anything. -/
structure Inert (t : List Char) : Prop where
  not_special : ∀ c ∈ t, c ∉ closers ∧ c.toLower ≠ 'u' ∧ c.toLower ≠ 'p'
  /-- The text does not go on with a name or a unit that stands before it. -/
  head : ∀ c ∈ t.head?, c.toLower ∉ "rl(px".toList
  /-- No number goes on behind the text. -/
  last : ∃ a c, t = a ++ [c] ∧ ¬IsNumeric c

/-- Some parts of the one text have been replaced by inert text in the other. -/
inductive Rewritten : List Char → List Char → Prop
  | nil : Rewritten [] []
  | keep (c : Char) {cs os : List Char} : Rewritten cs os → Rewritten (c :: cs) (c :: os)
  | swap {old new cs os : List Char} : old ≠ [] → (∀ c ∈ old, c ∉ closers) → Inert new →
    Rewritten cs os → Rewritten (old ++ cs) (new ++ os)

section Number

theorem IsNumeric.toLower_eq {c : Char} (h : IsNumeric c) : c.toLower = c := by
  rcases h with h | rfl
  · simp only [Char.isDigit, Bool.and_eq_true, decide_eq_true_eq] at h
    have hc : ¬(65 ≤ c.toNat ∧ c.toNat ≤ 90) := by
      have h9 : c.toNat ≤ 57 := h.2
      omega
    exact dif_neg hc
  · rfl

/-- No digit and no point closes anything. -/
theorem not_mem_closers_of_isNumeric {c : Char} (h : IsNumeric c) : c ∉ closers := by
  have hclosers : ∀ c ∈ closers, ¬IsNumeric c := List.all_iff_forall_prop.1 (by decide)
  exact fun hc => hclosers c hc h

theorem not_isNumeric_of_toLower_eq_p {c : Char} (h : c.toLower = 'p') : ¬IsNumeric c := by
  intro hc
  rw [hc.toLower_eq] at h
  subst h
  rcases hc with hc | hc <;> exact absurd hc (by decide)

/-- A number is made of digits and points. -/
theorem IsNumber.isNumeric {n : List Char} (h : IsNumber n) : ∀ c ∈ n, IsNumeric c := by
  obtain ⟨whole, point, fraction, hw, hp, ⟨-, hf⟩, rfl⟩ := h
  intro c hc
  rw [List.mem_append, List.mem_append] at hc
  rcases hc with hc | hc | hc
  · exact .inl (hw c hc)
  · rcases hp with rfl | rfl
    · exact absurd hc List.not_mem_nil
    · exact .inr (List.mem_singleton.1 hc)
  · exact .inl (hf c hc)

/-- The unit is spelled by the two letters in either case. -/
theorem spells_px_iff {u : List Char} :
    Spells "px".toList u ↔ ∃ p x, p.toLower = 'p' ∧ x.toLower = 'x' ∧ u = [p, x] := by
  rw [spells_iff_map_toLower foldsInAscii_px]
  constructor
  · intro h
    obtain ⟨p, u, rfl, hp, hu⟩ := List.map_eq_cons_iff.1 h
    obtain ⟨x, u, rfl, hx, hu⟩ := List.map_eq_cons_iff.1 hu
    obtain rfl := List.map_eq_nil_iff.1 hu
    exact ⟨p, x, hp, hx, rfl⟩
  · rintro ⟨p, x, hp, hx, rfl⟩
    simp [hp, hx]

/-- A number in front of `px` cannot be longer or shorter than it is. -/
theorem at_px_iff {n u rest : List Char} :
    (Mark.length n u).At "px".toList rest ↔ IsNumber n ∧ Spells "px".toList u := by
  constructor
  · rintro ⟨hn, hu, -⟩
    exact ⟨hn, hu⟩
  · rintro ⟨hn, hu⟩
    refine ⟨hn, hu, fun n' hn' ⟨u', rest', hu', h⟩ => ?_⟩
    rcases List.append_eq_append_iff.1 h with ⟨a, rfl, ha⟩ | ⟨a, rfl, -⟩
    · obtain ⟨p, x, hp, -, rfl⟩ := spells_px_iff.1 hu
      cases a with
      | nil => simp
      | cons y a =>
        obtain rfl : p = y := (List.cons.inj ha).1
        exact absurd (hn'.isNumeric p (by simp)) (not_isNumeric_of_toLower_eq_p hp)
    · simp

/-- No length in `px` reaches over a character that is not of a number before a `p` has been. -/
theorem append_ne_length {b rest n u rest' : List Char} (hn : ∀ c ∈ n, IsNumeric c)
    (hu : Spells "px".toList u) (hb : ∃ c ∈ b, ¬IsNumeric c) (hp : ∀ c ∈ b, c.toLower ≠ 'p') :
    b ++ rest ≠ n ++ (u ++ rest') := by
  intro h
  obtain ⟨c, hc, hnum⟩ := hb
  obtain ⟨p, x, hpl, -, rfl⟩ := spells_px_iff.1 hu
  rcases List.append_eq_append_iff.1 h with ⟨a, rfl, -⟩ | ⟨a, rfl, ha⟩
  · exact hnum (hn c (List.mem_append_left _ hc))
  · cases a with
    | nil =>
      rw [List.append_nil] at hc
      exact hnum (hn c hc)
    | cons y a =>
      obtain rfl : p = y := (List.cons.inj ha).1
      exact hp p (by simp) hpl

end Number

section Opening

/-- The four characters that a `url(...)` call starts with, and its body. -/
theorem IsUrl.exists_cons {t : List Char} (h : IsUrl t) :
    ∃ u r l o body, u.toLower = 'u' ∧ r.toLower = 'r' ∧ l.toLower = 'l' ∧ o.toLower = '(' ∧
      IsBody ')' body ∧ t = u :: r :: l :: o :: (body ++ [')']) := by
  obtain ⟨word, body, hw, hbody, rfl⟩ := h
  obtain ⟨u, word, rfl, hu, hw⟩ := List.map_eq_cons_iff.1 hw
  obtain ⟨r, word, rfl, hr, hw⟩ := List.map_eq_cons_iff.1 hw
  obtain ⟨l, word, rfl, hl, hw⟩ := List.map_eq_cons_iff.1 hw
  obtain ⟨o, word, rfl, ho, hw⟩ := List.map_eq_cons_iff.1 hw
  obtain rfl := List.map_eq_nil_iff.1 hw
  exact ⟨u, r, l, o, body, hu, hr, hl, ho, hbody, rfl⟩

theorem isUrl_cons {u r l o : Char} {body : List Char} (hu : u.toLower = 'u')
    (hr : r.toLower = 'r') (hl : l.toLower = 'l') (ho : o.toLower = '(') (hbody : IsBody ')' body) :
    IsUrl (u :: r :: l :: o :: (body ++ [')'])) :=
  ⟨[u, r, l, o], body, by simp [hu, hr, hl, ho], hbody, rfl⟩

end Opening

namespace Inert

variable {t : List Char}

theorem ne_nil (h : Inert t) : t ≠ [] := by
  obtain ⟨a, c, rfl, -⟩ := h.last
  simp

/-- Inert text does not end with a part of a number. -/
theorem exists_mem_not_isNumeric {a b : List Char} (h : Inert t) (ht : t = a ++ b) (hb : b ≠ []) :
    ∃ c ∈ b, ¬IsNumeric c := by
  obtain ⟨a', c, ha, hc⟩ := h.last
  have hl : t.getLast? = some c := by simp [ha]
  rw [ht, List.getLast?_append_of_ne_nil _ hb] at hl
  exact ⟨c, List.mem_of_getLast? hl, hc⟩

/-- No mark starts in inert text. -/
theorem closed (h : Inert t) (rest : List Char) : Closed "px".toList t rest := by
  rintro a b rfl hb ⟨m, rest', hat, htext⟩
  have hspecial (c : Char) (hc : c ∈ b) := h.not_special c (List.mem_append_right _ hc)
  obtain ⟨y, b', rfl⟩ := List.exists_cons_of_ne_nil hb
  have hy := hspecial y List.mem_cons_self
  cases m with
  | sealed s =>
    rcases hat with ⟨body, -, rfl⟩ | ⟨body, -, rfl⟩ | hurl
    · obtain rfl := (List.cons.inj htext).1
      exact hy.1 (by decide)
    · obtain rfl := (List.cons.inj htext).1
      exact hy.1 (by decide)
    · obtain ⟨u, r, l, o, body, hu, -, -, -, -, rfl⟩ := hurl.exists_cons
      obtain rfl := (List.cons.inj htext).1
      exact hy.2.1 hu
  | length n u =>
    obtain ⟨hn, hu⟩ := at_px_iff.1 hat
    have hlast := h.exists_mem_not_isNumeric rfl hb
    rw [Mark.text, List.append_assoc] at htext
    exact append_ne_length hn.isNumeric hu hlast (fun c hc => (hspecial c hc).2.2) htext

end Inert

namespace Rewritten

variable {cs os : List Char}

/-- A text before both stays as it is. -/
theorem append_left (t : List Char) (h : Rewritten cs os) : Rewritten (t ++ cs) (t ++ os) := by
  induction t with
  | nil => exact h
  | cons c t ih => exact .keep c ih

/-- Nothing has to be replaced. -/
theorem refl (cs : List Char) : Rewritten cs cs := by
  have h := append_left cs nil
  rwa [List.append_nil] at h

/-- What a rewritten text starts with has been kept, or belongs to inert text. -/
theorem of_cons {x : Char} (h : Rewritten cs (x :: os)) :
    (∃ cs', cs = x :: cs' ∧ Rewritten cs' os) ∨ ∃ new rest, Inert new ∧ new ++ rest = x :: os := by
  generalize hos : x :: os = text at h
  cases h with
  | nil => cases hos
  | keep c h =>
    obtain ⟨rfl, rfl⟩ := List.cons.inj hos
    exact .inl ⟨_, rfl, h⟩
  | swap _ _ hnew _ => exact .inr ⟨_, _, hnew, rfl⟩

/-- A name or a unit goes on only where it did before. -/
theorem of_cons_of_mem {x : Char} (h : Rewritten cs (x :: os)) (hx : x.toLower ∈ "rl(px".toList) :
    ∃ cs', cs = x :: cs' ∧ Rewritten cs' os := by
  refine h.of_cons.resolve_right ?_
  rintro ⟨new, rest, hnew, hos⟩
  cases new with
  | nil => exact hnew.ne_nil rfl
  | cons y new =>
    obtain rfl := (List.cons.inj hos).1
    exact hnew.head y rfl hx

/-- A length in `px` is replaced by inert text. -/
theorem swap_length {n u new : List Char} (h : Rewritten cs os) (hn : IsNumber n)
    (hu : Spells "px".toList u) (hnew : Inert new) :
    Rewritten (n ++ u ++ cs) (new ++ os) := by
  obtain ⟨p, x, hp, hx, rfl⟩ := spells_px_iff.1 hu
  refine .swap (by simp) (fun c hc => ?_) hnew h
  rw [List.mem_append] at hc
  rcases hc with hc | hc
  · exact not_mem_closers_of_isNumeric (hn.isNumeric c hc)
  · have hlower : c.toLower ∈ "px".toList := by
      simp only [List.mem_cons, List.not_mem_nil, or_false] at hc
      rcases hc with rfl | rfl
      · rw [hp]; decide
      · rw [hx]; decide
    have hclosers : ∀ c ∈ closers, c.toLower ∉ "px".toList :=
      List.all_iff_forall_prop.1 (by decide)
    exact fun hc => hclosers c hc hlower

/-- A closing character closes what it closed before. -/
theorem of_append_cons {q : Char} {a b : List Char} (h : Rewritten cs (a ++ q :: b))
    (hq : q ∈ closers) (ha : q ∉ a) :
    ∃ a' b', cs = a' ++ q :: b' ∧ q ∉ a' ∧ (a' = [] → a = []) := by
  generalize hos : a ++ q :: b = text at h
  -- by what has been replaced, since `a` may reach over any number of replaced parts
  induction h generalizing a with
  | nil => simp at hos
  | @keep c cs os _ ih =>
    cases a with
    | nil =>
      obtain rfl := (List.cons.inj hos).1
      exact ⟨[], cs, rfl, ha, fun h => h⟩
    | cons x a =>
      obtain ⟨rfl, htail⟩ := List.cons.inj hos
      obtain ⟨hx, ha⟩ := not_or.1 (mt List.mem_cons.2 ha)
      obtain ⟨a', b', rfl, ha', -⟩ := ih ha htail
      exact ⟨x :: a', b', rfl, List.not_mem_cons_of_ne_of_not_mem hx ha', by simp⟩
  | @swap old new cs os hold hclosers hnew _ ih =>
    have hqnew : q ∉ new := fun h => (hnew.not_special q h).1 hq
    -- the inert text has no closing character, so it lies in front of the one that is there
    obtain ⟨a₂, rfl, hrest⟩ : ∃ a₂, a = new ++ a₂ ∧ a₂ ++ q :: b = os := by
      rcases List.append_eq_append_iff.1 hos with ⟨a₂, rfl, hq'⟩ | ⟨a₂, rfl, hos'⟩
      · cases a₂ with
        | nil => exact ⟨[], by simp, hq'⟩
        | cons y a₂ =>
          obtain rfl := (List.cons.inj hq').1
          simp at hqnew
      · exact ⟨a₂, rfl, hos'.symm⟩
    have ha₂ : q ∉ a₂ := fun h => ha (List.mem_append_right _ h)
    obtain ⟨a', b', rfl, ha', -⟩ := ih ha₂ hrest
    refine ⟨old ++ a', b', by rw [List.append_assoc], ?_, by simp [hold]⟩
    rw [List.mem_append, not_or]
    exact ⟨fun h => hclosers q h hq, ha'⟩

/-- A body in the rewritten text was one before, for inert text opens and closes nothing. -/
theorem of_body {close : Char} {body rest : List Char}
    (h : Rewritten cs (body ++ [close] ++ rest)) (hclose : close ∈ closers)
    (hbody : IsBody close body) :
    ∃ body' rest', IsBody close body' ∧ cs = body' ++ [close] ++ rest' := by
  simp only [List.append_assoc, List.singleton_append] at h ⊢
  obtain ⟨body', rest', hcs, hmem, hnil⟩ := h.of_append_cons hclose hbody.2
  exact ⟨body', rest', ⟨mt hnil hbody.1, hmem⟩, hcs⟩

/-- A length in the rewritten text was one before. -/
theorem of_length {n u rest : List Char} (h : Rewritten cs (n ++ (u ++ rest)))
    (hn : ∀ c ∈ n, IsNumeric c) (hu : Spells "px".toList u) : ∃ rest', cs = n ++ (u ++ rest') := by
  induction n generalizing cs with
  | nil =>
    obtain ⟨p, x, hp, hx, rfl⟩ := spells_px_iff.1 hu
    obtain ⟨cs₁, rfl, h₁⟩ := h.of_cons_of_mem (by rw [hp]; decide)
    obtain ⟨cs₂, rfl, -⟩ := h₁.of_cons_of_mem (by rw [hx]; decide)
    exact ⟨cs₂, rfl⟩
  | cons y n ih =>
    rcases h.of_cons with ⟨cs', rfl, h'⟩ | ⟨new, rest', hnew, hos⟩
    · obtain ⟨rest', rfl⟩ := ih h' fun c hc => hn c (List.mem_cons_of_mem _ hc)
      exact ⟨rest', rfl⟩
    · have hlast := hnew.exists_mem_not_isNumeric (List.nil_append new).symm hnew.ne_nil
      exact absurd hos (append_ne_length hn hu hlast fun c hc => (hnew.not_special c hc).2.2)

/-- A quoted string in the rewritten text was one before. -/
theorem of_quoted {q x : Char} {t rest : List Char} (hq : q ∈ closers) (h : Rewritten cs os)
    (ht : IsQuoted q t) (htext : x :: os = t ++ rest) :
    ∃ t' rest', IsQuoted q t' ∧ x :: cs = t' ++ rest' := by
  obtain ⟨body, hbody, rfl⟩ := ht
  obtain ⟨rfl, rfl⟩ := List.cons.inj htext
  obtain ⟨body', rest', hbody', rfl⟩ := h.of_body hq hbody
  exact ⟨x :: (body' ++ [x]), rest', ⟨body', hbody', rfl⟩, by simp⟩

/-- A `url(...)` call in the rewritten text was one before. -/
theorem of_url {x : Char} {t rest : List Char} (h : Rewritten cs os) (ht : IsUrl t)
    (htext : x :: os = t ++ rest) : ∃ t' rest', IsUrl t' ∧ x :: cs = t' ++ rest' := by
  obtain ⟨u, r, l, o, body, hu, hr, hl, ho, hbody, rfl⟩ := ht.exists_cons
  obtain ⟨rfl, rfl⟩ := List.cons.inj htext
  obtain ⟨cs₁, rfl, h₁⟩ := h.of_cons_of_mem (by rw [hr]; decide)
  obtain ⟨cs₂, rfl, h₂⟩ := h₁.of_cons_of_mem (by rw [hl]; decide)
  obtain ⟨cs₃, rfl, h₃⟩ := h₂.of_cons_of_mem (by rw [ho]; decide)
  obtain ⟨body', rest', hbody', rfl⟩ := h₃.of_body (by decide) hbody
  exact ⟨_, rest', isUrl_cons hu hr hl ho hbody', by simp⟩

/-- A mark starts at a kept character only if one did before. -/
theorem opens {x : Char} (h : Rewritten cs os) (ho : Opens "px".toList (x :: os)) :
    Opens "px".toList (x :: cs) := by
  obtain ⟨m, rest, hat, htext⟩ := ho
  cases m with
  | sealed s =>
    rcases hat with hs | hs | hs
    · obtain ⟨s', rest', hs', hcs⟩ := h.of_quoted (by decide) hs htext
      exact ⟨.sealed s', rest', .inl hs', hcs⟩
    · obtain ⟨s', rest', hs', hcs⟩ := h.of_quoted (by decide) hs htext
      exact ⟨.sealed s', rest', .inr (.inl hs'), hcs⟩
    · obtain ⟨s', rest', hs', hcs⟩ := h.of_url hs htext
      exact ⟨.sealed s', rest', .inr (.inr hs'), hcs⟩
  | length n u =>
    obtain ⟨hn, hu⟩ := at_px_iff.1 hat
    rw [Mark.text, List.append_assoc] at htext
    obtain ⟨rest', hcs⟩ := of_length (htext ▸ h.keep x) hn.isNumeric hu
    exact ⟨.length n u, rest', at_px_iff.2 ⟨hn, hu⟩, by rw [hcs, Mark.text, List.append_assoc]⟩

theorem closed {g : List Char} (h : Rewritten cs os) (hg : Closed "px".toList g cs) :
    Closed "px".toList g os := by
  rintro a b rfl hb ho
  obtain ⟨x, b, rfl⟩ := List.exists_cons_of_ne_nil hb
  exact hg a (x :: b) rfl hb ((h.append_left b).opens ho)

end Rewritten

namespace Cut

/-- The cut of the value with lengths replaced: where a number has text to be replaced by, no mark
is left, and the text is part of a gap. -/
def replaced (f : List Char → Option (List Char)) : Cut → Cut
  | .last g => .last g
  | .mark g (.sealed t) c => .mark g (.sealed t) (c.replaced f)
  | .mark g (.length n u) c =>
    match f n with
    | none => .mark g (.length n u) (c.replaced f)
    | some t => (c.replaced f).prepend (g ++ t)

variable {f : List Char → Option (List Char)} {c : Cut}

theorem replaced_prepend (t : List Char) (c : Cut) :
    (c.prepend t).replaced f = (c.replaced f).prepend t := by
  cases c with
  | last g => rfl
  | mark g m c =>
    cases m with
    | sealed s => rfl
    | length n u =>
      cases hf : f n with
      | none => simp only [replaced, hf, prepend]
      | some s =>
        have hcons : (mark g (.length n u) c).prepend t = mark (t ++ g) (.length n u) c := rfl
        simp only [hcons, replaced, hf, prepend_prepend, List.append_assoc]

/-- The lengths that are left have nothing to be replaced by. -/
theorem replaced_replaced (c : Cut) : (c.replaced f).replaced f = c.replaced f := by
  induction c with
  | last g => rfl
  | mark g m c ih =>
    cases m with
    | sealed s => simp only [replaced, ih]
    | length n u =>
      cases hf : f n with
      | none => simp only [replaced, hf, ih]
      | some t => simp only [replaced, hf, replaced_prepend, ih]

/-- The text of the cut with its lengths replaced is the value with its lengths replaced. -/
theorem text_replaced {unit : List Char} (h : c.Valid unit) :
    (c.replaced f).text = replaceLengths unit (fun n u => (f n).getD (n ++ u)) c.text := by
  have hplain (g : List Char) (F : Piece → List Char) (hF : ∀ x, F (.plain x) = [x]) :
      (g.map Piece.plain).flatMap F = g := by
    rw [List.flatMap_map]
    simp [hF]
  rw [replaceLengths, pieces_text h]
  clear h
  induction c with
  | last g => exact (hplain g _ fun _ => rfl).symm
  | mark g m c ih =>
    rw [pieces, List.flatMap_append, hplain g _ fun _ => rfl, List.flatMap_cons, ← ih]
    cases m with
    | sealed s => rfl
    | length n u =>
      cases hf : f n with
      | none => simp only [replaced, hf, text, Mark.piece, Option.getD_none, Mark.text]
      | some t =>
        simp only [replaced, hf, text_prepend, Mark.piece, Option.getD_some, List.append_assoc]

section Px

variable (hf : ∀ n t, f n = some t → Inert t)
include hf

/-- Replacing lengths by inert text rewrites the text. -/
theorem rewritten_replaced (h : c.Valid "px".toList) : Rewritten c.text (c.replaced f).text := by
  induction c with
  | last g => exact .refl g
  | mark g m c ih =>
    obtain ⟨-, hat, hc⟩ := h
    have ih := ih hc
    cases m with
    | sealed s => exact (ih.append_left s).append_left g
    | length n u =>
      obtain ⟨hn, hu⟩ := at_px_iff.1 hat
      cases hfn : f n with
      | none =>
        simp only [replaced, hfn]
        exact (ih.append_left (n ++ u)).append_left g
      | some t =>
        simp only [replaced, hfn, text_prepend, List.append_assoc]
        exact ((ih.swap_length hn hu (hf n t hfn))).append_left g

/-- What is replaced by inert text opens no new mark, and the marks that are left are kept. -/
theorem valid_replaced (h : c.Valid "px".toList) : (c.replaced f).Valid "px".toList := by
  induction c with
  | last g => exact h
  | mark g m c ih =>
    obtain ⟨hg, hat, hc⟩ := h
    have hrest := rewritten_replaced hf hc
    cases m with
    | sealed s => exact ⟨(hrest.append_left s).closed hg, hat, ih hc⟩
    | length n u =>
      obtain ⟨hn, hu⟩ := at_px_iff.1 hat
      cases hfn : f n with
      | none =>
        simp only [replaced, hfn]
        exact ⟨(hrest.append_left (n ++ u)).closed hg, at_px_iff.2 ⟨hn, hu⟩, ih hc⟩
      | some t =>
        have ht := hf n t hfn
        simp only [replaced, hfn]
        refine valid_prepend.2 ⟨closed_append.2 ⟨?_, ht.closed _⟩, ih hc⟩
        exact (hrest.swap_length hn hu ht).closed hg

end Px

end Cut

section Target

/-- A unit that lengths in `px` may be converted to, over and over. -/
def IsTarget (unit : List Char) : Prop :=
  unit ≠ [] ∧ ∀ c ∈ unit, c.isAlpha = true ∧ c.toLower ≠ 'p' ∧ c.toLower ≠ 'u'

instance (unit : List Char) : Decidable (IsTarget unit) :=
  decidable_of_iff
    (unit ≠ [] ∧ unit.all fun c => c.isAlpha = true ∧ c.toLower ≠ 'p' ∧ c.toLower ≠ 'u')
    (and_congr_right fun _ => List.all_iff_forall_prop)

theorem not_mem_closers_of_isAlpha {c : Char} (h : c.isAlpha = true) : c ∉ closers := by
  have hclosers : ∀ c ∈ closers, c.isAlpha = false := List.all_iff_forall_prop.1 (by decide)
  intro hc
  simp [hclosers c hc] at h

theorem not_isNumeric_of_isAlpha {c : Char} (h : c.isAlpha = true) : ¬IsNumeric c := by
  rintro (hc | rfl)
  · have h9 : c.toNat ≤ 57 := of_decide_eq_true (Bool.and_eq_true_iff.1 hc).2
    rcases Bool.or_eq_true_iff.1 h with h | h
    · have hA : 65 ≤ c.toNat := (of_decide_eq_true h).1
      omega
    · have ha : 97 ≤ c.toNat := of_decide_eq_true (Bool.and_eq_true_iff.1 h).1
      omega
  · exact absurd h (by decide)

/-- A plain character opens and closes nothing, and goes on with no name or unit. -/
theorem inert_of_isPlain {c : Char} (h : Binary64.IsPlain c) :
    c ∉ closers ∧ c.toLower ≠ 'u' ∧ c.toLower ≠ 'p' ∧ c.toLower ∉ "rl(px".toList := by
  have hwords : ∀ c ∈ ".-infNa".toList,
      c ∉ closers ∧ c.toLower ≠ 'u' ∧ c.toLower ≠ 'p' ∧ c.toLower ∉ "rl(px".toList :=
    List.all_iff_forall_prop.1 (by decide)
  rcases h with h | h
  · rw [IsNumeric.toLower_eq (.inl h)]
    refine ⟨not_mem_closers_of_isNumeric (.inl h), ?_, ?_, ?_⟩
    · rintro rfl
      exact absurd h (by decide)
    · rintro rfl
      exact absurd h (by decide)
    · intro hc
      have hletters : ∀ c ∈ "rl(px".toList, c.isDigit = false :=
        List.all_iff_forall_prop.1 (by decide)
      exact absurd h (by simp [hletters c hc])
  · exact hwords c h

/-- A plain number with a target unit after it is inert. -/
theorem IsTarget.inert_append {target t : List Char} (h : IsTarget target) (hne : t ≠ [])
    (ht : ∀ c ∈ t, Binary64.IsPlain c) : Inert (t ++ target) where
  not_special c hc := by
    rcases List.mem_append.1 hc with hc | hc
    · obtain ⟨h1, h2, h3, -⟩ := inert_of_isPlain (ht c hc)
      exact ⟨h1, h2, h3⟩
    · obtain ⟨ha, hp, hu⟩ := h.2 c hc
      exact ⟨not_mem_closers_of_isAlpha ha, hu, hp⟩
  head c hc := by
    rw [List.head?_append_of_ne_nil _ hne] at hc
    exact (inert_of_isPlain (ht c (List.mem_of_mem_head? hc))).2.2.2
  last := by
    have hlast := List.dropLast_append_getLast h.1
    refine ⟨t ++ target.dropLast, target.getLast h.1, by rw [List.append_assoc, hlast], ?_⟩
    exact not_isNumeric_of_isAlpha (h.2 _ (List.getLast_mem h.1)).1

end Target

namespace Conversion

/-- What a length is converted to is inert. -/
theorem inert_of_convert? {c : Conversion} {number target t : List Char} (htarget : IsTarget target)
    (h : c.convert? number target = some t) : Inert t := by
  obtain ⟨x, -, h⟩ := Option.bind_eq_some_iff.1 h
  split at h
  · contradiction
  · obtain rfl := Option.some.inj h
    exact htarget.inert_append (Binary64.format_plain_ne_nil _)
      fun _ => Binary64.isPlain_of_mem_format

/-- A second conversion of a value changes nothing. -/
theorem convertAll_convertAll (c : Conversion) {target : List Char} (h : IsTarget target)
    (value : List Char) :
    c.convertAll "px".toList target (c.convertAll "px".toList target value) =
      c.convertAll "px".toList target value := by
  obtain ⟨cut, rfl, hcut⟩ := Cut.exists_valid "px".toList value
  have hinert (n t : List Char) (hn : c.convert? n target = some t) := inert_of_convert? h hn
  -- the converted value is the text of a valid cut, so it is cut again in the same places
  have hvalid := Cut.valid_replaced hinert hcut
  calc c.convertAll "px".toList target (c.convertAll "px".toList target cut.text)
    _ = c.convertAll "px".toList target (cut.replaced (c.convert? · target)).text := by
      rw [Cut.text_replaced hcut]; rfl
    _ = ((cut.replaced (c.convert? · target)).replaced (c.convert? · target)).text :=
      (Cut.text_replaced hvalid).symm
    _ = (cut.replaced (c.convert? · target)).text := by rw [Cut.replaced_replaced]
    _ = c.convertAll "px".toList target cut.text := Cut.text_replaced hcut

end Conversion

end Viewport
