import Viewport.Proofs.Length.Scan

/-!
# The one way to cut a value

A cut divides a value into marks (quoted strings, `url(...)` calls, and numbers with the unit) and
the gaps between them. It is valid if every mark is one, and no mark could start at a character of
a gap. Every value has exactly one valid cut, and the lengths of the value are read off it.
-/

namespace Viewport

/-- A part of a value that is looked for. -/
inductive Mark where
  /-- A quoted string or a `url(...)` call. -/
  | sealed (text : List Char)
  | length (number unit : List Char)

namespace Mark

def text : Mark → List Char
  | .sealed t => t
  | .length n u => n ++ u

def piece : Mark → Piece
  | .sealed t => .sealed t
  | .length n u => .length n u

/-- What may stand before the rest of a value. A number is the longest with the unit after it. -/
def At (unit rest : List Char) : Mark → Prop
  | .sealed t => IsQuoted '"' t ∨ IsQuoted '\'' t ∨ IsUrl t
  | .length n u => IsNumber n ∧ Spells unit u ∧
    ∀ n', IsNumber n' → UnitAfter unit n' (n ++ (u ++ rest)) → n'.length ≤ n.length

/-- A mark is known by its piece. -/
theorem piece_injective : Function.Injective piece := by
  intro m m' h
  cases m <;> cases m' <;> simp_all [piece]

theorem piece_ne_plain (m : Mark) (x : Char) : m.piece ≠ .plain x := by
  cases m <;> simp [piece]

end Mark

/-- Some mark stands at the front of the text. -/
def Opens (unit text : List Char) : Prop :=
  ∃ (m : Mark) (rest : List Char), m.At unit rest ∧ text = m.text ++ rest

/-- No mark starts at a character of the gap. -/
def Closed (unit gap rest : List Char) : Prop :=
  ∀ a b, gap = a ++ b → b ≠ [] → ¬Opens unit (b ++ rest)

/-- A gap, and then a mark and what follows it, or nothing. -/
inductive Cut where
  | last (gap : List Char)
  | mark (gap : List Char) (m : Mark) (rest : Cut)

namespace Cut

def text : Cut → List Char
  | .last g => g
  | .mark g m c => g ++ (m.text ++ c.text)

def Valid (unit : List Char) : Cut → Prop
  | .last g => Closed unit g []
  | .mark g m c => Closed unit g (m.text ++ c.text) ∧ m.At unit c.text ∧ c.Valid unit

/-- The lengths among the marks of a cut that stands `start` bytes into a value. -/
def lengths (start : Nat) : Cut → List Length
  | .last _ => []
  | .mark g (.sealed t) c => c.lengths (start + byteSize g + byteSize t)
  | .mark g (.length n u) c =>
    ⟨n, u, start + byteSize g, start + byteSize g + byteSize (n ++ u)⟩ ::
      c.lengths (start + byteSize g + byteSize (n ++ u))

def pieces : Cut → List Piece
  | .last g => g.map .plain
  | .mark g m c => g.map .plain ++ m.piece :: c.pieces

/-- The cut with more text at the front of its first gap. -/
def prepend (t : List Char) : Cut → Cut
  | .last g => .last (t ++ g)
  | .mark g m c => .mark (t ++ g) m c

@[simp] theorem text_prepend (t : List Char) (c : Cut) : (c.prepend t).text = t ++ c.text := by
  cases c <;> simp [prepend, text]

theorem prepend_prepend (s t : List Char) (c : Cut) :
    (c.prepend t).prepend s = c.prepend (s ++ t) := by
  cases c <;> simp [prepend]

end Cut

section Front

variable {unit cs rest : List Char}

/-- A length is found exactly where its mark stands. -/
theorem lengthAt?_eq_some_iff {n u : List Char} :
    lengthAt? unit cs = some ⟨(n, u), rest⟩ ↔
      (Mark.length n u).At unit rest ∧ cs = n ++ (u ++ rest) := by
  have hfinds := finds_lengthAt? unit cs
  constructor
  · intro h
    obtain ⟨hn, hu, hcs⟩ := hfinds.sound _ h
    refine ⟨⟨hn, hu, fun n' hn' hu' => ?_⟩, hcs⟩
    obtain ⟨f, hf, hle⟩ := hfinds.complete n' hn' (hcs ▸ hu')
    rw [h] at hf
    rwa [← Option.some.inj hf] at hle
  · rintro ⟨⟨hn, hu, hmax⟩, hcs⟩
    obtain ⟨⟨⟨n', u'⟩, rest'⟩, hf, hle⟩ := hfinds.complete n hn ⟨u, rest, hu, hcs⟩
    obtain ⟨hn', hu', hcs'⟩ := hfinds.sound _ hf
    have hge := hmax n' hn' ⟨u', rest', hu', hcs ▸ hcs'⟩
    obtain ⟨rfl, h⟩ := List.append_inj (hcs.symm.trans hcs') (Nat.le_antisymm hle hge)
    obtain ⟨rfl, rfl⟩ := hu.eq_of_append_eq hu' h
    exact hf

/-- What starts with a digit or a point is no quoted string and no `url(...)` call. -/
theorem IsNumber.pieceAt?_eq {n : List Char} (h : IsNumber n) (text : List Char) :
    pieceAt? unit (n ++ text) =
      (lengthAt? unit (n ++ text)).map (.map fun (n, u) => .length n u) := by
  cases n with
  | nil => exact absurd h not_isNumber_nil
  | cons c n =>
    rcases isNumber_cons.1 h with ⟨rfl, -⟩ | ⟨hc, -⟩
    · have hu : sameFold 'u' '.' = false := by decide
      simp [pieceAt?, quotedAt?, urlAt?, wordAt?, hu]
    · exact pieceAt?_of_isDigit hc _

/-- A `url(...)` call does not start with a quote. -/
theorem IsUrl.quotedAt?_eq_none {t : List Char} (h : IsUrl t) (rest : List Char) :
    quotedAt? (t ++ rest) = none := by
  obtain ⟨word, body, hw, -, rfl⟩ := h
  cases word with
  | nil => simp at hw
  | cons c word =>
    have hc : c.toLower = 'u' := (List.cons.inj hw).1
    have h1 : c ≠ '"' := by rintro rfl; exact absurd hc (by decide)
    have h2 : c ≠ '\'' := by rintro rfl; exact absurd hc (by decide)
    simp [quotedAt?, h1, h2]

/-- What is found at the front of a text is the one mark that stands there. -/
theorem pieceAt?_eq_some_iff {m : Mark} :
    pieceAt? unit cs = some ⟨m.piece, rest⟩ ↔ m.At unit rest ∧ cs = m.text ++ rest := by
  constructor
  · intro h
    unfold pieceAt? at h
    split at h
    · rename_i found hq
      obtain ⟨hv, hcs⟩ := quotedAt?_eq_some_iff.1 hq
      obtain ⟨v, r⟩ := found
      cases m with
      | sealed t =>
        obtain ⟨rfl, rfl⟩ : v = t ∧ r = rest := by simpa [Found.map, Mark.piece] using h
        exact ⟨or_assoc.1 (.inl hv), hcs⟩
      | length n u => simp [Found.map, Mark.piece] at h
    · split at h
      · rename_i found hl
        obtain ⟨hv, hcs⟩ := urlAt?_eq_some_iff.1 hl
        obtain ⟨v, r⟩ := found
        cases m with
        | sealed t =>
          obtain ⟨rfl, rfl⟩ : v = t ∧ r = rest := by simpa [Found.map, Mark.piece] using h
          exact ⟨.inr (.inr hv), hcs⟩
        | length n u => simp [Found.map, Mark.piece] at h
      · obtain ⟨⟨⟨n', u'⟩, r⟩, hl, h⟩ := Option.map_eq_some_iff.1 h
        cases m with
        | sealed t => simp [Found.map, Mark.piece] at h
        | length n u =>
          obtain ⟨⟨rfl, rfl⟩, rfl⟩ : (n' = n ∧ u' = u) ∧ r = rest := by
            simpa [Found.map, Mark.piece] using h
          obtain ⟨hat, hcs⟩ := lengthAt?_eq_some_iff.1 hl
          exact ⟨hat, by rw [hcs, Mark.text, List.append_assoc]⟩
  · rintro ⟨hat, rfl⟩
    cases m with
    | length n u =>
      have hl : lengthAt? unit (n ++ (u ++ rest)) = some ⟨(n, u), rest⟩ :=
        lengthAt?_eq_some_iff.2 ⟨hat, rfl⟩
      rw [Mark.text, List.append_assoc, hat.1.pieceAt?_eq, hl]
      rfl
    | sealed t =>
      rcases or_assoc.2 hat with hq | hl
      · have hfound : quotedAt? (t ++ rest) = some ⟨t, rest⟩ :=
          quotedAt?_eq_some_iff.2 ⟨hq, rfl⟩
        simp [pieceAt?, Mark.text, hfound, Found.map, Mark.piece]
      · have hfound : urlAt? (t ++ rest) = some ⟨t, rest⟩ := urlAt?_eq_some_iff.2 ⟨hl, rfl⟩
        simp [pieceAt?, Mark.text, hl.quotedAt?_eq_none, hfound, Found.map, Mark.piece]

/-- Only marks are found. -/
theorem exists_mark_of_pieceAt? {found : Found Piece} (h : pieceAt? unit cs = some found) :
    ∃ m : Mark, found = ⟨m.piece, found.rest⟩ := by
  unfold pieceAt? at h
  split at h
  · rename_i f _
    obtain rfl := Option.some.inj h
    exact ⟨.sealed f.value, rfl⟩
  · split at h
    · rename_i f _
      obtain rfl := Option.some.inj h
      exact ⟨.sealed f.value, rfl⟩
    · obtain ⟨f, -, rfl⟩ := Option.map_eq_some_iff.1 h
      exact ⟨.length f.value.1 f.value.2, rfl⟩

/-- Nothing is found exactly where no mark starts. -/
theorem not_opens_iff : ¬Opens unit cs ↔ pieceAt? unit cs = none := by
  rw [Option.eq_none_iff_forall_ne_some]
  constructor
  · intro h found hf
    obtain ⟨m, hm⟩ := exists_mark_of_pieceAt? hf
    rw [hm] at hf
    exact h ⟨m, found.rest, pieceAt?_eq_some_iff.1 hf⟩
  · rintro h ⟨m, rest, hm⟩
    exact h _ (pieceAt?_eq_some_iff.2 hm)

end Front

section Gap

variable {unit t g rest : List Char}

theorem closed_nil : Closed unit [] rest := by
  intro a b h hb
  exact absurd (List.append_eq_nil_iff.1 h.symm).2 hb

theorem closed_cons {x : Char} :
    Closed unit (x :: g) rest ↔ ¬Opens unit (x :: (g ++ rest)) ∧ Closed unit g rest := by
  constructor
  · intro h
    refine ⟨h [] (x :: g) rfl (List.cons_ne_nil x g), fun a b hg hb => ?_⟩
    exact h (x :: a) b (by rw [hg, List.cons_append]) hb
  · rintro ⟨hx, h⟩ a b hg hb
    cases a with
    | nil =>
      obtain rfl : x :: g = b := hg
      exact hx
    | cons y a => exact h a b (List.cons.inj hg).2 hb

/-- A gap in two parts, the first of which is closed before the second. -/
theorem closed_append :
    Closed unit (t ++ g) rest ↔ Closed unit t (g ++ rest) ∧ Closed unit g rest := by
  induction t with
  | nil => simp [closed_nil]
  | cons x t ih => rw [List.cons_append, closed_cons, closed_cons, ih, List.append_assoc, and_assoc]

/-- The characters of a gap are plain pieces. -/
theorem pieces_of_closed (h : Closed unit g rest) :
    pieces unit (g ++ rest) = g.map .plain ++ pieces unit rest := by
  induction g with
  | nil => rfl
  | cons x g ih =>
    obtain ⟨hx, hg⟩ := closed_cons.1 h
    rw [List.cons_append, pieces_of_none (not_opens_iff.1 hx), ih hg, List.map_cons,
      List.cons_append]

end Gap

namespace Cut

variable {unit : List Char}

/-- A valid cut stays one with more text in its first gap in which no mark starts. -/
theorem valid_prepend {t : List Char} {c : Cut} :
    (c.prepend t).Valid unit ↔ Closed unit t c.text ∧ c.Valid unit := by
  cases c with
  | last g => rw [prepend, Valid, closed_append, List.append_nil, text, Valid]
  | mark g m c => rw [prepend, Valid, closed_append, text, Valid, and_assoc]

/-- A valid cut has the pieces that its text is cut into. -/
theorem pieces_text {c : Cut} (h : c.Valid unit) : Viewport.pieces unit c.text = c.pieces := by
  induction c with
  | last g =>
    have hg := pieces_of_closed h
    rw [List.append_nil] at hg
    rw [text, hg, pieces, Viewport.pieces, List.append_nil]
  | mark g m c ih =>
    obtain ⟨hg, hm, hc⟩ := h
    have hfound : pieceAt? unit (m.text ++ c.text) = some ⟨m.piece, c.text⟩ :=
      pieceAt?_eq_some_iff.2 ⟨hm, rfl⟩
    rw [text, pieces_of_closed hg, pieces_of_some hfound, ih hc, pieces]

/-- The plain pieces of a first gap end where the first piece of another kind stands. -/
theorem map_plain_append_inj {g g' : List Char} {m m' : Mark} {ps ps' : List Piece}
    (h : g.map Piece.plain ++ m.piece :: ps = g'.map .plain ++ m'.piece :: ps') :
    g = g' ∧ m = m' ∧ ps = ps' := by
  induction g generalizing g' with
  | nil =>
    cases g' with
    | nil =>
      obtain ⟨hm, hps⟩ := List.cons.inj h
      exact ⟨rfl, Mark.piece_injective hm, hps⟩
    | cons y g' => exact absurd (List.cons.inj h).1 (m.piece_ne_plain y)
  | cons x g ih =>
    cases g' with
    | nil => exact absurd (List.cons.inj h).1.symm (m'.piece_ne_plain x)
    | cons y g' =>
      obtain ⟨hx, h⟩ := List.cons.inj h
      obtain ⟨rfl, rfl, rfl⟩ := ih h
      exact ⟨congrArg (· :: g) (Piece.plain.inj hx), rfl, rfl⟩

/-- A cut with a mark has a piece that is not plain. -/
theorem pieces_last_ne (g g' : List Char) (m : Mark) (c : Cut) :
    (Cut.last g).pieces ≠ (Cut.mark g' m c).pieces := by
  intro h
  have hmem : m.piece ∈ g.map Piece.plain := by
    rw [← pieces, h, pieces]
    exact List.mem_append_right _ List.mem_cons_self
  obtain ⟨x, -, hx⟩ := List.mem_map.1 hmem
  exact m.piece_ne_plain x hx.symm

/-- A cut is known by its pieces. -/
theorem pieces_injective : Function.Injective pieces := by
  intro c
  induction c with
  | last g =>
    intro c' h
    cases c' with
    | last g' => exact congrArg last (List.map_injective_iff.2 (fun _ _ => Piece.plain.inj) h)
    | mark g' m' c' => exact absurd h (pieces_last_ne g g' m' c')
  | mark g m c ih =>
    intro c' h
    cases c' with
    | last g' => exact absurd h.symm (pieces_last_ne g' g m c)
    | mark g' m' c' =>
      obtain ⟨rfl, rfl, hc⟩ := map_plain_append_inj h
      exact congrArg (mark g m) (ih hc)

/-- Every value has a valid cut. -/
theorem exists_valid (unit value : List Char) : ∃ c : Cut, c.text = value ∧ c.Valid unit := by
  induction hn : value.length using Nat.strongRecOn generalizing value with
  | ind n ih =>
    subst hn
    cases value with
    | nil => exact ⟨.last [], rfl, closed_nil⟩
    | cons x cs =>
      cases hf : pieceAt? unit (x :: cs) with
      | some found =>
        obtain ⟨m, hm⟩ := exists_mark_of_pieceAt? hf
        obtain ⟨c, hc, hvalid⟩ := ih _ (pieceAt?_length hf) found.rest rfl
        rw [hm, ← hc] at hf
        obtain ⟨hat, htext⟩ := pieceAt?_eq_some_iff.1 hf
        exact ⟨.mark [] m c, htext.symm, closed_nil, hat, hvalid⟩
      | none =>
        obtain ⟨c, hc, hvalid⟩ := ih _ (Nat.lt_succ_self _) cs rfl
        refine ⟨c.prepend [x], by rw [text_prepend, hc, List.singleton_append], ?_⟩
        refine valid_prepend.2 ⟨closed_cons.2 ⟨?_, closed_nil⟩, hvalid⟩
        rw [List.nil_append, hc]
        exact not_opens_iff.2 hf

theorem ofPieces_map_plain (start : Nat) (g : List Char) (ps : List Piece) :
    Length.ofPieces start (g.map .plain ++ ps) = Length.ofPieces (start + byteSize g) ps := by
  induction g generalizing start with
  | nil => rfl
  | cons x g ih =>
    rw [byteSize, ← Nat.add_assoc, ← ih]
    rfl

/-- The lengths among the pieces of a cut are those of the cut. -/
theorem ofPieces_pieces (start : Nat) (c : Cut) :
    Length.ofPieces start c.pieces = c.lengths start := by
  induction c generalizing start with
  | last g =>
    have h := ofPieces_map_plain start g []
    rwa [List.append_nil] at h
  | mark g m c ih =>
    rw [pieces, ofPieces_map_plain]
    cases m with
    | sealed t => exact ih _
    | length n u => exact congrArg (List.cons _) (ih _)

end Cut

/-- Every value has exactly one valid cut, and its lengths are those of the cut. -/
theorem existsUnique_cut (unit value : List Char) :
    ∃ c : Cut, (c.text = value ∧ c.Valid unit) ∧
      (∀ c' : Cut, c'.text = value → c'.Valid unit → c' = c) ∧
      lengths unit value = c.lengths 0 := by
  obtain ⟨c, rfl, hc⟩ := Cut.exists_valid unit value
  refine ⟨c, ⟨rfl, hc⟩, fun c' htext hc' => ?_, ?_⟩
  · apply Cut.pieces_injective
    rw [← Cut.pieces_text hc, ← Cut.pieces_text hc', htext]
  · rw [lengths, Cut.pieces_text hc, Cut.ofPieces_pieces]

end Viewport
