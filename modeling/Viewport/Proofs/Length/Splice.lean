import Viewport.Proofs.Length.Reading
import Viewport.Proofs.Text.Bytes

/-!
# Replacing the lengths of a value

The lengths of a value stand one after the other, with text between them. The loop over their places
copies that text and puts what the action returns between, so nothing but the lengths is replaced,
no cut fails, and the action sees each length once, as it is in the value from the start.
-/

namespace Viewport

/-! ## Lengths and the gaps between them -/

/-- Texts in turn, each behind its gap, and the text after the last of them. -/
def weave : (gaps texts : List (List Char)) → (last : List Char) → List Char
  | g :: gs, t :: ts, last => g ++ (t ++ weave gs ts last)
  | _, _, last => last

/-- From the place `start` on, each length begins where its gap ends, and the next gap begins where
the length ends. -/
inductive Placed : (start : Nat) → (gaps : List (List Char)) → List Length → Prop
  | nil (start : Nat) : Placed start [] []
  | cons {start : Nat} {g : List Char} {l : Length} {gs : List (List Char)} {ls : List Length} :
    l.start = start + byteSize g → l.stop = l.start + byteSize l.text → Placed l.stop gs ls →
    Placed start (g :: gs) (l :: ls)

namespace Placed

variable {start : Nat} {gaps : List (List Char)} {ls : List Length}

/-- More text in front belongs to the first gap, or to the text after the last length. -/
theorem prepend {t : List Char} (h : Placed (start + byteSize t) gaps ls) (last : List Char) :
    ∃ gaps' last', Placed start gaps' ls ∧ ∀ texts : List (List Char), texts.length = ls.length →
      weave gaps' texts last' = t ++ weave gaps texts last := by
  cases h with
  | nil => exact ⟨[], t ++ last, .nil start, fun _ _ => rfl⟩
  | @cons _ g l gs ls hstart hstop hrest =>
    refine ⟨(t ++ g) :: gs, last, .cons ?_ hstop hrest, ?_⟩
    · rw [hstart, byteSize_append, Nat.add_assoc]
    · intro texts htexts
      obtain ⟨x, xs, rfl⟩ := List.exists_cons_of_length_eq_add_one htexts
      simp only [weave, List.append_assoc]

theorem start_le (h : Placed start gaps ls) {l : Length} (hl : l ∈ ls) :
    start ≤ l.start ∧ l.start ≤ l.stop := by
  induction h with
  | nil => cases hl
  | cons hstart hstop hrest ih =>
    obtain rfl | hl := List.mem_cons.1 hl
    · omega
    · have := ih hl
      omega

/-- Each length starts at or after the end of those before it. -/
theorem pairwise (h : Placed start gaps ls) : ls.Pairwise fun l l' => l.stop ≤ l'.start := by
  induction h with
  | nil => exact .nil
  | cons _ _ hrest ih => exact .cons (fun l' hl' => (hrest.start_le hl').1) ih

/-- Between the places of a length stands its text. -/
theorem slice?_eq (h : Placed start gaps ls) {done last : List Char} (hdone : byteSize done = start)
    {l : Length} (hl : l ∈ ls) :
    slice? l.start l.stop (done ++ weave gaps (ls.map Length.text) last) = some l.text := by
  induction h generalizing done with
  | nil => cases hl
  | @cons start g k gs ls hstart hstop hrest ih =>
    obtain rfl | hl := List.mem_cons.1 hl
    · refine slice?_eq_some_iff.2
        ⟨done ++ g, weave gs (ls.map Length.text) last, ?_, ?_, hstop.symm⟩
      · simp only [List.map_cons, weave, List.append_assoc]
      · rw [byteSize_append, hdone, hstart]
    · have hpast : byteSize (done ++ (g ++ k.text)) = k.stop := by
        rw [byteSize_append, byteSize_append, hdone, hstop, hstart, Nat.add_assoc]
      have h := ih hpast hl
      simpa only [List.map_cons, weave, List.append_assoc] using h

/-- The loop has copied the gaps and the results so far, and goes on behind the length it has
done. -/
theorem spliceFrom_eq {m : Type → Type} [Monad m] [LawfulMonad m] (f : Length → m (List Char))
    (h : Placed start gaps ls) {value done last : List Char} (out : List Char)
    (hvalue : value = done ++ weave gaps (ls.map Length.text) last)
    (hdone : byteSize done = start) :
    spliceFrom f value out start ls =
      (fun texts => some (out ++ weave gaps texts last)) <$> ls.mapM f := by
  induction h generalizing done out with
  | nil start =>
    have hslice : slice? start (byteSize value) value = some last := by
      refine slice?_eq_some_iff.2 ⟨done, [], ?_, hdone, ?_⟩
      · rw [hvalue, List.append_nil]; rfl
      · rw [hvalue, byteSize_append, hdone]; rfl
    rw [spliceFrom, hslice, List.mapM_nil, map_pure]
    rfl
  | @cons start g l gs ls hstart hstop hrest ih =>
    have hslice : slice? start l.start value = some g :=
      slice?_eq_some_iff.2 ⟨done, _, hvalue, hdone, hstart.symm⟩
    have hnext : value = (done ++ (g ++ l.text)) ++ weave gs (ls.map Length.text) last := by
      rw [hvalue]
      simp only [List.map_cons, weave, List.append_assoc]
    have hpast : byteSize (done ++ (g ++ l.text)) = l.stop := by
      rw [byteSize_append, byteSize_append, hdone, hstop, hstart, Nat.add_assoc]
    rw [spliceFrom, hslice, List.mapM_cons, map_bind]
    refine bind_congr fun text => ?_
    rw [ih (out ++ g ++ text) hnext hpast]
    simp only [bind_pure_comp, weave, List.append_assoc, Functor.map_map]

end Placed

/-! ## The pieces of a value -/

/-- The text that stands for a piece when lengths are replaced. -/
def Piece.replaced (replace : List Char → List Char → List Char) : Piece → List Char
  | .length n u => replace n u
  | p => p.text

theorem replaceLengths_eq_flatMap (unit : List Char)
    (replace : List Char → List Char → List Char) (value : List Char) :
    replaceLengths unit replace value = (pieces unit value).flatMap (Piece.replaced replace) :=
  rfl

theorem Cut.flatMap_text_pieces (c : Cut) : c.pieces.flatMap Piece.text = c.text := by
  have hplain (g : List Char) : (g.map Piece.plain).flatMap Piece.text = g := by
    induction g with
    | nil => rfl
    | cons x g ih => rw [List.map_cons, List.flatMap_cons, ih]; rfl
  induction c with
  | last g => exact hplain g
  | mark g m c ih =>
    rw [pieces, List.flatMap_append, hplain, List.flatMap_cons, ih, text]
    cases m <;> rfl

/-- Nothing of a value is lost when it is cut into pieces. -/
theorem flatMap_text_pieces (unit value : List Char) :
    (pieces unit value).flatMap Piece.text = value := by
  obtain ⟨c, rfl, hc⟩ := Cut.exists_valid unit value
  rw [Cut.pieces_text hc, Cut.flatMap_text_pieces]

/-- The lengths among pieces have gaps between them, which are kept whatever replaces the
lengths. -/
theorem exists_placed_ofPieces (start : Nat) (ps : List Piece) :
    ∃ gaps last, Placed start gaps (Length.ofPieces start ps) ∧
      ∀ replace : List Char → List Char → List Char, ps.flatMap (Piece.replaced replace) =
        weave gaps ((Length.ofPieces start ps).map fun l => replace l.number l.unit) last := by
  induction ps generalizing start with
  | nil => exact ⟨[], [], .nil start, fun _ => rfl⟩
  | cons p ps ih =>
    obtain ⟨gaps, last, hplaced, hweave⟩ := ih (start + byteSize p.text)
    -- a piece of another kind is text in front of the lengths that follow
    have hkept (hp : ∀ replace, Piece.replaced replace p = p.text)
        (hls : Length.ofPieces start (p :: ps) =
          Length.ofPieces (start + byteSize p.text) ps) :
        ∃ gaps last, Placed start gaps (Length.ofPieces start (p :: ps)) ∧
          ∀ replace : List Char → List Char → List Char,
            (p :: ps).flatMap (Piece.replaced replace) =
              weave gaps ((Length.ofPieces start (p :: ps)).map fun l => replace l.number l.unit)
                last := by
      obtain ⟨gaps', last', hplaced', hweave'⟩ := hplaced.prepend last
      rw [hls]
      refine ⟨gaps', last', hplaced', fun replace => ?_⟩
      rw [List.flatMap_cons, hp, hweave, hweave' _ (List.length_map _)]
    cases p with
    | plain c => exact hkept (fun _ => rfl) rfl
    | sealed t => exact hkept (fun _ => rfl) rfl
    | length n u =>
      refine ⟨[] :: gaps, last, .cons rfl rfl hplaced, fun replace => ?_⟩
      rw [List.flatMap_cons, hweave]
      rfl

theorem Piece.replaced_append : Piece.replaced (· ++ ·) = Piece.text := by
  funext p
  cases p <;> rfl

/-- What replaces a length by itself changes nothing. -/
theorem replaceLengths_append (unit value : List Char) :
    replaceLengths unit (· ++ ·) value = value := by
  rw [replaceLengths_eq_flatMap, Piece.replaced_append, flatMap_text_pieces]

/-- The lengths of a value with their gaps, which stay when the lengths are replaced. -/
theorem exists_placed (unit value : List Char) :
    ∃ gaps last, Placed 0 gaps (lengths unit value) ∧
      weave gaps ((lengths unit value).map Length.text) last = value ∧
      ∀ replace : List Char → List Char → List Char, replaceLengths unit replace value =
        weave gaps ((lengths unit value).map fun l => replace l.number l.unit) last := by
  obtain ⟨gaps, last, hplaced, hweave⟩ := exists_placed_ofPieces 0 (pieces unit value)
  have hvalue := (hweave (· ++ ·)).symm.trans (replaceLengths_append unit value)
  exact ⟨gaps, last, hplaced, hvalue, hweave⟩

/-- What replaces the lengths of a value is asked for nothing else. -/
theorem replaceLengths_congr {unit value : List Char} {f g : List Char → List Char → List Char}
    (h : ∀ l ∈ lengths unit value, f l.number l.unit = g l.number l.unit) :
    replaceLengths unit f value = replaceLengths unit g value := by
  obtain ⟨gaps, last, -, -, hweave⟩ := exists_placed unit value
  rw [hweave, hweave, List.map_congr_left h]

theorem slice?_of_mem_lengths {unit value : List Char} {l : Length} (hl : l ∈ lengths unit value) :
    slice? l.start l.stop value = some l.text := by
  obtain ⟨gaps, last, hplaced, hvalue, -⟩ := exists_placed unit value
  have h : slice? l.start l.stop ([] ++ weave gaps _ last) = some l.text := hplaced.slice?_eq rfl hl
  rwa [List.nil_append, hvalue] at h

/-- The lengths of a value are in its bytes one after the other: each takes up at least one byte,
ends within the value, starts at or after the end of those before it, and has its text, which begins
with its number, between its two places, so that characters end at both. The loop over the places
never fails to cut. It calls the action once for each length of the original value, in order, with
the state handed on from call to call, and gives the value with the results in place of the lengths
and the gaps between them as they have been. So do the replacements by number and unit; a length
replaced by itself changes nothing. -/
theorem run_spliceLengths {σ : Type} (unit value : List Char) :
    ∃ gaps last, Placed 0 gaps (lengths unit value) ∧
      weave gaps ((lengths unit value).map Length.text) last = value ∧
      (∀ l ∈ lengths unit value, l.start < l.stop ∧ l.stop ≤ byteSize value ∧
        slice? l.start l.stop value = some l.text ∧ l.number <+: l.text) ∧
      (lengths unit value).Pairwise (fun l l' => l.stop ≤ l'.start) ∧
      (∀ (f : Length → StateM σ (List Char)) (s : σ),
        (spliceLengths f unit value).run s =
          (some (weave gaps (((lengths unit value).mapM f).run s).1 last),
            (((lengths unit value).mapM f).run s).2)) ∧
      (∀ replace : List Char → List Char → List Char, replaceLengths unit replace value =
        weave gaps ((lengths unit value).map fun l => replace l.number l.unit) last) ∧
      replaceLengths unit (· ++ ·) value = value := by
  obtain ⟨gaps, last, hplaced, hvalue, hweave⟩ := exists_placed unit value
  refine ⟨gaps, last, hplaced, hvalue, fun l hl => ?_, hplaced.pairwise, fun f s => ?_, hweave,
    replaceLengths_append unit value⟩
  · have hslice := slice?_of_mem_lengths hl
    obtain ⟨s, rest, htext, hs, hstop⟩ := slice?_eq_some_iff.1 hslice
    have hpos : 0 < byteSize l.text := by
      refine byteSize_pos (List.append_ne_nil_of_left_ne_nil ?_ _)
      intro h
      exact not_isNumber_nil (h ▸ isNumber_of_mem_lengths hl)
    refine ⟨by omega, ?_, hslice, List.prefix_append _ _⟩
    rw [htext, byteSize_append, byteSize_append]
    omega
  · have hvalue' : value = [] ++ weave gaps ((lengths unit value).map Length.text) last :=
      hvalue.symm
    rw [spliceLengths, hplaced.spliceFrom_eq f [] hvalue' rfl]
    rfl

end Viewport
