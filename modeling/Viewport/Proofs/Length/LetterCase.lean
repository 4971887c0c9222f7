import Viewport.Proofs.Length.Stable
import Viewport.Proofs.Text.Bytes

/-!
# Letter case

The case of ASCII letters has no part in where lengths are found. A value in lower case is cut as
the value is: each function that looks for something finds it at the same place, with a unit in
lower case as with the unit itself. So two values that differ in the case of ASCII letters only
have their lengths at the same places, though letters elsewhere fold with ASCII ones.
-/

namespace Viewport

/-- The text with its ASCII letters in lower case. -/
def lowered (cs : List Char) : List Char := cs.map Char.toLower

@[simp] theorem lowered_nil : lowered [] = [] := rfl

@[simp] theorem lowered_cons (c : Char) (cs : List Char) :
    lowered (c :: cs) = c.toLower :: lowered cs := rfl

@[simp] theorem lowered_append (s t : List Char) : lowered (s ++ t) = lowered s ++ lowered t :=
  List.map_append

/-- Texts that differ only in the case of ASCII letters. -/
def SameLetters (s t : List Char) : Prop := lowered s = lowered t

instance (s t : List Char) : Decidable (SameLetters s t) := inferInstanceAs (Decidable (_ = _))

section Character

variable {b c : Char}

/-- Folding does not see the case of ASCII letters. -/
theorem sameFold_toLower_toLower (w c : Char) : sameFold w.toLower c.toLower = sameFold w c := by
  rw [Bool.eq_iff_iff, sameFold_iff_foldCode_eq, sameFold_iff_foldCode_eq, foldCode_toLower,
    foldCode_toLower]

theorem IsCaseless.toLower_eq_self (h : IsCaseless b) : b.toLower = b :=
  h.sameFold_iff.1 ((sameFold_comm b b.toLower).trans (sameFold_toLower b))

/-- No other character becomes one without letter cases. -/
theorem IsCaseless.toLower_eq_iff (h : IsCaseless b) : c.toLower = b ↔ c = b := by
  constructor
  · rintro rfl
    exact h.sameFold_iff.1 (sameFold_toLower c)
  · rintro rfl
    exact h.toLower_eq_self

/-- A letter is no digit in either case. -/
theorem isDigit_toLower (c : Char) : c.toLower.isDigit = c.isDigit :=
  toLower_cases (P := fun c l => l.isDigit = c.isDigit) (by decide) (fun _ => rfl) c

/-- Both cases of an ASCII letter take one byte. -/
theorem utf8Size_toLower (c : Char) : c.toLower.utf8Size = c.utf8Size :=
  toLower_cases (P := fun c l => l.utf8Size = c.utf8Size) (by decide) (fun _ => rfl) c

theorem byteSize_lowered (s : List Char) : byteSize (lowered s) = byteSize s := by
  induction s with
  | nil => rfl
  | cons c s ih => rw [lowered_cons, byteSize, utf8Size_toLower, ih, byteSize]

end Character

/-- What is found in a text in lower case, for what is found in the text itself. -/
def Found.lower {α : Type} (g : α → α) (x : Found α) : Found α := ⟨g x.value, lowered x.rest⟩

/-- A number and a unit, with the unit in lower case. -/
def lowerUnit (x : List Char × List Char) : List Char × List Char := (x.1, lowered x.2)

def Piece.lower : Piece → Piece
  | .plain c => .plain c.toLower
  | .sealed t => .sealed (lowered t)
  | .length n u => .length n (lowered u)

def Length.lower (l : Length) : Length := { l with unit := lowered l.unit }

section Front

variable (unit : List Char)

/-- A word is found in a text whatever its case. -/
theorem wordAt?_lowered (w cs : List Char) :
    wordAt? (lowered w) (lowered cs) = (wordAt? w cs).map (.lower lowered) := by
  induction w generalizing cs with
  | nil => rfl
  | cons a w ih =>
    cases cs with
    | nil => rfl
    | cons c cs =>
      rw [lowered_cons, lowered_cons, wordAt?, wordAt?, sameFold_toLower_toLower, ih]
      split
      · rw [Option.map_map, Option.map_map]
        rfl
      · rfl

/-- The same body is found in a text in lower case, for what closes it has no letter case. -/
theorem bodyAt?_lowered {close : Char} (h : IsCaseless close) (cs : List Char) :
    bodyAt? close (lowered cs) = (bodyAt? close cs).map (.lower lowered) := by
  induction cs with
  | nil => rfl
  | cons c cs ih =>
    cases cs with
    | nil => simp [bodyAt?]
    | cons d rest =>
      rw [lowered_cons] at ih ⊢
      rw [lowered_cons, bodyAt?, bodyAt?, ih]
      simp only [h.toLower_eq_iff]
      split
      · rfl
      · split
        · rfl
        · rw [Option.map_map, Option.map_map]
          rfl

theorem quotedAt?_lowered (cs : List Char) :
    quotedAt? (lowered cs) = (quotedAt? cs).map (.lower lowered) := by
  have hdouble : IsCaseless '"' := by decide
  have hsingle : IsCaseless '\'' := by decide
  cases cs with
  | nil => rfl
  | cons c cs =>
    rw [lowered_cons, quotedAt?, quotedAt?]
    simp only [hdouble.toLower_eq_iff, hsingle.toLower_eq_iff]
    split
    · rename_i hc
      have hcaseless : IsCaseless c := by rcases hc with rfl | rfl <;> assumption
      rw [hcaseless.toLower_eq_self, bodyAt?_lowered hcaseless, Option.map_map, Option.map_map]
      congr 1
      funext f
      simp [Found.lower, Found.map, hcaseless.toLower_eq_self]
    · rfl

theorem urlAt?_lowered (cs : List Char) :
    urlAt? (lowered cs) = (urlAt? cs).map (.lower lowered) := by
  have hword : lowered "url(".toList = "url(".toList := by decide
  have hclose : IsCaseless ')' := by decide
  have hopening := wordAt?_lowered "url(".toList cs
  rw [hword] at hopening
  rw [urlAt?, urlAt?, hopening]
  cases wordAt? "url(".toList cs with
  | none => rfl
  | some opening =>
    simp only [Option.map_some, Option.bind_some, Found.lower, bodyAt?_lowered hclose,
      Option.map_map]
    congr 1
    funext f
    simp [Found.map, Found.lower]

/-- The same digits are found with the unit in lower case. -/
theorem digitsAt?_lowered (cs : List Char) :
    digitsAt? (lowered unit) (lowered cs) = (digitsAt? unit cs).map (.lower lowerUnit) := by
  induction cs with
  | nil => rfl
  | cons c cs ih =>
    rw [lowered_cons, digitsAt?, digitsAt?, isDigit_toLower, ih, wordAt?_lowered]
    split
    · rename_i hc
      rw [IsNumeric.toLower_eq (.inl hc)]
      cases digitsAt? unit cs with
      | some found => rfl
      | none =>
        simp only [Option.map_none, Option.map_map]
        rfl
    · rfl

/-- The same length is found with the unit in lower case. -/
theorem lengthAt?_lowered (cs : List Char) :
    lengthAt? (lowered unit) (lowered cs) = (lengthAt? unit cs).map (.lower lowerUnit) := by
  have hpoint : IsCaseless '.' := by decide
  induction cs with
  | nil => rfl
  | cons c cs ih =>
    rw [lowered_cons, lengthAt?, lengthAt?, ih, wordAt?_lowered, digitsAt?_lowered]
    simp only [hpoint.toLower_eq_iff, isDigit_toLower]
    split
    · rename_i hc
      rw [IsNumeric.toLower_eq (.inr hc), Option.map_map, Option.map_map]
      rfl
    · split
      · rename_i hc
        rw [IsNumeric.toLower_eq (.inl hc)]
        cases lengthAt? unit cs with
        | some found => rfl
        | none =>
          simp only [Option.map_none, Option.map_map]
          rfl
      · rfl

/-- The same piece is found with the unit in lower case. -/
theorem pieceAt?_lowered (cs : List Char) :
    pieceAt? (lowered unit) (lowered cs) = (pieceAt? unit cs).map (.lower Piece.lower) := by
  rw [pieceAt?, pieceAt?, quotedAt?_lowered, urlAt?_lowered, lengthAt?_lowered]
  cases quotedAt? cs with
  | some found => rfl
  | none =>
    cases urlAt? cs with
    | some found => rfl
    | none =>
      simp only [Option.map_none, Option.map_map]
      rfl

end Front

/-- A value in lower case has the pieces of the value, in lower case. -/
theorem pieces_lowered (unit cs : List Char) :
    pieces (lowered unit) (lowered cs) = (pieces unit cs).map .lower := by
  induction hn : cs.length using Nat.strongRecOn generalizing cs with
  | ind n ih =>
    subst hn
    cases cs with
    | nil => simp [pieces]
    | cons c cs =>
      have hlow := pieceAt?_lowered unit (c :: cs)
      cases h : pieceAt? unit (c :: cs) with
      | some found =>
        rw [h, Option.map_some] at hlow
        have hrest := ih _ (pieceAt?_length h) found.rest rfl
        rw [pieces_of_some h, pieces_of_some hlow, List.map_cons, ← hrest]
        rfl
      | none =>
        rw [h, Option.map_none, lowered_cons] at hlow
        have hrest := ih _ (Nat.lt_succ_self _) cs rfl
        rw [lowered_cons, pieces_of_none h, pieces_of_none hlow, List.map_cons, ← hrest]
        rfl

theorem Piece.byteSize_lower (p : Piece) : byteSize p.lower.text = byteSize p.text := by
  cases p with
  | plain c => exact byteSize_lowered [c]
  | sealed t => exact byteSize_lowered t
  | length n u => rw [lower, text, text, byteSize_append, byteSize_append, byteSize_lowered]

/-- Lengths stay where they are in lower case. -/
theorem Length.ofPieces_lower (start : Nat) (ps : List Piece) :
    ofPieces start (ps.map .lower) = (ofPieces start ps).map lower := by
  induction ps generalizing start with
  | nil => rfl
  | cons p ps ih =>
    have hstop : start + byteSize p.lower.text = start + byteSize p.text := by
      rw [p.byteSize_lower]
    have hrest : ofPieces (start + byteSize p.lower.text) (ps.map .lower) =
        (ofPieces (start + byteSize p.text) ps).map lower := by
      rw [hstop, ih]
    cases p with
    | plain c => exact hrest
    | sealed t => exact hrest
    | length n u => exact congrArg₂ List.cons (congrArg (mk n (lowered u) start) hstop) hrest

/-- A value in lower case has its lengths at the same places. -/
theorem lengths_lowered (unit value : List Char) :
    lengths (lowered unit) (lowered value) = (lengths unit value).map .lower := by
  rw [lengths, pieces_lowered, Length.ofPieces_lower, lengths]

/-- Units and values that differ only in the case of ASCII letters give equally many lengths, at
the same places and with the same numbers, and their texts differ only in the case of ASCII
letters. -/
theorem lengths_of_sameLetters {unit unit' value value' : List Char}
    (hunit : SameLetters unit unit') (hvalue : SameLetters value value') :
    List.Forall₂ (fun l l' => l.start = l'.start ∧ l.stop = l'.stop ∧ l.number = l'.number ∧
      SameLetters l.text l'.text) (lengths unit value) (lengths unit' value') := by
  have hlow : (lengths unit value).map Length.lower = (lengths unit' value').map .lower := by
    rw [← lengths_lowered, ← lengths_lowered, hunit, hvalue]
  rw [← List.forall₂_eq_eq_eq, List.forall₂_map_left_iff, List.forall₂_map_right_iff] at hlow
  refine hlow.imp fun l l' h => ?_
  obtain ⟨hnumber, hunit, hstart, hstop⟩ := Length.mk.inj h
  refine ⟨hstart, hstop, hnumber, ?_⟩
  rw [SameLetters, Length.text, Length.text, lowered_append, lowered_append, hnumber, hunit]

/-- The Kelvin sign is a `k` of three bytes in either case of the unit. -/
theorem lengths_of_sameLetters_kelvin :
    SameLetters "kq".toList "Kq".toList ∧
      SameLetters "URL(1kq)2\u212aq".toList "url(1kQ)2\u212aQ".toList ∧
      List.Forall₂ (fun l l' => l.start = l'.start ∧ l.stop = l'.stop ∧ l.number = l'.number ∧
        SameLetters l.text l'.text) (lengths "kq".toList "URL(1kq)2\u212aq".toList)
        (lengths "Kq".toList "url(1kQ)2\u212aQ".toList) := by
  have hunit : SameLetters "kq".toList "Kq".toList := by decide
  have hvalue : SameLetters "URL(1kq)2\u212aq".toList "url(1kQ)2\u212aQ".toList := by decide
  exact ⟨hunit, hvalue, lengths_of_sameLetters hunit hvalue⟩

end Viewport
