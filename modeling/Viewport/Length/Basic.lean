import Viewport.Text.Bytes
import Viewport.Text.CaseFold

/-!
# Lengths in a value

A value is cut from left to right into pieces: quoted strings and `url(...)` calls, whose text
is not looked into, lengths in one unit, and the characters between them.
-/

namespace Viewport

/-- A part of a value. -/
inductive Piece where
  | plain (c : Char)
  /-- A quoted string or a `url(...)` call. -/
  | sealed (text : List Char)
  /-- A number and the unit after it, as they are written. -/
  | length (number unit : List Char)
deriving DecidableEq, Repr

namespace Piece

def text : Piece → List Char
  | .plain c => [c]
  | .sealed t => t
  | .length n u => n ++ u

end Piece

/-- What was found at the front of a text, and the text after it. -/
structure Found (α : Type) where
  value : α
  rest : List Char

namespace Found

def map {α β : Type} (f : α → β) (x : Found α) : Found β := ⟨f x.value, x.rest⟩

end Found

/-- The word at the front of a text, in any letter case, as it is written there. -/
def wordAt? : List Char → List Char → Option (Found (List Char))
  | [], cs => some ⟨[], cs⟩
  | _ :: _, [] => none
  | w :: ws, c :: cs =>
    if sameFold w c then (wordAt? ws cs).map (.map (c :: ·)) else none

/-- One or more characters other than `close`, and then `close`. -/
def bodyAt? (close : Char) : List Char → Option (Found (List Char))
  | [] => none
  | c :: cs =>
    if c = close then none
    else match cs with
      | [] => none
      | d :: rest =>
        if d = close then some ⟨[c, d], rest⟩
        else (bodyAt? close cs).map (.map (c :: ·))

/-- A quoted string with something in it. -/
def quotedAt? : List Char → Option (Found (List Char))
  | [] => none
  | c :: cs =>
    if c = '"' ∨ c = '\'' then (bodyAt? c cs).map (.map (c :: ·)) else none

/-- A `url(...)` call with something in it. -/
def urlAt? (cs : List Char) : Option (Found (List Char)) :=
  (wordAt? "url(".toList cs).bind fun opening =>
    (bodyAt? ')' opening.rest).map (.map (opening.value ++ ·))

/-- The longest row of digits that the unit follows at once. -/
def digitsAt? (unit : List Char) : List Char → Option (Found (List Char × List Char))
  | [] => none
  | c :: cs =>
    if c.isDigit then
      match digitsAt? unit cs with
      | some found => some (found.map fun (n, u) => (c :: n, u))
      | none => (wordAt? unit cs).map (.map fun u => ([c], u))
    else none

/-- The longest number that the unit follows at once: digits, or digits after a point that
digits may precede. -/
def lengthAt? (unit : List Char) : List Char → Option (Found (List Char × List Char))
  | [] => none
  | c :: cs =>
    if c = '.' then (digitsAt? unit cs).map (.map fun (n, u) => (c :: n, u))
    else if c.isDigit then
      match lengthAt? unit cs with
      | some found => some (found.map fun (n, u) => (c :: n, u))
      | none => (wordAt? unit cs).map (.map fun u => ([c], u))
    else none

/-- The sealed text or the length at the front of a text. -/
def pieceAt? (unit cs : List Char) : Option (Found Piece) :=
  match quotedAt? cs with
  | some found => some (found.map .sealed)
  | none =>
    match urlAt? cs with
    | some found => some (found.map .sealed)
    | none => (lengthAt? unit cs).map (.map fun (n, u) => .length n u)

section Shorter

/-- A word and what follows it make up the text. -/
theorem wordAt?_length {w cs : List Char} {f} (h : wordAt? w cs = some f) :
    f.value.length + f.rest.length = cs.length := by
  induction w generalizing cs f with
  | nil => simp only [wordAt?, Option.some.injEq] at h; subst h; simp
  | cons a w ih =>
    cases cs with
    | nil => simp [wordAt?] at h
    | cons c cs =>
      simp only [wordAt?] at h
      split at h
      · obtain ⟨g, hg, rfl⟩ := Option.map_eq_some_iff.1 h
        have := ih hg
        simp only [Found.map, List.length_cons]
        omega
      · simp at h

/-- A body with its end and what follows it make up the text. -/
theorem bodyAt?_length {close : Char} {cs : List Char} {f} (h : bodyAt? close cs = some f) :
    f.value.length + f.rest.length = cs.length := by
  induction cs generalizing f with
  | nil => simp [bodyAt?] at h
  | cons c cs ih =>
    unfold bodyAt? at h
    split at h
    · simp at h
    · split at h
      · simp at h
      · split at h
        · simp only [Option.some.injEq] at h; subst h; simp; omega
        · obtain ⟨g, hg, rfl⟩ := Option.map_eq_some_iff.1 h
          have := ih hg
          simp only [Found.map, List.length_cons] at *
          omega

theorem quotedAt?_length {cs : List Char} {f} (h : quotedAt? cs = some f) :
    f.rest.length < cs.length := by
  cases cs with
  | nil => simp [quotedAt?] at h
  | cons c cs =>
    simp only [quotedAt?] at h
    split at h
    · obtain ⟨g, hg, rfl⟩ := Option.map_eq_some_iff.1 h
      have := bodyAt?_length hg
      simp only [Found.map, List.length_cons]
      omega
    · simp at h

/-- Each character of a word is met by one of the text. -/
theorem wordAt?_value_length {w cs : List Char} {f} (h : wordAt? w cs = some f) :
    f.value.length = w.length := by
  induction w generalizing cs f with
  | nil => simp only [wordAt?, Option.some.injEq] at h; subst h; simp
  | cons a w ih =>
    cases cs with
    | nil => simp [wordAt?] at h
    | cons c cs =>
      simp only [wordAt?] at h
      split at h
      · obtain ⟨g, hg, rfl⟩ := Option.map_eq_some_iff.1 h
        simp [Found.map, ih hg]
      · simp at h

theorem urlAt?_length {cs : List Char} {f} (h : urlAt? cs = some f) :
    f.rest.length < cs.length := by
  obtain ⟨o, ho, h⟩ := Option.bind_eq_some_iff.1 h
  obtain ⟨g, hg, rfl⟩ := Option.map_eq_some_iff.1 h
  have h1 := wordAt?_length ho
  have h2 := wordAt?_value_length ho
  have h3 := bodyAt?_length hg
  have h4 : "url(".toList.length = 4 := rfl
  simp only [Found.map]
  omega

theorem digitsAt?_length {unit cs : List Char} {f} (h : digitsAt? unit cs = some f) :
    f.rest.length < cs.length := by
  induction cs generalizing f with
  | nil => simp [digitsAt?] at h
  | cons c cs ih =>
    unfold digitsAt? at h
    split at h
    · split at h
      · rename_i g hg
        simp only [Option.some.injEq] at h; subst h
        have := ih hg
        simp only [Found.map, List.length_cons]
        omega
      · obtain ⟨g, hg, rfl⟩ := Option.map_eq_some_iff.1 h
        have := wordAt?_length hg
        simp only [Found.map, List.length_cons]
        omega
    · simp at h

theorem lengthAt?_length {unit cs : List Char} {f} (h : lengthAt? unit cs = some f) :
    f.rest.length < cs.length := by
  induction cs generalizing f with
  | nil => simp [lengthAt?] at h
  | cons c cs ih =>
    unfold lengthAt? at h
    split at h
    · obtain ⟨g, hg, rfl⟩ := Option.map_eq_some_iff.1 h
      have := digitsAt?_length hg
      simp only [Found.map, List.length_cons]
      omega
    · split at h
      · split at h
        · rename_i g hg
          simp only [Option.some.injEq] at h; subst h
          have := ih hg
          simp only [Found.map, List.length_cons]
          omega
        · obtain ⟨g, hg, rfl⟩ := Option.map_eq_some_iff.1 h
          have := wordAt?_length hg
          simp only [Found.map, List.length_cons]
          omega
      · simp at h

/-- Every piece that is found takes something from the text. -/
theorem pieceAt?_length {unit cs : List Char} {f} (h : pieceAt? unit cs = some f) :
    f.rest.length < cs.length := by
  unfold pieceAt? at h
  split at h
  · rename_i g hg
    simp only [Option.some.injEq] at h; subst h
    exact quotedAt?_length hg
  · split at h
    · rename_i g hg
      simp only [Option.some.injEq] at h; subst h
      exact urlAt?_length hg
    · obtain ⟨g, hg, rfl⟩ := Option.map_eq_some_iff.1 h
      exact lengthAt?_length hg

end Shorter

/-- The pieces of a value. Where no length starts with a digit, none starts with a digit further
on in the same row. -/
def pieces (unit : List Char) : List Char → List Piece
  | [] => []
  | c :: cs =>
    match _h : pieceAt? unit (c :: cs) with
    | some found => found.value :: pieces unit found.rest
    | none =>
      if c.isDigit then
        .plain c :: ((cs.takeWhile Char.isDigit).map .plain ++
          pieces unit (cs.dropWhile Char.isDigit))
      else .plain c :: pieces unit cs
termination_by cs => cs.length
decreasing_by
  · exact pieceAt?_length _h
  · exact Nat.lt_succ_of_le (List.dropWhile_sublist _).length_le
  · simp

section Pieces

/-- No digit folds with the first letter of `url`. -/
theorem sameFold_u_of_isDigit {c : Char} (h : c.isDigit) : sameFold 'u' c = false := by
  have hc : ∀ n : Fin 10, foldCode (48 + n) ≠ foldCode 'u'.toNat := by decide
  simp only [Char.isDigit, Bool.and_eq_true, decide_eq_true_eq] at h
  have h1 : 48 ≤ c.toNat := h.1
  have h2 : c.toNat ≤ 57 := h.2
  have h3 := hc ⟨c.toNat - 48, by omega⟩
  simp only [Nat.add_sub_cancel' h1] at h3
  have h4 : 'u' ≠ c := by rintro rfl; exact h3 rfl
  rw [sameFold, beq_false_of_ne h4, beq_false_of_ne h3.symm]
  rfl

/-- Where a digit stands it is only a length that can start. -/
theorem pieceAt?_of_isDigit {unit : List Char} {c : Char} (h : c.isDigit) (cs : List Char) :
    pieceAt? unit (c :: cs) = (lengthAt? unit (c :: cs)).map (.map fun (n, u) => .length n u) := by
  have h1 : c ≠ '"' := by rintro rfl; exact absurd h (by decide)
  have h2 : c ≠ '\'' := by rintro rfl; exact absurd h (by decide)
  simp [pieceAt?, quotedAt?, urlAt?, wordAt?, h1, h2, sameFold_u_of_isDigit h]

/-- Digits in front of a length belong to it. -/
theorem lengthAt?_eq_none_of_cons {unit : List Char} {c : Char} {cs : List Char} (hc : c.isDigit)
    (h : lengthAt? unit (c :: cs) = none) : lengthAt? unit cs = none := by
  have h1 : c ≠ '.' := by rintro rfl; exact absurd hc (by decide)
  simp only [lengthAt?, h1, hc, if_true, if_false] at h
  split at h
  · simp at h
  · assumption

/-- A piece that is found is cut off. -/
theorem pieces_of_some {unit cs : List Char} {found : Found Piece}
    (h : pieceAt? unit cs = some found) :
    pieces unit cs = found.value :: pieces unit found.rest := by
  cases cs with
  | nil => exact absurd (pieceAt?_length h) (by simp)
  | cons c cs =>
    rw [pieces]
    split <;> simp_all

/-- A character where nothing is found is plain. In a row of digits this is known of the ones behind
it too, and the rest of the row is not looked at again. -/
theorem pieces_of_none {unit cs : List Char} {c : Char} (h : pieceAt? unit (c :: cs) = none) :
    pieces unit (c :: cs) = .plain c :: pieces unit cs := by
  rw [pieces]
  split
  · simp_all
  · split
    · rename_i hc
      rw [pieceAt?_of_isDigit hc, Option.map_eq_none_iff] at h
      have hcs := lengthAt?_eq_none_of_cons hc h
      cases cs with
      | nil => simp
      | cons d ds =>
        by_cases hd : d.isDigit
        · have : pieceAt? unit (d :: ds) = none := by simp [pieceAt?_of_isDigit hd, hcs]
          conv => rhs; rw [pieces]
          split
          · simp_all
          · simp [hd]
        · simp [hd]
    · rfl

end Pieces

/-- A length and where it stands: `start` and `stop` count the bytes before its ends. -/
structure Length where
  number : List Char
  unit : List Char
  start : Nat
  stop : Nat
deriving DecidableEq, Repr

/-- The length as it is written. -/
def Length.text (l : Length) : List Char := l.number ++ l.unit

/-- The lengths among pieces that stand `start` bytes into a value. -/
def Length.ofPieces (start : Nat) : List Piece → List Length
  | [] => []
  | p :: ps =>
    let stop := start + byteSize p.text
    match p with
    | .length n u => ⟨n, u, start, stop⟩ :: ofPieces stop ps
    | _ => ofPieces stop ps

/-- The lengths of a value, in order. -/
def lengths (unit value : List Char) : List Length :=
  Length.ofPieces 0 (pieces unit value)

/-- The value with each length replaced; all else is kept as written. -/
def replaceLengths (unit : List Char) (replace : List Char → List Char → List Char)
    (value : List Char) : List Char :=
  (pieces unit value).flatMap fun
    | .length n u => replace n u
    | p => p.text

section Splice

variable {m : Type → Type} [Monad m]

/-- What is written before the place `last` has become `out`; from there on each length is replaced
in turn, and the text between lengths is taken by its place, as far as it can be cut there. -/
def spliceFrom (replace : Length → m (List Char)) (value out : List Char) (last : Nat) :
    List Length → m (Option (List Char))
  | [] => return (slice? last (byteSize value) value).map (out ++ ·)
  | l :: ls =>
    match slice? last l.start value with
    | none => return none
    | some gap => do
      let text ← replace l
      spliceFrom replace value (out ++ gap ++ text) l.stop ls

/-- The value with each length replaced by what an action makes of it. -/
def spliceLengths (replace : Length → m (List Char)) (unit value : List Char) :
    m (Option (List Char)) :=
  spliceFrom replace value [] 0 (lengths unit value)

end Splice

end Viewport
