import Viewport.Proofs.Length.Splice

/-!
# Seams of a value

No mark reaches over a separator, or from text without opening characters into a quoted string or a
`url(...)` call behind it. So the two sides of such a seam are cut as if each stood alone, and what
is between the quotes or the parentheses has no part in what becomes of the lengths around it.
-/

namespace Viewport

/-- Text in which no quoted string and no call opens. -/
structure Unopened (text : List Char) : Prop where
  not_quote : '"' ∉ text ∧ '\'' ∉ text
  not_paren : '(' ∉ text

instance (text : List Char) : Decidable (Unopened text) :=
  decidable_of_iff (('"' ∉ text ∧ '\'' ∉ text) ∧ '(' ∉ text)
    ⟨fun h => ⟨h.1, h.2⟩, fun h => ⟨h.1, h.2⟩⟩

/-- A character that no number and no unit goes on with, nor the name of a `url(...)` call. -/
structure Severs (unit : List Char) (s : Char) : Prop where
  not_isNumeric : ¬IsNumeric s
  not_name : s.toLower ∉ "rl(".toList
  not_unit : ∀ w ∈ unit, sameFold w s = false

/-- White space of ASCII, and the comma. -/
def separators : List Char := [' ', '\t', '\n', '\x0b', '\x0c', '\r', ',']

namespace Found

variable {α β : Type}

/-- What was found, where the text goes on for longer. -/
def extend (t : List Char) (f : Found α) : Found α := ⟨f.value, f.rest ++ t⟩

theorem map_map_extend (g : α → β) (t : List Char) (o : Option (Found α)) :
    (o.map (extend t)).map (Found.map g) = (o.map (Found.map g)).map (extend t) := by
  cases o <;> rfl

end Found

/-- A parenthesis has no letter case. -/
theorem eq_paren_of_toLower_eq {o : Char} (h : o.toLower = '(') : o = '(' := by
  have hcaseless : IsCaseless '(' := by decide
  have hascii : FoldsInAscii '(' := by decide
  exact hcaseless.sameFold_iff.1 (hascii.sameFold_iff.2 h)

namespace Unopened

theorem of_append_right {a b : List Char} (h : Unopened (a ++ b)) : Unopened b where
  not_quote := ⟨fun hb => h.not_quote.1 (List.mem_append_right a hb),
    fun hb => h.not_quote.2 (List.mem_append_right a hb)⟩
  not_paren hb := h.not_paren (List.mem_append_right a hb)

/-- A text in which no string opens does not start with one, whatever follows its first
character. -/
theorem quotedAt?_eq_none {x : Char} {cs : List Char} (h : Unopened (x :: cs)) (rest : List Char) :
    quotedAt? (x :: rest) = none := by
  have hx : ¬(x = '"' ∨ x = '\'') := by
    rintro (rfl | rfl)
    · exact h.not_quote.1 List.mem_cons_self
    · exact h.not_quote.2 List.mem_cons_self
  rw [quotedAt?, if_neg hx]

theorem urlAt?_eq_none {a : List Char} (h : Unopened a) : urlAt? a = none := by
  rw [Option.eq_none_iff_forall_ne_some]
  intro f hf
  obtain ⟨hurl, htext⟩ := urlAt?_eq_some_iff.1 hf
  obtain ⟨u, r, l, o, body, -, -, -, ho, -, hvalue⟩ := hurl.exists_cons
  refine h.not_paren ?_
  rw [htext, hvalue, eq_paren_of_toLower_eq ho]
  simp

end Unopened

namespace Severs

variable {unit : List Char} {s : Char}

/-- The name of a call does not go on over the seam. -/
theorem urlAt?_eq_none (hs : Severs unit s) {x : Char} {cs : List Char} (h : Unopened (x :: cs))
    (rest : List Char) : urlAt? (x :: cs ++ s :: rest) = none := by
  rw [Option.eq_none_iff_forall_ne_some]
  intro f hf
  obtain ⟨hurl, htext⟩ := urlAt?_eq_some_iff.1 hf
  obtain ⟨u, r, l, o, body, -, hr, hl, ho, -, hvalue⟩ := hurl.exists_cons
  rw [hvalue] at htext
  -- the name has three more characters, so the seam is one of them or comes after the parenthesis
  rcases cs with _ | ⟨y, _ | ⟨z, _ | ⟨p, cs⟩⟩⟩
  · obtain ⟨rfl, rfl, -⟩ : x = u ∧ s = r ∧ _ := by simpa using htext
    exact hs.not_name (by rw [hr]; decide)
  · obtain ⟨rfl, rfl, rfl, -⟩ : x = u ∧ y = r ∧ s = l ∧ _ := by simpa using htext
    exact hs.not_name (by rw [hl]; decide)
  · obtain ⟨rfl, rfl, rfl, rfl, -⟩ : x = u ∧ y = r ∧ z = l ∧ s = o ∧ _ := by simpa using htext
    exact hs.not_name (by rw [ho]; decide)
  · obtain ⟨rfl, rfl, rfl, rfl, -⟩ : x = u ∧ y = r ∧ z = l ∧ p = o ∧ _ := by simpa using htext
    refine h.not_paren ?_
    rw [eq_paren_of_toLower_eq ho]
    simp

/-- A word does not reach over a character that is not in it. -/
theorem wordAt?_append (hs : Severs unit s) {word : List Char} (hword : ∀ w ∈ word, w ∈ unit)
    (cs rest : List Char) :
    wordAt? word (cs ++ s :: rest) = (wordAt? word cs).map (.extend (s :: rest)) := by
  induction word generalizing cs with
  | nil => rfl
  | cons w word ih =>
    obtain ⟨hw, hword⟩ := List.forall_mem_cons.1 hword
    cases cs with
    | nil => simp [wordAt?, hs.not_unit w hw]
    | cons c cs =>
      rw [List.cons_append, wordAt?, wordAt?, ih hword]
      split
      · exact Found.map_map_extend _ _ _
      · rfl

/-- Digits with the unit do not reach over a character that severs them. -/
theorem digitsAt?_append (hs : Severs unit s) (cs rest : List Char) :
    digitsAt? unit (cs ++ s :: rest) = (digitsAt? unit cs).map (.extend (s :: rest)) := by
  induction cs with
  | nil =>
    have hdigit : ¬s.isDigit = true := fun h => hs.not_isNumeric (.inl h)
    have hseam : digitsAt? unit (s :: rest) = none := by rw [digitsAt?, if_neg hdigit]
    rw [List.nil_append, hseam]
    rfl
  | cons c cs ih =>
    rw [List.cons_append, digitsAt?, digitsAt?, ih, hs.wordAt?_append fun _ => id]
    split
    · cases digitsAt? unit cs with
      | some f => rfl
      | none => exact Found.map_map_extend _ _ _
    · rfl

/-- A length does not reach over a character that severs it. -/
theorem lengthAt?_append (hs : Severs unit s) (cs rest : List Char) :
    lengthAt? unit (cs ++ s :: rest) = (lengthAt? unit cs).map (.extend (s :: rest)) := by
  induction cs with
  | nil =>
    have hpoint : ¬s = '.' := fun h => hs.not_isNumeric (.inr h)
    have hdigit : ¬s.isDigit = true := fun h => hs.not_isNumeric (.inl h)
    have hseam : lengthAt? unit (s :: rest) = none := by
      rw [lengthAt?, if_neg hpoint, if_neg hdigit]
    rw [List.nil_append, hseam]
    rfl
  | cons c cs ih =>
    rw [List.cons_append, lengthAt?, lengthAt?, ih, hs.digitsAt?_append,
      hs.wordAt?_append fun _ => id]
    split
    · exact Found.map_map_extend _ _ _
    · split
      · cases lengthAt? unit cs with
        | some f => rfl
        | none => exact Found.map_map_extend _ _ _
      · rfl

/-- What is found in front of the seam is what would be found if the text ended there. -/
theorem pieceAt?_append (hs : Severs unit s) {x : Char} {cs : List Char} (h : Unopened (x :: cs))
    (rest : List Char) :
    pieceAt? unit (x :: cs ++ s :: rest) =
      (pieceAt? unit (x :: cs)).map (.extend (s :: rest)) := by
  have hquoted := h.quotedAt?_eq_none cs
  have hquoted' := h.quotedAt?_eq_none (cs ++ s :: rest)
  rw [pieceAt?, pieceAt?, hs.urlAt?_eq_none h, h.urlAt?_eq_none, hquoted, List.cons_append,
    hquoted', ← List.cons_append, hs.lengthAt?_append]
  exact Found.map_map_extend _ _ _

/-- The two sides of the seam are cut into pieces each for itself. -/
theorem pieces_append (hs : Severs unit s) {a : List Char} (ha : Unopened a) (rest : List Char) :
    pieces unit (a ++ s :: rest) = pieces unit a ++ pieces unit (s :: rest) := by
  induction hn : a.length using Nat.strongRecOn generalizing a with
  | ind n ih =>
    subst hn
    cases a with
    | nil => rw [pieces]; rfl
    | cons x cs =>
      have hseam := hs.pieceAt?_append ha rest
      cases hf : pieceAt? unit (x :: cs) with
      | some f =>
        obtain ⟨m, hm⟩ := exists_mark_of_pieceAt? hf
        obtain ⟨-, htext⟩ := pieceAt?_eq_some_iff.1 (hm ▸ hf)
        have hwhole : Unopened (m.text ++ f.rest) := htext ▸ ha
        have hrest : Unopened f.rest := hwhole.of_append_right
        rw [hf, Option.map_some] at hseam
        rw [pieces_of_some hseam, pieces_of_some hf, Found.extend,
          ih _ (pieceAt?_length hf) hrest rfl, List.cons_append]
      | none =>
        have hrest : Unopened cs := (show Unopened ([x] ++ cs) from ha).of_append_right
        rw [hf, Option.map_none, List.cons_append] at hseam
        rw [List.cons_append, pieces_of_none hseam, pieces_of_none hf,
          ih _ (Nat.lt_succ_self _) hrest rfl, List.cons_append]

end Severs

/-! ## What comes after the seam -/

section After

variable {unit : List Char}

/-- Quotes and separators sever lengths unless they are in the unit. -/
theorem severs_of_mem {s : Char} (hs : s ∈ '"' :: '\'' :: separators) (hunit : s ∉ unit) :
    Severs unit s := by
  have hseam : ∀ s ∈ '"' :: '\'' :: separators,
      IsCaseless s ∧ ¬IsNumeric s ∧ s.toLower ∉ "rl(".toList :=
    List.all_iff_forall_prop.1 (by decide)
  obtain ⟨hcaseless, hnumeric, hname⟩ := hseam s hs
  refine ⟨hnumeric, hname, fun w hw => Bool.eq_false_iff.2 fun hfold => ?_⟩
  rw [sameFold_comm, hcaseless.sameFold_iff] at hfold
  exact hunit (hfold ▸ hw)

/-- A unit without the letter `u` does not go on into the name of a call. -/
theorem severs_u {u : Char} (hu : u.toLower = 'u') (hunit : 'u' ∉ unit ∧ 'U' ∉ unit) :
    Severs unit u := by
  have hascii : FoldsInAscii 'u' := by decide
  refine ⟨fun hnumeric => ?_, by rw [hu]; decide, fun w hw => Bool.eq_false_iff.2 fun hfold => ?_⟩
  · rw [hnumeric.toLower_eq] at hu
    subst hu
    exact absurd hnumeric (by decide)
  · -- the letter of the unit is a case of the one in the name, so it is a `u` itself
    have huw : foldCode 'u'.toNat = foldCode w.toNat :=
      (sameFold_iff_foldCode_eq.1 (hascii.sameFold_iff.2 hu)).trans
        (sameFold_iff_foldCode_eq.1 hfold).symm
    rcases sameFold_u_iff.1 (sameFold_iff_foldCode_eq.2 huw) with rfl | rfl
    · exact hunit.1 hw
    · exact hunit.2 hw

/-- A separator is a plain piece. -/
theorem pieces_separator {c : Char} (hc : c ∈ separators) (b : List Char) :
    pieces unit (c :: b) = .plain c :: pieces unit b := by
  have hseparators : ∀ c ∈ separators, (c ≠ '"' ∧ c ≠ '\'') ∧ sameFold 'u' c = false ∧
      c ≠ '.' ∧ c.isDigit = false := List.all_iff_forall_prop.1 (by decide)
  obtain ⟨hquote, hu, hpoint, hdigit⟩ := hseparators c hc
  refine pieces_of_none ?_
  simp [pieceAt?, quotedAt?, urlAt?, wordAt?, lengthAt?, hquote, hu, hpoint, hdigit]

/-- A string or a `url(...)` call at the front is a piece. -/
theorem pieces_sealed {t : List Char} (h : IsQuoted '"' t ∨ IsQuoted '\'' t ∨ IsUrl t)
    (b : List Char) : pieces unit (t ++ b) = .sealed t :: pieces unit b :=
  pieces_of_some ((pieceAt?_eq_some_iff (m := .sealed t)).2 ⟨h, rfl⟩)

end After

section Replace

variable {unit : List Char} (replace : List Char → List Char → List Char) {a : List Char}

theorem replaceLengths_separator {c : Char} (ha : Unopened a) (hc : c ∈ separators)
    (hunit : c ∉ unit) (b : List Char) :
    replaceLengths unit replace (a ++ c :: b) =
      replaceLengths unit replace a ++ c :: replaceLengths unit replace b := by
  have hs : Severs unit c := severs_of_mem (by simp [hc]) hunit
  simp only [replaceLengths_eq_flatMap, hs.pieces_append ha, pieces_separator hc,
    List.flatMap_append, List.flatMap_cons]
  rfl

theorem replaceLengths_sealed {s : Char} {t : List Char} (ha : Unopened a) (hs : Severs unit s)
    (ht : IsQuoted '"' (s :: t) ∨ IsQuoted '\'' (s :: t) ∨ IsUrl (s :: t)) (b : List Char) :
    replaceLengths unit replace (a ++ (s :: t ++ b)) =
      replaceLengths unit replace a ++ (s :: t ++ replaceLengths unit replace b) := by
  have hpieces : pieces unit (s :: t ++ b) = .sealed (s :: t) :: pieces unit b := pieces_sealed ht b
  have hseam := hs.pieces_append ha (t ++ b)
  rw [← List.cons_append, hpieces] at hseam
  simp only [replaceLengths_eq_flatMap, hseam, List.flatMap_append, List.flatMap_cons]
  rfl

end Replace

/-- In front of a separator, a quoted string or a `url(...)` call, text in which nothing opens is
rewritten as if it stood alone, and so is all that follows it; the separator, the string or the call
is kept. The unit must not have the separator in it, a quote, or a `u`. So what is inside a string
or a call has no part in what becomes of the lengths around it. -/
theorem replaceLengths_seams (unit : List Char) (replace : List Char → List Char → List Char)
    {a : List Char} (ha : Unopened a) (b : List Char) :
    (∀ c ∈ separators, c ∉ unit →
      replaceLengths unit replace (a ++ c :: b) =
        replaceLengths unit replace a ++ c :: replaceLengths unit replace b) ∧
    (∀ t, IsQuoted '"' t ∨ IsQuoted '\'' t → '"' ∉ unit ∧ '\'' ∉ unit →
      replaceLengths unit replace (a ++ (t ++ b)) =
        replaceLengths unit replace a ++ (t ++ replaceLengths unit replace b)) ∧
    ∀ t, IsUrl t → 'u' ∉ unit ∧ 'U' ∉ unit →
      replaceLengths unit replace (a ++ (t ++ b)) =
        replaceLengths unit replace a ++ (t ++ replaceLengths unit replace b) := by
  refine ⟨fun c hc hunit => replaceLengths_separator replace ha hc hunit b, ?_, ?_⟩
  · rintro t (ht | ht) ⟨hdouble, hsingle⟩
    · have hs : Severs unit '"' := severs_of_mem (by decide) hdouble
      obtain ⟨body, hbody, rfl⟩ := ht
      exact replaceLengths_sealed replace ha hs (.inl ⟨body, hbody, rfl⟩) b
    · have hs : Severs unit '\'' := severs_of_mem (by decide) hsingle
      obtain ⟨body, hbody, rfl⟩ := ht
      exact replaceLengths_sealed replace ha hs (.inr (.inl ⟨body, hbody, rfl⟩)) b
  · intro t ht hunit
    obtain ⟨u, r, l, o, body, hu, -, -, -, -, rfl⟩ := ht.exists_cons
    exact replaceLengths_sealed replace ha (severs_u hu hunit) (.inr (.inr ht)) b

theorem replaceLengths_seams_px :
    replaceLengths "px".toList (fun n _ => n) ("1.5px url".toList ++ ',' :: "('2px".toList) =
        replaceLengths "px".toList (fun n _ => n) "1.5px url".toList ++
          ',' :: replaceLengths "px".toList (fun n _ => n) "('2px".toList ∧
      replaceLengths "px".toList (fun n _ => n)
          ("1.5px url".toList ++ ("'3px'".toList ++ "('2px".toList)) =
        replaceLengths "px".toList (fun n _ => n) "1.5px url".toList ++
          ("'3px'".toList ++ replaceLengths "px".toList (fun n _ => n) "('2px".toList) ∧
      replaceLengths "px".toList (fun n _ => n)
          ("1.5px url".toList ++ ("URL('3px)".toList ++ "('2px".toList)) =
        replaceLengths "px".toList (fun n _ => n) "1.5px url".toList ++
          ("URL('3px)".toList ++ replaceLengths "px".toList (fun n _ => n) "('2px".toList) := by
  have hquoted : IsQuoted '\'' "'3px'".toList := ⟨"3px".toList, ⟨by decide, by decide⟩, rfl⟩
  have hurl : IsUrl "URL('3px)".toList :=
    ⟨"URL(".toList, "'3px".toList, rfl, ⟨by decide, by decide⟩, rfl⟩
  obtain ⟨hseparator, hstring, hcall⟩ := replaceLengths_seams "px".toList (fun n _ => n)
    (show Unopened "1.5px url".toList by decide) "('2px".toList
  exact ⟨hseparator ',' (by decide) (by decide), hstring _ (.inr hquoted) (by decide),
    hcall _ hurl (by decide)⟩

end Viewport
