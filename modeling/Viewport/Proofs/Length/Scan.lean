import Mathlib.Data.List.Forall2
import Viewport.Length.Basic
import Viewport.Proofs.Text.CaseFold

/-!
# What stands at the front of a text

The grammar of what is looked for in a value, said without the functions that look for it, and
one lemma for each of these functions: it finds exactly what the grammar allows at the front of
the text, and all that follows it is left. Where several numbers would do, it finds the longest.
-/

namespace Viewport

/-- The word, each of its characters in any letter case. -/
def Spells (word text : List Char) : Prop :=
  List.Forall₂ (fun a b => sameFold a b = true) word text

/-- One or more characters other than the closing one. -/
def IsBody (close : Char) (body : List Char) : Prop := body ≠ [] ∧ close ∉ body

/-- A string in quotes that is not empty. -/
def IsQuoted (quote : Char) (text : List Char) : Prop :=
  ∃ body, IsBody quote body ∧ text = quote :: (body ++ [quote])

/-- A `url(...)` call that is not empty, its name in any letter case. -/
def IsUrl (text : List Char) : Prop :=
  ∃ word body, word.map Char.toLower = "url(".toList ∧ IsBody ')' body ∧
    text = word ++ (body ++ [')'])

/-- One or more digits. -/
def IsDigits (n : List Char) : Prop := n ≠ [] ∧ ∀ c ∈ n, c.isDigit = true

/-- Digits, or digits after a point that further digits may precede: `[0-9]*\.?[0-9]+`. -/
def IsNumber (n : List Char) : Prop :=
  ∃ whole point fraction, (∀ c ∈ whole, c.isDigit = true) ∧ (point = [] ∨ point = ['.']) ∧
    IsDigits fraction ∧ n = whole ++ (point ++ fraction)

/-- The text starts with `n`, and the unit follows at once. -/
def UnitAfter (unit n text : List Char) : Prop :=
  ∃ u rest, Spells unit u ∧ text = n ++ (u ++ rest)

section Word

theorem wordAt?_append {w u : List Char} (h : Spells w u) (rest : List Char) :
    wordAt? w (u ++ rest) = some ⟨u, rest⟩ := by
  induction h with
  | nil => rfl
  | cons hab _ ih => simp [wordAt?, hab, ih, Found.map]

/-- A word is found exactly where it is spelled. -/
theorem wordAt?_eq_some_iff {w cs : List Char} {f : Found (List Char)} :
    wordAt? w cs = some f ↔ Spells w f.value ∧ cs = f.value ++ f.rest := by
  constructor
  · intro h
    induction w generalizing cs f with
    | nil =>
      obtain rfl : ⟨[], cs⟩ = f := by simpa [wordAt?] using h
      exact ⟨.nil, rfl⟩
    | cons a w ih =>
      cases cs with
      | nil => simp [wordAt?] at h
      | cons c cs =>
        rw [wordAt?] at h
        split at h
        · rename_i hac
          obtain ⟨g, hg, rfl⟩ := Option.map_eq_some_iff.1 h
          obtain ⟨hw, rfl⟩ := ih hg
          exact ⟨.cons hac hw, rfl⟩
        · contradiction
  · rintro ⟨h, rfl⟩
    exact wordAt?_append h f.rest

/-- A text has at most one spelling of a word at its front. -/
theorem Spells.eq_of_append_eq {w u v rest rest' : List Char} (hu : Spells w u) (hv : Spells w v)
    (h : u ++ rest = v ++ rest') : u = v ∧ rest = rest' :=
  List.append_inj h (hu.length_eq.symm.trans hv.length_eq)

/-- A word whose letters have the ASCII cases only is spelled by what is that word in lower case. -/
theorem spells_iff_map_toLower {word w : List Char} (h : ∀ b ∈ word, FoldsInAscii b) :
    Spells word w ↔ w.map Char.toLower = word := by
  induction word generalizing w with
  | nil => simp [Spells]
  | cons b word ih =>
    cases w with
    | nil => simp [Spells]
    | cons c w =>
      have hrest := ih (w := w) fun b hb => h b (List.mem_cons_of_mem _ hb)
      rw [Spells, List.forall₂_cons, (h b List.mem_cons_self).sameFold_iff, List.map_cons,
        List.cons.injEq]
      exact and_congr_right fun _ => hrest

theorem spells_url_iff {w : List Char} :
    Spells "url(".toList w ↔ w.map Char.toLower = "url(".toList :=
  spells_iff_map_toLower foldsInAscii_url

end Word

section Sealed

theorem bodyAt?_append {close : Char} {body : List Char} (h : IsBody close body)
    (rest : List Char) :
    bodyAt? close (body ++ close :: rest) = some ⟨body ++ [close], rest⟩ := by
  obtain ⟨hne, hmem⟩ := h
  induction body with
  | nil => contradiction
  | cons c body ih =>
    obtain ⟨hc, hmem⟩ : c ≠ close ∧ close ∉ body := by
      simpa [eq_comm] using hmem
    cases body with
    | nil => simp [bodyAt?, hc]
    | cons d body =>
      have hd : d ≠ close := by rintro rfl; simp at hmem
      have hrec := ih (by simp) hmem
      simp only [List.cons_append] at hrec ⊢
      rw [bodyAt?, if_neg hc]
      simp only [if_neg hd, hrec, Option.map_some, Found.map]

/-- A body is found up to the first character that closes it. -/
theorem bodyAt?_eq_some_iff {close : Char} {cs : List Char} {f : Found (List Char)} :
    bodyAt? close cs = some f ↔
      ∃ body, IsBody close body ∧ f.value = body ++ [close] ∧ cs = body ++ close :: f.rest := by
  constructor
  · intro h
    induction cs generalizing f with
    | nil => simp [bodyAt?] at h
    | cons c cs ih =>
      rw [bodyAt?.eq_def] at h
      dsimp only at h
      split at h
      · contradiction
      rename_i hc
      split at h
      · contradiction
      rename_i d rest
      split at h
      · rename_i hd
        obtain rfl := Option.some.inj h
        exact ⟨[c], ⟨by simp, by simpa [eq_comm] using hc⟩, by simp [hd], by simp [hd]⟩
      · obtain ⟨g, hg, rfl⟩ := Option.map_eq_some_iff.1 h
        obtain ⟨body, ⟨hne, hmem⟩, hv, hcs⟩ := ih hg
        refine ⟨c :: body, ⟨by simp, ?_⟩, ?_, ?_⟩
        · simpa [eq_comm, hmem] using hc
        · rw [Found.map, hv, List.cons_append]
        · rw [hcs, List.cons_append, Found.map]
  · rintro ⟨body, hbody, hv, rfl⟩
    rw [bodyAt?_append hbody, ← hv]

/-- A quoted string is found exactly where one stands. -/
theorem quotedAt?_eq_some_iff {cs : List Char} {f : Found (List Char)} :
    quotedAt? cs = some f ↔
      (IsQuoted '"' f.value ∨ IsQuoted '\'' f.value) ∧ cs = f.value ++ f.rest := by
  constructor
  · intro h
    cases cs with
    | nil => simp [quotedAt?] at h
    | cons c cs =>
      rw [quotedAt?] at h
      split at h
      · rename_i hc
        obtain ⟨g, hg, rfl⟩ := Option.map_eq_some_iff.1 h
        obtain ⟨body, hbody, hv, rfl⟩ := bodyAt?_eq_some_iff.1 hg
        have hq : IsQuoted c (c :: g.value) := ⟨body, hbody, by rw [hv]⟩
        refine ⟨?_, by simp [Found.map, hv]⟩
        rcases hc with rfl | rfl
        · exact .inl hq
        · exact .inr hq
      · contradiction
  · obtain ⟨v, rest⟩ := f
    have key (q : Char) (hq : q = '"' ∨ q = '\'') (h : IsQuoted q v) :
        quotedAt? (v ++ rest) = some ⟨v, rest⟩ := by
      obtain ⟨body, hbody, rfl⟩ := h
      simp [quotedAt?, hq, bodyAt?_append hbody, Found.map]
    rintro ⟨h | h, rfl⟩
    · exact key _ (.inl rfl) h
    · exact key _ (.inr rfl) h

/-- A `url(...)` call is found exactly where one stands. -/
theorem urlAt?_eq_some_iff {cs : List Char} {f : Found (List Char)} :
    urlAt? cs = some f ↔ IsUrl f.value ∧ cs = f.value ++ f.rest := by
  constructor
  · intro h
    obtain ⟨o, ho, h⟩ := Option.bind_eq_some_iff.1 h
    obtain ⟨g, hg, rfl⟩ := Option.map_eq_some_iff.1 h
    obtain ⟨hw, rfl⟩ := wordAt?_eq_some_iff.1 ho
    obtain ⟨body, hbody, hv, hr⟩ := bodyAt?_eq_some_iff.1 hg
    refine ⟨⟨o.value, body, spells_url_iff.1 hw, hbody, by rw [Found.map, hv]⟩, ?_⟩
    simp [Found.map, hr, hv]
  · obtain ⟨v, rest⟩ := f
    rintro ⟨⟨w, body, hw, hbody, hv⟩, rfl⟩
    obtain rfl : v = w ++ (body ++ [')']) := hv
    rw [urlAt?, List.append_assoc, wordAt?_append (spells_url_iff.2 hw)]
    simp [bodyAt?_append hbody, Found.map]

end Sealed

section Number

theorem isDigits_cons {c : Char} {n : List Char} :
    IsDigits (c :: n) ↔ c.isDigit = true ∧ (n = [] ∨ IsDigits n) := by
  cases n <;> simp [IsDigits]

/-- A number is a digit, a digit and a number, or a point and digits. -/
theorem isNumber_cons {c : Char} {n : List Char} :
    IsNumber (c :: n) ↔
      c = '.' ∧ IsDigits n ∨ c.isDigit = true ∧ (n = [] ∨ IsNumber n) := by
  constructor
  · rintro ⟨whole, point, fraction, hw, hp, hf, h⟩
    cases whole with
    | cons d whole =>
      obtain ⟨rfl, rfl⟩ := List.cons.inj h
      refine .inr ⟨hw c List.mem_cons_self, .inr ?_⟩
      exact ⟨whole, point, fraction, fun d hd => hw d (List.mem_cons_of_mem _ hd), hp, hf, rfl⟩
    | nil =>
      rcases hp with rfl | rfl
      · obtain rfl : c :: n = fraction := h
        obtain ⟨hc, hn⟩ := isDigits_cons.1 hf
        exact .inr ⟨hc, hn.imp_right fun hn => ⟨[], [], n, by simp, .inl rfl, hn, rfl⟩⟩
      · obtain ⟨rfl, rfl⟩ := List.cons.inj h
        exact .inl ⟨rfl, hf⟩
  · rintro (⟨rfl, hn⟩ | ⟨hc, rfl | ⟨whole, point, fraction, hw, hp, hf, rfl⟩⟩)
    · exact ⟨[], ['.'], n, by simp, .inr rfl, hn, rfl⟩
    · exact ⟨[], [], [c], by simp, .inl rfl, by simp [IsDigits, hc], rfl⟩
    · exact ⟨c :: whole, point, fraction, by simpa [hc] using hw, hp, hf, rfl⟩

theorem not_isNumber_nil : ¬IsNumber [] := by
  rintro ⟨whole, point, fraction, -, -, ⟨hf, -⟩, h⟩
  exact hf (List.append_eq_nil_iff.1 (List.append_eq_nil_iff.1 h.symm).2).2

/-- The unit stands at the front of a text if its word is found there. -/
theorem unitAfter_nil {unit text : List Char} :
    UnitAfter unit [] text ↔ (wordAt? unit text).isSome = true := by
  rw [Option.isSome_iff_exists]
  constructor
  · rintro ⟨u, rest, hu, rfl⟩
    exact ⟨⟨u, rest⟩, wordAt?_append hu rest⟩
  · rintro ⟨f, hf⟩
    obtain ⟨hu, rfl⟩ := wordAt?_eq_some_iff.1 hf
    exact ⟨f.value, f.rest, hu, rfl⟩

theorem unitAfter_cons {unit n text : List Char} {c d : Char} :
    UnitAfter unit (d :: n) (c :: text) ↔ d = c ∧ UnitAfter unit n text := by
  constructor
  · rintro ⟨u, rest, hu, h⟩
    obtain ⟨rfl, rfl⟩ := List.cons.inj h
    exact ⟨rfl, u, rest, hu, rfl⟩
  · rintro ⟨rfl, u, rest, hu, rfl⟩
    exact ⟨u, rest, hu, rfl⟩

theorem not_unitAfter_cons_nil {unit n : List Char} {d : Char} : ¬UnitAfter unit (d :: n) [] := by
  rintro ⟨u, rest, -, h⟩
  cases h

/-- What is found is a number of a shape with the unit after it, and no longer one is there. -/
structure Finds (shape : List Char → Prop) (unit text : List Char)
    (found : Option (Found (List Char × List Char))) : Prop where
  sound : ∀ f, found = some f → shape f.value.1 ∧ Spells unit f.value.2 ∧
    text = f.value.1 ++ (f.value.2 ++ f.rest)
  complete : ∀ n, shape n → UnitAfter unit n text →
    ∃ f, found = some f ∧ n.length ≤ f.value.1.length

namespace Finds

variable {P Q : List Char → Prop} {unit text : List Char} {c : Char}
  {r : Option (Found (List Char × List Char))}

theorem nil (h : ¬P []) : Finds P unit [] none where
  sound := by simp
  complete n hn hu := by
    cases n with
    | nil => exact absurd hn h
    | cons d n => exact absurd hu not_unitAfter_cons_nil

/-- No number of the shape starts with the character. -/
theorem none_of_cons (hnil : ¬Q []) (hcons : ∀ n, ¬Q (c :: n)) : Finds Q unit (c :: text) none where
  sound := by simp
  complete n hn hu := by
    cases n with
    | nil => exact absurd hn hnil
    | cons d n =>
      obtain ⟨rfl, -⟩ := unitAfter_cons.1 hu
      exact absurd hn (hcons n)

/-- The character has to be followed by what has been found. -/
theorem cons (hr : Finds P unit text r) (hnil : ¬Q []) (hcons : ∀ n, Q (c :: n) ↔ P n) :
    Finds Q unit (c :: text) (r.map (.map fun (n, u) => (c :: n, u))) where
  sound f hf := by
    obtain ⟨g, hg, rfl⟩ := Option.map_eq_some_iff.1 hf
    obtain ⟨hn, hu, htext⟩ := hr.sound g hg
    exact ⟨(hcons _).2 hn, hu, congrArg (c :: ·) htext⟩
  complete n hn hu := by
    cases n with
    | nil => exact absurd hn hnil
    | cons d n =>
      obtain ⟨rfl, hrest⟩ := unitAfter_cons.1 hu
      obtain ⟨f, rfl, hle⟩ := hr.complete n ((hcons n).1 hn) hrest
      exact ⟨_, rfl, Nat.succ_le_succ hle⟩

/-- The character may be followed by what has been found, and stands for itself otherwise. -/
theorem extend (hnil : ¬Q []) (hcons : ∀ n, Q (c :: n) ↔ n = [] ∨ P n) :
    Finds P unit text r → Finds Q unit (c :: text) (match r with
      | some found => some (found.map fun (n, u) => (c :: n, u))
      | none => (wordAt? unit text).map (.map fun u => ([c], u))) := by
  intro hr
  constructor
  · intro f hf
    cases r with
    | some g =>
      obtain rfl := Option.some.inj hf
      obtain ⟨hn, hu, htext⟩ := hr.sound g rfl
      exact ⟨(hcons _).2 (.inr hn), hu, congrArg (c :: ·) htext⟩
    | none =>
      obtain ⟨g, hg, rfl⟩ := Option.map_eq_some_iff.1 hf
      obtain ⟨hu, htext⟩ := wordAt?_eq_some_iff.1 hg
      exact ⟨(hcons _).2 (.inl rfl), hu, congrArg (c :: ·) htext⟩
  · intro n hn hu
    cases n with
    | nil => exact absurd hn hnil
    | cons d n =>
      obtain ⟨rfl, hrest⟩ := unitAfter_cons.1 hu
      rcases (hcons n).1 hn with rfl | hn
      · cases r with
        | some g => exact ⟨_, rfl, Nat.succ_le_succ (Nat.zero_le _)⟩
        | none =>
          obtain ⟨f, hf⟩ := Option.isSome_iff_exists.1 (unitAfter_nil.1 hrest)
          exact ⟨_, congrArg (Option.map _) hf, Nat.le_refl 1⟩
      · obtain ⟨f, rfl, hle⟩ := hr.complete n hn hrest
        exact ⟨_, rfl, Nat.succ_le_succ hle⟩

end Finds

/-- The longest row of digits is found that the unit follows. -/
theorem finds_digitsAt? (unit cs : List Char) : Finds IsDigits unit cs (digitsAt? unit cs) := by
  have hnil : ¬IsDigits [] := fun h => h.1 rfl
  induction cs with
  | nil => exact .nil hnil
  | cons c cs ih =>
    rw [digitsAt?]
    split
    · rename_i hc
      have hcons (n : List Char) : IsDigits (c :: n) ↔ n = [] ∨ IsDigits n := by
        simp [isDigits_cons, hc]
      exact ih.extend hnil hcons
    · rename_i hc
      exact .none_of_cons hnil fun n hn => hc (isDigits_cons.1 hn).1

/-- The longest number is found that the unit follows. -/
theorem finds_lengthAt? (unit cs : List Char) : Finds IsNumber unit cs (lengthAt? unit cs) := by
  induction cs with
  | nil => exact .nil not_isNumber_nil
  | cons c cs ih =>
    rw [lengthAt?]
    split
    · rename_i hc
      have hcons (n : List Char) : IsNumber (c :: n) ↔ IsDigits n := by
        simp [isNumber_cons, hc]
      exact (finds_digitsAt? unit cs).cons not_isNumber_nil hcons
    · rename_i hc
      split
      · rename_i hd
        have hcons (n : List Char) : IsNumber (c :: n) ↔ n = [] ∨ IsNumber n := by
          simp [isNumber_cons, hc, hd]
        exact ih.extend not_isNumber_nil hcons
      · rename_i hd
        refine .none_of_cons not_isNumber_nil fun n hn => ?_
        simp [isNumber_cons, hc, hd] at hn

end Number

end Viewport
