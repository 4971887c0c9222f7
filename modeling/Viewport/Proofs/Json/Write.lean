import Viewport.Json.Value

/-!
# The tokens of a written value

A value is written without blanks, so the tokens of its text follow from the value alone. Values
without numbers are enough for stylesheets; the end of a number would depend on what follows it.
-/

namespace Viewport.Json

/-! ## Strings -/

namespace StringState

theorem settle_of_high_eq_none {s : StringState} (h : s.high = none) : s.settle = s := by
  rw [settle, h]

theorem unit_of_lt {s : StringState} (h : s.high = none) {n : Nat} (hn : n < 0x20) :
    s.unit n = s.push (Char.ofNat n) := by
  have hlow : isLowSurrogate n = false := by
    rw [isLowSurrogate, Bool.and_eq_false_iff]
    exact .inl (decide_eq_false (by omega))
  have hhigh : isHighSurrogate n = false := by
    rw [isHighSurrogate, Bool.and_eq_false_iff]
    exact .inl (decide_eq_false (by omega))
  rw [unit, h]
  simp [hlow, hhigh]

end StringState

/-- The code of a control character is read back from its four digits. -/
theorem hexEscape_code {n : Nat} (hn : n < 0x20) :
    hexEscape ['0', '0', Nat.digitChar (n / 16), Nat.digitChar (n % 16)] = .ok n := by
  have hcodes : ∀ n < 0x20, let ds := ['0', '0', Nat.digitChar (n / 16), Nat.digitChar (n % 16)]
      ¬byteSize ds < 4 ∧ ds.all isHexDigit = true ∧ hexValue ds = n := by decide
  obtain ⟨hsize, hhex, hvalue⟩ := hcodes n hn
  have htake : List.take 4 ['0', '0', Nat.digitChar (n / 16), Nat.digitChar (n % 16)] =
    ['0', '0', Nat.digitChar (n / 16), Nat.digitChar (n % 16)] := rfl
  rw [hexEscape, htake, if_neg hsize, if_pos ⟨rfl, hhex⟩, hvalue]

/-- A character is read back from what it is written as, whatever stands around it. -/
theorem readString_escapeChar {s : StringState} (h : s.high = none) (c : Char) (rest : List Char) :
    readString s (escapeChar c ++ rest) = readString (s.push c) rest := by
  have hs := StringState.settle_of_high_eq_none h
  have hescape (e d : Char) (he : e ≠ 'u') (hd : escapeOf? e = some d) :
      readString s ('\\' :: e :: rest) = readString (s.push d) rest := by
    rw [readString, hd, hs]
    · exact fun _ _ _ _ _ hu => absurd hu he
    · exact he
  fun_cases escapeChar c with
  | case1 | case2 | case3 | case4 | case5 | case6 | case7 => exact hescape _ _ (by decide) rfl
  | case8 _ hcode =>
    have hread : readString s ('\\' :: 'u' :: '0' :: '0' :: Nat.digitChar (c.toNat / 16) ::
        Nat.digitChar (c.toNat % 16) :: rest) = readString (s.unit c.toNat) rest := by
      rw [readString, hexEscape_code hcode]
    rw [StringState.unit_of_lt h hcode, Char.ofNat_toNat] at hread
    rw [if_pos hcode]
    exact hread
  | case9 _ hcode hquote hslash =>
    rw [if_neg hcode, List.singleton_append, readString, if_neg hcode, hs]
    · exact hquote
    all_goals
      intros
      contradiction

/-- A string is read back from its escaped characters. -/
theorem readString_flatMap_escapeChar {s : StringState} (h : s.high = none) (hf : s.flaw = none)
    (cs rest : List Char) :
    readString s (cs.flatMap escapeChar ++ '"' :: rest) =
      .ok (.ok (String.ofList (s.chars.reverse ++ cs)), rest) := by
  induction cs generalizing s with
  | nil =>
    rw [List.flatMap_nil, List.nil_append, readString, StringState.settle_of_high_eq_none h,
      StringState.content, hf, List.append_nil]
  | cons c cs ih =>
    rw [List.flatMap_cons, List.append_assoc, readString_escapeChar h, ih (s := s.push c) h hf,
      StringState.push, List.reverse_cons, List.append_assoc, List.singleton_append]

/-! ## Tokens -/

/-- A text is cut into these tokens, whatever follows it. Each of them takes one off the bound. -/
structure Lexes (text : List Char) (ts : List Token) : Prop where
  length_le : ts.length ≤ text.length
  tokensUpTo_append : ∀ n rest, tokensUpTo (ts.length + n) (text ++ rest) = ts ++ tokensUpTo n rest

namespace Lexes

theorem nil : Lexes [] [] := by
  refine ⟨Nat.le_refl 0, fun n rest => ?_⟩
  rw [List.length_nil, Nat.zero_add, List.nil_append, List.nil_append]

/-- Texts of tokens in a row are read as the tokens in a row. -/
theorem append {s t : List Char} {ts us : List Token} (hs : Lexes s ts) (ht : Lexes t us) :
    Lexes (s ++ t) (ts ++ us) where
  length_le := by
    rw [List.length_append, List.length_append]
    exact Nat.add_le_add hs.length_le ht.length_le
  tokensUpTo_append n rest := by
    rw [List.length_append, Nat.add_assoc, List.append_assoc, hs.tokensUpTo_append,
      ht.tokensUpTo_append, List.append_assoc]

theorem token {c : Char} {cs : List Char} {t : Token} (hc : isBlank c = false)
    (h : ∀ rest, readToken c (cs ++ rest) = (t, rest)) : Lexes (c :: cs) [t] where
  length_le := Nat.succ_le_succ (Nat.zero_le cs.length)
  tokensUpTo_append n rest := by
    rw [List.length_singleton, Nat.add_comm, List.cons_append, tokensUpTo, hc, h]
    rfl

/-- A token of one character and what is read after it. -/
theorem cons {c : Char} {cs : List Char} {t : Token} {ts : List Token} (hc : isBlank c = false)
    (h : ∀ rest, readToken c rest = (t, rest)) (hcs : Lexes cs ts) : Lexes (c :: cs) (t :: ts) :=
  append (token hc fun rest => h ([] ++ rest)) hcs

/-- A string is one token. -/
theorem writeString (s : String) : Lexes (writeString s) [.string (.ok s)] := by
  have hread (rest : List Char) : readString .empty (s.toList.flatMap escapeChar ++ '"' :: rest) =
      .ok (.ok s, rest) := by
    rw [readString_flatMap_escapeChar rfl rfl]
    exact congrArg (fun t => Except.ok (Except.ok t, rest)) String.ofList_toList
  have htoken : Lexes ('"' :: (s.toList.flatMap escapeChar ++ ['"'])) [.string (.ok s)] := by
    refine token rfl fun rest => ?_
    rw [List.append_assoc, List.singleton_append, readToken, hread]
  exact htoken

/-- The tokens of a whole text. -/
theorem tokens_eq {text : List Char} {ts : List Token} (h : Lexes text ts) : tokens text = ts := by
  have hend (n : Nat) : tokensUpTo n [] = [] := by cases n <;> rfl
  obtain ⟨n, hn⟩ := Nat.exists_eq_add_of_le h.length_le
  have htext := h.tokensUpTo_append n []
  rw [List.append_nil, hend, List.append_nil, ← hn] at htext
  exact htext

end Lexes

namespace Value

mutual

/-- The tokens that a value is written as. -/
def tokens : Value → List Token
  | .null => [.null]
  | .bool b => [.bool b]
  | .number n => [.number (some n)]
  | .string s => [.string (.ok s)]
  | .list items => .openList :: itemTokens items ++ [.closeList]
  | .object members => .openObject :: memberTokens members ++ [.closeObject]

def itemTokens : List Value → List Token
  | [] => []
  | [v] => v.tokens
  | v :: vs => v.tokens ++ .comma :: itemTokens vs

def memberTokens : List (String × Value) → List Token
  | [] => []
  | [(k, v)] => .string (.ok k) :: .colon :: v.tokens
  | (k, v) :: ms => .string (.ok k) :: .colon :: v.tokens ++ .comma :: memberTokens ms

end

/-- No number stands in the value. -/
inductive Numberless : Value → Prop
  | null : Numberless .null
  | bool (b : Bool) : Numberless (.bool b)
  | string (s : String) : Numberless (.string s)
  | list {items : List Value} (h : ∀ v ∈ items, Numberless v) : Numberless (.list items)
  | object {members : List (String × Value)} (h : ∀ m ∈ members, Numberless m.2) :
    Numberless (.object members)

/-- The items of a list are read back if each of them is. -/
theorem lexes_writeItems {items : List Value} (h : ∀ v ∈ items, Lexes v.write v.tokens) :
    Lexes (writeItems items) (itemTokens items) := by
  induction items with
  | nil => exact .nil
  | cons v vs ih =>
    have hv := h v List.mem_cons_self
    cases vs with
    | nil => exact hv
    | cons w ws =>
      have hvs := ih fun v hv => h v (List.mem_cons_of_mem _ hv)
      exact hv.append (.cons rfl (fun _ => rfl) hvs)

/-- The members of an object are read back if each of their values is. -/
theorem lexes_writeMembers {members : List (String × Value)}
    (h : ∀ m ∈ members, Lexes m.2.write m.2.tokens) :
    Lexes (writeMembers members) (memberTokens members) := by
  induction members with
  | nil => exact .nil
  | cons m ms ih =>
    obtain ⟨k, v⟩ := m
    have hv : Lexes v.write v.tokens := h (k, v) List.mem_cons_self
    have hm : Lexes (writeString k ++ ':' :: v.write) (.string (.ok k) :: .colon :: v.tokens) :=
      (Lexes.writeString k).append (.cons rfl (fun _ => rfl) hv)
    cases ms with
    | nil => exact hm
    | cons m' ms =>
      have hms := ih fun m hm => h m (List.mem_cons_of_mem _ hm)
      exact hm.append (.cons rfl (fun _ => rfl) hms)

/-- What is written of a value without numbers is read back as its tokens. -/
theorem Numberless.lexes_write {v : Value} (h : v.Numberless) : Lexes v.write v.tokens := by
  induction h with
  | null => exact .token rfl fun _ => rfl
  | bool b => cases b <;> exact .token rfl fun _ => rfl
  | string s => exact .writeString s
  | list h ih =>
    have hitems := lexes_writeItems ih
    exact (Lexes.cons rfl (fun _ => rfl) hitems).append (.token rfl fun _ => rfl)
  | object h ih =>
    have hmembers := lexes_writeMembers ih
    exact (Lexes.cons rfl (fun _ => rfl) hmembers).append (.token rfl fun _ => rfl)

/-- The text of a value without numbers is cut into its tokens. -/
theorem tokens_text {v : Value} (h : v.Numberless) : Json.tokens v.text.toList = v.tokens := by
  rw [text, String.toList_ofList]
  exact h.lexes_write.tokens_eq

end Value

end Viewport.Json
