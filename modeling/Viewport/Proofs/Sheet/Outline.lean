import Viewport.Proofs.Sheet.Visit

/-!
# What edits leave of a stylesheet

No declaration and no at-rule is lost when declarations are edited and parameters are replaced:
both stand in the same order as before. So do the effects of a visit of the at-rules.
-/

namespace Viewport

/-- The name and the parameters of an at-rule. -/
structure Header where
  name : String
  params : String
deriving DecidableEq, Repr

namespace Node

/-- The at-rules among nodes, at any depth, in document order: an at-rule before those in it. -/
def atRules : List Node → List Header
  | [] => []
  | .atRule n p ns :: rest => ⟨n, p⟩ :: (atRules ns ++ atRules rest)
  | .rule _ ns :: rest => atRules ns ++ atRules rest
  | .declaration _ :: rest => atRules rest
  | .comment _ :: rest => atRules rest

/-- Edits of declarations change no at-rule. -/
@[simp] theorem atRules_edited (nodes : List Node) (es : List Edit) :
    atRules (edited nodes es) = atRules nodes := by
  fun_induction edited nodes es with
  | case1 => rfl
  | case2 d t rest e es ih =>
    cases e.detach <;> simp [atRules, ih]
  | case3 d rest e es hr ih => simp [atRules, ih]
  | case4 d rest ih => simp [atRules, ih]
  | case5 s ns rest es ih ih' => simp [atRules, ih, ih']
  | case6 n p ns rest es ih ih' => simp [atRules, ih, ih']
  | case7 t rest es ih => simp [atRules, ih]

/-- New parameters change the headers of at-rules, each on its own. -/
theorem atRules_withParams (g : (name params : String) → String) (nodes : List Node) :
    atRules (withParams g nodes) =
      (atRules nodes).map fun h => ⟨h.name, g h.name h.params⟩ := by
  fun_induction withParams g nodes with
  | case1 => simp [atRules]
  | case2 n p ns rest ih ih' => simp [atRules, ih, ih']
  | case3 s ns rest ih ih' => simp [atRules, ih, ih']
  | case4 d rest ih => simp [atRules, ih]
  | case5 t rest ih => simp [atRules, ih]

/-- New parameters of at-rules change no declaration. -/
@[simp] theorem declarations_withParams (g : (name params : String) → String)
    (nodes : List Node) : declarations (withParams g nodes) = declarations nodes := by
  fun_induction withParams g nodes with
  | case1 => rfl
  | case2 n p ns rest ih ih' => simp [declarations, ih, ih']
  | case3 s ns rest ih ih' => simp [declarations, ih, ih']
  | case4 d rest ih => simp [declarations, ih]
  | case5 t rest ih => simp [declarations, ih]

/-- With one edit for each declaration, the declarations are those of the edits. -/
theorem declarations_edited (nodes : List Node) (es : List Edit)
    (h : es.length = (declarations nodes).length) :
    declarations (edited nodes es) = es.map Edit.declaration := by
  fun_induction edited nodes es with
  | case1 es =>
    obtain rfl : es = [] := List.eq_nil_of_length_eq_zero (by simpa [declarations] using h)
    simp [declarations]
  | case2 d t rest e es ih =>
    have hes := ih (by simpa [declarations] using h)
    cases e.detach <;> simp [declarations, hes]
  | case3 d rest e es hr ih => simp [declarations, ih (by simpa [declarations] using h)]
  | case4 d rest ih => simp [declarations] at h
  | case5 s ns rest es ih ih' | case6 n p ns rest es ih ih' =>
    rw [declarations, List.length_append] at h
    have hns := ih (by rw [List.length_take]; omega)
    have hrest := ih' (by rw [List.length_drop]; omega)
    rw [declarations, hns, hrest, ← List.map_append, List.take_append_drop]
  | case7 t rest es ih => rw [declarations, ih (by simpa [declarations] using h)]

/-- A visitor of at-rules whose effect depends on the parameters alone has it once for each at-rule
of the name, in document order. -/
theorem run_visitAtRules_snd {σ : Type} {name : String}
    {f : (name params : String) → List Node → StateM σ String} {step : σ → String → σ}
    (h : ∀ n p ns start, ((f n p ns).run start).2 = step start p) (nodes : List Node) (start : σ) :
    ((visitAtRules name f nodes).run start).2 =
      ((atRules nodes).filter fun h => sameAsciiCase h.name name).foldl
        (fun state h => step state h.params) start := by
  fun_induction atRules nodes generalizing start with
  | case1 => rw [visitAtRules, run_pure_snd]; rfl
  | case2 n p ns rest ih ih' =>
    rw [visitAtRules, List.filter_cons, List.filter_append]
    split <;> simp only [run_bind_snd, run_pure_snd, h, ih, ih', List.foldl_cons, List.foldl_append]
  | case3 s ns rest ih ih' =>
    rw [visitAtRules, List.filter_append, List.foldl_append]
    simp only [run_bind_snd, run_pure_snd, ih, ih']
  | case4 d rest ih | case5 t rest ih =>
    rw [visitAtRules]
    · simp only [run_bind_snd, run_pure_snd, ih]
    all_goals simp

end Node

namespace Sheet

def atRules (s : Sheet) : List Header := Node.atRules s.nodes

end Sheet

end Viewport
