import Mathlib.Data.List.Basic

set_option autoImplicit false

/-! Actions that are carried out one after another and later undone in reverse order, each by an
undo of its own. -/

namespace Saga

variable {σ α ρ : Type}

/-- `Chain R as s s'`: the entries of `as` lead from `s` to `s'`, by a step of `R` each. -/
inductive Chain (R : α → σ → σ → Prop) : List α → σ → σ → Prop where
  | nil (s : σ) : Chain R [] s s
  | cons {a : α} {as : List α} {s t u : σ} : R a s t → Chain R as t u → Chain R (a :: as) s u

/-- What `view` showed before the action is back after its undo, as long as it has stayed the same
in between. -/
def Compensates (view : σ → ρ) (act undo : α → σ → σ → Prop) (a : α) : Prop :=
  ∀ s s' t t', act a s s' → view t = view s' → undo a t t' → view t' = view s

section Rules

variable {R act undo : α → σ → σ → Prop} {view : σ → ρ} {a : α} {as bs : List α}
  {s s' t t' u : σ}

theorem chain_nil : Chain R [] s s' ↔ s = s' := by
  constructor
  · intro h
    cases h
    rfl
  · rintro rfl
    exact .nil s

theorem chain_cons : Chain R (a :: as) s u ↔ ∃ t, R a s t ∧ Chain R as t u := by
  constructor
  · intro h
    cases h with
    | cons h hrest => exact ⟨_,h,hrest⟩
  · rintro ⟨t,h,hrest⟩
    exact .cons h hrest

theorem chain_append : Chain R (as ++ bs) s u ↔ ∃ t, Chain R as s t ∧ Chain R bs t u := by
  induction as generalizing s with
  | nil => simp [chain_nil]
  | cons a as ih =>
    simp only [List.cons_append,chain_cons,ih]
    constructor
    · rintro ⟨m,ha,t,has,hbs⟩
      exact ⟨t,⟨m,ha,has⟩,hbs⟩
    · rintro ⟨t,⟨m,ha,has⟩,hbs⟩
      exact ⟨m,ha,t,has,hbs⟩

theorem chain_concat : Chain R (as ++ [a]) s u ↔ ∃ t, Chain R as s t ∧ R a t u := by
  simp [chain_append,chain_cons,chain_nil]

/-- The undos of all actions, last one first, bring back what was there before the first. -/
theorem Chain.undone (hact : Chain act as s s') (h : ∀ a ∈ as, Compensates view act undo a)
    (hview : view t = view s') (hundo : Chain undo as.reverse t t') : view t' = view s := by
  induction hact generalizing t' with
  | nil s =>
    obtain rfl : t = t' := chain_nil.mp hundo
    exact hview
  | @cons a as s m u ha hrest ih =>
    rw [List.reverse_cons] at hundo
    obtain ⟨v,hlater,hfirst⟩ := chain_concat.mp hundo
    have hmid : view v = view m := ih (fun b hb => h b (List.mem_cons_of_mem _ hb)) hview hlater
    exact h a List.mem_cons_self s m v t' ha hmid hfirst

end Rules

end Saga
