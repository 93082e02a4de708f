import Mathlib.Data.List.Basic

set_option autoImplicit false

/-! Criteria on a list of votes that hold exactly when one vote alone meets them. -/

namespace Votes

variable {α : Type}

/-- A criterion that a list meets exactly when one of its members does alone. -/
def Decisive (P : List α → Prop) : Prop := ∀ xs, P xs ↔ ∃ x ∈ xs, P [x]

variable {P : List α → Prop}

theorem Decisive.not_nil (h : Decisive P) : ¬P [] := by
  intro hp
  obtain ⟨x,hx,_⟩ := (h []).mp hp
  exact absurd hx List.not_mem_nil

theorem Decisive.mono (h : Decisive P) {xs ys : List α} (hs : ∀ x ∈ xs, x ∈ ys) (hp : P xs) :
    P ys := by
  obtain ⟨x,hx,h1⟩ := (h xs).mp hp
  exact (h ys).mpr ⟨x,hs x hx,h1⟩

theorem Decisive.append (h : Decisive P) (xs ys : List α) : P (xs ++ ys) ↔ P xs ∨ P ys := by
  constructor
  · intro hp
    obtain ⟨x,hx,h1⟩ := (h _).mp hp
    rcases List.mem_append.mp hx with hx | hx
    · exact Or.inl ((h xs).mpr ⟨x,hx,h1⟩)
    · exact Or.inr ((h ys).mpr ⟨x,hx,h1⟩)
  · rintro (hp | hp)
    · exact h.mono (fun x hx => List.mem_append_left _ hx) hp
    · exact h.mono (fun x hx => List.mem_append_right _ hx) hp

end Votes
