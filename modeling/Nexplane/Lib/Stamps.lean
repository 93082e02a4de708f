import Mathlib.Logic.Function.Basic

set_option autoImplicit false

/-! Stamps that items take one after the other, each above the stamps of the items it conflicts
with. -/

namespace Stamps

variable {ι : Type}

/-- Of two items in conflict, the one that took its stamp later has the greater one. -/
def Ordered (conflict : ι → ι → Prop) (stamp taken : ι → Option Nat) : Prop :=
  ∀ i j m n a b, i ≠ j → conflict i j → stamp i = some m → stamp j = some n →
    taken i = some a → taken j = some b → a < b → m < n

variable {conflict : ι → ι → Prop} {stamp taken : ι → Option Nat} {i : ι} {n now : Nat}

theorem ordered_empty : Ordered conflict (fun _ => none) taken :=
  fun _ _ _ _ _ _ _ _ hm => absurd hm (by simp)

variable [DecidableEq ι]

/-- A stamp that is taken last must be above those in conflict with it. -/
theorem Ordered.take (h : Ordered conflict stamp taken)
    (habove : ∀ j m, j ≠ i → conflict j i → stamp j = some m → m < n)
    (hlast : ∀ j a, taken j = some a → a < now) :
    Ordered conflict (Function.update stamp i (some n)) (Function.update taken i (some now)) := by
  intro j k m m' a b hne hc hm hm' ha hb hlt
  by_cases hk : k = i
  · subst hk
    obtain rfl : n = m' := by simpa using hm'
    rw [Function.update_of_ne hne] at hm
    exact habove j m hne hc hm
  · rw [Function.update_of_ne hk] at hm' hb
    by_cases hj : j = i
    · subst hj
      obtain rfl : now = a := by simpa using ha
      exact absurd (hlast k b hb) (Nat.lt_asymm hlt)
    · rw [Function.update_of_ne hj] at hm ha
      exact h j k m m' a b hne hc hm hm' ha hb hlt

theorem recent_take (hlast : ∀ j a, taken j = some a → a < now) (j : ι) (a : Nat)
    (h : Function.update taken i (some now) j = some a) : a < now + 1 := by
  by_cases hj : j = i
  · subst hj
    obtain rfl : now = a := by simpa using h
    exact Nat.lt_succ_self _
  · rw [Function.update_of_ne hj] at h
    exact Nat.lt_succ_of_lt (hlast j a h)

theorem distinct_take (h : ∀ j k a, taken j = some a → taken k = some a → j = k)
    (hlast : ∀ j a, taken j = some a → a < now) (j k : ι) (a : Nat)
    (hj : Function.update taken i (some now) j = some a)
    (hk : Function.update taken i (some now) k = some a) : j = k := by
  by_cases hji : j = i <;> by_cases hki : k = i
  · rw [hji,hki]
  · subst hji
    obtain rfl : now = a := by simpa using hj
    rw [Function.update_of_ne hki] at hk
    exact absurd (hlast k _ hk) (Nat.lt_irrefl _)
  · subst hki
    obtain rfl : now = a := by simpa using hk
    rw [Function.update_of_ne hji] at hj
    exact absurd (hlast j _ hj) (Nat.lt_irrefl _)
  · rw [Function.update_of_ne hji] at hj
    rw [Function.update_of_ne hki] at hk
    exact h j k a hj hk

end Stamps
