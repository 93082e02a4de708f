import Mathlib.Data.List.Basic
import Nexplane.Lib.Lists

set_option autoImplicit false

/-! Reading the checks of a handler back from its success. -/

namespace Checks

variable {ε α β : Type}

@[simp] theorem bind_eq_ok {x : Except ε α} {f : α → Except ε β} {b : β} :
    (x >>= f) = .ok b ↔ ∃ a, x = .ok a ∧ f a = .ok b := by
  cases x with
  | error e => simp [bind,Except.bind]
  | ok a => simp [bind,Except.bind]

theorem bind_eq_error {x : Except ε α} {f : α → Except ε β} {e : ε} :
    (x >>= f) = .error e ↔ x = .error e ∨ ∃ a, x = .ok a ∧ f a = .error e := by
  cases x with
  | error e => simp [bind,Except.bind]
  | ok a => simp [bind,Except.bind]

@[simp] theorem throw_ne_ok {e : ε} {b : β} : (throw e : Except ε β) = .ok b ↔ False := by
  simp [throw,throwThe,MonadExceptOf.throw]

@[simp] theorem pure_eq_ok {a b : β} : (pure a : Except ε β) = .ok b ↔ a = b := by
  simp [pure,Except.pure]

@[simp] theorem ite_eq_ok {c : Prop} [Decidable c] {x y : Except ε β} {b : β} :
    (if c then x else y) = .ok b ↔ c ∧ x = .ok b ∨ ¬c ∧ y = .ok b := by
  by_cases h : c <;> simp [h]

theorem toOption_eq_some {x : Except ε α} {a : α} : x.toOption = some a ↔ x = .ok a := by
  cases x <;> simp [Except.toOption]

theorem isOk_iff {x : Except ε α} : x.isOk = true ↔ ∃ a, x = .ok a := by
  cases x <;> simp [Except.isOk,Except.toBool]

theorem throw_def (e : ε) : (throw e : Except ε α) = .error e := rfl

theorem pure_def (a : α) : (pure a : Except ε α) = .ok a := rfl

theorem ok_bind (a : α) (f : α → Except ε β) : (Except.ok a >>= f) = f a := rfl

theorem error_bind (e : ε) (f : α → Except ε β) : (Except.error e >>= f) = .error e := rfl

/-- The check answers, and answers yes. -/
def passes (p : α → Except ε Bool) (a : α) : Bool := (p a).toOption.getD false

theorem eq_passes {p : α → Except ε Bool} {a : α} (h : ∃ b, p a = .ok b) :
    p a = .ok (passes p a) := by
  obtain ⟨b,hb⟩ := h
  rw [passes,hb]
  rfl

section Lists

variable {κ : Type} {p : α → Except ε Bool} {key : α → Except ε κ} {xs ys acc : List α}

theorem filterAuxM_ok (h : xs.filterAuxM p acc = .ok ys) :
    ys = (xs.filter (passes p)).reverse ++ acc := by
  induction xs generalizing acc with
  | nil => exact (pure_eq_ok.mp h).symm
  | cons x xs ih =>
    obtain ⟨b,hb,h⟩ := bind_eq_ok.mp h
    have hx : passes p x = b := by rw [passes,hb]; rfl
    rw [ih h]
    cases b <;> simp [hx]

theorem filterM_ok (h : xs.filterM p = .ok ys) : ys = xs.filter (passes p) := by
  obtain ⟨rev,hrev,h⟩ := bind_eq_ok.mp h
  rw [← pure_eq_ok.mp h,filterAuxM_ok hrev]
  simp

theorem filterAuxM_eq_ok {g : α → Bool} (h : ∀ x ∈ xs, p x = .ok (g x)) :
    xs.filterAuxM p acc = .ok ((xs.filter g).reverse ++ acc) := by
  induction xs generalizing acc with
  | nil => rfl
  | cons x xs ih =>
    have hrest : ∀ acc, xs.filterAuxM p acc = .ok ((xs.filter g).reverse ++ acc) := fun _ =>
      ih fun y hy => h y (by simp [hy])
    rw [List.filterAuxM,h x (by simp),ok_bind,hrest]
    cases hx : g x <;> simp [hx]

theorem filterM_eq_ok {g : α → Bool} (h : ∀ x ∈ xs, p x = .ok (g x)) :
    xs.filterM p = .ok (xs.filter g) := by
  rw [List.filterM,filterAuxM_eq_ok h,ok_bind,List.append_nil,List.reverse_reverse]
  rfl

theorem mapM_forall₂ {f : α → Except ε β} {bs : List β} (h : xs.mapM f = .ok bs) :
    List.Forall₂ (fun x b => f x = .ok b) xs bs := by
  induction xs generalizing bs with
  | nil =>
    obtain rfl := pure_eq_ok.mp h
    exact .nil
  | cons x xs ih =>
    rw [List.mapM_cons] at h
    obtain ⟨b,hb,h⟩ := bind_eq_ok.mp h
    obtain ⟨rest,hrest,h⟩ := bind_eq_ok.mp h
    obtain rfl := pure_eq_ok.mp h
    exact .cons hb (ih hrest)

theorem mapM_eq_ok {f : α → Except ε β} {g : α → β} (h : ∀ x ∈ xs, f x = .ok (g x)) :
    xs.mapM f = .ok (xs.map g) := by
  induction xs with
  | nil => rfl
  | cons x xs ih =>
    rw [List.mapM_cons,h x (by simp),ih fun y hy => h y (by simp [hy])]
    rfl

theorem mapM_mem {f : α → Except ε β} {bs : List β} (h : xs.mapM f = .ok bs) :
    ∀ b ∈ bs, ∃ x ∈ xs, f x = .ok b := Lists.forall₂_mem_right (mapM_forall₂ h)

theorem mem_mapM_iff {f : α → Except ε β} {bs : List β} (h : xs.mapM f = .ok bs) (b : β) :
    b ∈ bs ↔ ∃ x ∈ xs, f x = .ok b := by
  refine ⟨mapM_mem h b,?_⟩
  rintro ⟨x,hx,hb⟩
  obtain ⟨b',hb',hx'⟩ := Lists.forall₂_mem_left (mapM_forall₂ h) x hx
  obtain rfl := Except.ok.inj (hx'.symm.trans hb)
  exact hb'

/-- What each step keeps holds of the result. -/
theorem foldlM_invariant {P : β → Prop} {f : β → α → Except ε β} {b b' : β}
    (hstep : ∀ b x b', P b → f b x = .ok b' → P b') (hb : P b)
    (h : xs.foldlM f b = .ok b') : P b' := by
  induction xs generalizing b with
  | nil =>
    obtain rfl := pure_eq_ok.mp h
    exact hb
  | cons x xs ih =>
    rw [List.foldlM_cons] at h
    obtain ⟨b₁,hx,h⟩ := bind_eq_ok.mp h
    exact ih (hstep b x b₁ hb hx) h

/-- The pairs of a key and an item that sorting by a computed key starts from. -/
theorem mapM_keyed {keyed : List (κ × α)}
    (h : (xs.mapM fun x => do let k ← key x; pure (k,x)) = .ok keyed) :
    keyed.map Prod.snd = xs ∧ ∀ e ∈ keyed, key e.2 = .ok e.1 := by
  have hpairs := mapM_forall₂ h
  clear h
  induction hpairs with
  | nil => simp
  | @cons x e xs keyed he _ ih =>
    obtain ⟨hmap,hkeys⟩ := ih
    obtain ⟨k,hk,he⟩ := bind_eq_ok.mp he
    obtain rfl := pure_eq_ok.mp he
    refine ⟨by simp [hmap],fun e he => ?_⟩
    rcases List.mem_cons.mp he with rfl | he
    · exact hk
    · exact hkeys e he

end Lists

end Checks
