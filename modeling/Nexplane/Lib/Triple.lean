import Nexplane.Lib.Py

set_option autoImplicit false

/-! Triples of coroutines: a precondition, a postcondition for the return, and one for the
exceptions. -/

open PyValue

namespace Py

variable {σ α β : Type}

/-- From a state with `P`, `x` returns a value in a state with `Q`, or raises in one with `E`. -/
def Triple (P : σ → Prop) (x : Py σ α) (Q : α → σ → Prop) (E : σ → Prop) : Prop :=
  ∀ s, P s → (∀ a s', x s = (.ok a,s') → Q a s') ∧ ∀ e s', x s = (.error e,s') → E s'

namespace Triple

variable {P R : σ → Prop} {Q : β → σ → Prop} {E : σ → Prop} {x : Py σ α} {f : α → Py σ β}
  {y : Py σ β}

theorem pure {b : β} (h : ∀ s, P s → Q b s) : Triple P (Pure.pure b) Q E := by
  intro s hs
  constructor
  · intro a s' heq
    obtain ⟨hb,rfl⟩ := Prod.mk.inj heq
    obtain rfl := Except.ok.inj hb
    exact h s hs
  · intro e s' heq
    cases heq

theorem bind {M : α → σ → Prop} (hx : Triple P x M E) (hf : ∀ a, Triple (M a) (f a) Q E) :
    Triple P (x >>= f) Q E := by
  intro s hs
  obtain ⟨hok,herror⟩ := hx s hs
  rw [bind_run]
  rcases hr : x s with ⟨e | a,t⟩
  · constructor
    · intro b s' h
      cases h
    · intro e' s' h
      obtain ⟨_,rfl⟩ := Prod.mk.inj h
      exact herror e t hr
  · exact hf a t (hok a t hr)

theorem keeps (h : Keeps P x) : Triple P x (fun _ => P) P :=
  fun _ hs => ⟨fun _ _ hx => h.run hx hs,fun _ _ hx => h.run hx hs⟩

theorem mono_pre {P' : σ → Prop} (h : Triple P y Q E) (hP : ∀ s, P' s → P s) :
    Triple P' y Q E := fun s hs => h s (hP s hs)

theorem mono_error {E' : σ → Prop} (h : Triple P y Q E) (hE : ∀ s, E s → E' s) :
    Triple P y Q E' :=
  fun s hs => ⟨(h s hs).1,fun e s' hy => hE s' ((h s hs).2 e s' hy)⟩

theorem keeps_bind (hE : ∀ s, P s → E s) (hx : Keeps P x) (hf : ∀ a, Triple P (f a) Q E) :
    Triple P (x >>= f) Q E := (mono_error (keeps hx) hE).bind hf

theorem ofExcept {z : Except Exc β} (hE : ∀ s, P s → E s)
    (hQ : ∀ b, z = .ok b → ∀ s, P s → Q b s) : Triple P (Py.ofExcept z) Q E := by
  intro s hs
  constructor
  · intro b s' h
    obtain ⟨hb,rfl⟩ := Prod.mk.inj h
    exact hQ b hb s hs
  · intro e s' h
    obtain ⟨_,rfl⟩ := Prod.mk.inj h
    exact hE s hs

theorem ofExcept_bind {z : Except Exc α} (hE : ∀ s, P s → E s)
    (hf : ∀ a, z = .ok a → Triple P (f a) Q E) : Triple P (Py.ofExcept z >>= f) Q E := by
  cases z with
  | ok a => exact hf a rfl
  | error e =>
    exact bind (M := fun _ _ => False) (ofExcept hE fun _ h => by cases h) fun _ _ h => h.elim

theorem get_bind {g : σ → Py σ β} (hg : ∀ s, P s → Triple P (g s) Q E) :
    Triple P (Py.get >>= g) Q E := fun s hs => hg s hs s hs

theorem modify_bind {u : σ → σ} {g : Unit → Py σ β} (hu : ∀ s, P s → R (u s))
    (hg : Triple R (g ()) Q E) : Triple P (Py.modify u >>= g) Q E := fun s hs => hg (u s) (hu s hs)

theorem attempt_bind {g : Except Exc α → Py σ β} (hx : Keeps P x)
    (hg : ∀ r, Triple P (g r) Q E) : Triple P (Py.attempt x >>= g) Q E :=
  fun s hs => hg (x s).1 (x s).2 (hx s hs)

theorem ite {c : Prop} [Decidable c] {z : Py σ β} (hy : c → Triple P y Q E)
    (hz : ¬c → Triple P z Q E) : Triple P (if c then y else z) Q E := by
  by_cases h : c <;> simp [h,hy,hz]

end Triple

end Py
