import Nexplane.Lib.PyValue

set_option autoImplicit false

/-! Coroutines as state transformers that may raise. A statement that raises keeps what the
statements before it wrote. -/

open PyValue

def Py (σ α : Type) : Type := σ → Except Exc α × σ

namespace Py

variable {σ τ α β : Type}

instance : Monad (Py σ) where
  pure a := fun s => (.ok a,s)
  bind x f := fun s =>
    match x s with
    | (.ok a,s') => f a s'
    | (.error e,s') => (.error e,s')

def raise (e : Exc) : Py σ α := fun s => (.error e,s)

def ofExcept (x : Except Exc α) : Py σ α := fun s => (x,s)

def get : Py σ σ := fun s => (.ok s,s)

def modify (f : σ → σ) : Py σ Unit := fun s => (.ok (),f s)

/-- `try: x` whose outcome is inspected afterwards. -/
def attempt (x : Py σ α) : Py σ (Except Exc α) := fun s => (.ok (x s).1,(x s).2)

/-- `try: x except Exception as e: handler(e)`. -/
def tryExcept (x : Py σ α) (handler : Exc → Py σ α) : Py σ α := fun s =>
  match x s with
  | (.ok a,s') => (.ok a,s')
  | (.error e,s') => handler e s'

/-- A computation on a part of the state. -/
def zoom (part : σ → τ) (put : σ → τ → σ) (x : Py τ α) : Py σ α := fun s =>
  ((x (part s)).1,put s (x (part s)).2)

/-- `[f(a) for a in as]`. -/
def each (f : α → Py σ β) : List α → Py σ (List β)
  | [] => pure []
  | a :: as => do
    let b ← f a
    let bs ← each f as
    pure (b :: bs)

section Run

variable {x : Py σ α} {f : α → Py σ β} {s s' : σ} {a : α} {b : β} {e : Exc}

@[simp] theorem pure_run (a : α) (s : σ) : (pure a : Py σ α) s = (.ok a,s) := rfl

@[simp] theorem raise_run (e : Exc) (s : σ) : (raise e : Py σ α) s = (.error e,s) := rfl

@[simp] theorem ofExcept_run (x : Except Exc α) (s : σ) : (ofExcept x : Py σ α) s = (x,s) := rfl

@[simp] theorem get_run (s : σ) : (get : Py σ σ) s = (.ok s,s) := rfl

@[simp] theorem modify_run (f : σ → σ) (s : σ) : modify f s = (.ok (),f s) := rfl

@[simp] theorem attempt_run (x : Py σ α) (s : σ) : attempt x s = (.ok (x s).1,(x s).2) := rfl

@[simp] theorem zoom_run (part : σ → τ) (put : σ → τ → σ) (x : Py τ α) (s : σ) :
    zoom part put x s = ((x (part s)).1,put s (x (part s)).2) := rfl

theorem bind_run (x : Py σ α) (f : α → Py σ β) (s : σ) :
    (x >>= f) s =
      match x s with
      | (.ok a,s') => f a s'
      | (.error e,s') => (.error e,s') := rfl

theorem bind_ok (h : x s = (.ok a,s')) : (x >>= f) s = f a s' := by rw [bind_run,h]

theorem bind_error (h : x s = (.error e,s')) : (x >>= f) s = (.error e,s') := by
  rw [bind_run,h]

theorem bind_eq_ok :
    (x >>= f) s = (.ok b,s') ↔ ∃ a t, x s = (.ok a,t) ∧ f a t = (.ok b,s') := by
  rw [bind_run]
  constructor
  · intro h
    rcases hx : x s with ⟨r,t⟩
    cases r with
    | error e => simp [hx] at h
    | ok a => exact ⟨a,t,rfl,by simpa [hx] using h⟩
  · rintro ⟨a,t,hx,hf⟩
    rw [hx]
    exact hf

theorem bind_eq_error :
    (x >>= f) s = (.error e,s') ↔
      x s = (.error e,s') ∨ ∃ a t, x s = (.ok a,t) ∧ f a t = (.error e,s') := by
  rw [bind_run]
  rcases hx : x s with ⟨r,t⟩
  cases r with
  | error e => simp
  | ok a => simp

@[simp] theorem get_bind (f : σ → Py σ β) (s : σ) : (get >>= f) s = f s s := rfl

@[simp] theorem modify_bind (g : σ → σ) (f : Unit → Py σ β) (s : σ) :
    (modify g >>= f) s = f () (g s) := rfl

@[simp] theorem attempt_bind (f : Except Exc α → Py σ β) (s : σ) :
    (attempt x >>= f) s = f (x s).1 (x s).2 := rfl

@[simp] theorem pure_bind_run (a : α) (f : α → Py σ β) (s : σ) :
    ((pure a : Py σ α) >>= f) s = f a s := rfl

@[simp] theorem ofExcept_ok_bind (a : α) (f : α → Py σ β) (s : σ) :
    (ofExcept (.ok a) >>= f) s = f a s := rfl

@[simp] theorem ofExcept_error_bind (e : Exc) (f : α → Py σ β) (s : σ) :
    (ofExcept (.error e) >>= f) s = (.error e,s) := rfl

@[simp] theorem raise_bind (e : Exc) (f : α → Py σ β) (s : σ) :
    ((raise e : Py σ α) >>= f) s = (.error e,s) := rfl

theorem bind_assoc {γ : Type} (x : Py σ α) (f : α → Py σ β) (g : β → Py σ γ) :
    (x >>= f) >>= g = x >>= fun a => f a >>= g := by
  funext s
  rw [bind_run,bind_run,bind_run]
  rcases x s with ⟨_ | a,t⟩ <;> rfl

/-- A computation whose result is replaced by a value. -/
theorem bind_return {r : Except Exc β} (h : (x >>= fun _ => pure b) s = (r,s')) :
    s' = (x s).2 ∧ ∀ b', r = .ok b' → b' = b := by
  rw [bind_run] at h
  rcases hx : x s with ⟨_ | _,t⟩
  · rw [hx] at h
    obtain ⟨rfl,rfl⟩ := Prod.mk.inj h
    exact ⟨rfl,nofun⟩
  · rw [hx] at h
    obtain ⟨rfl,rfl⟩ := Prod.mk.inj h
    exact ⟨rfl,fun b' hb => (Except.ok.inj hb).symm⟩

theorem bind_pure (x : Py σ α) : (x >>= pure) = x := by
  funext s
  rw [bind_run]
  rcases x s with ⟨_ | a,t⟩ <;> rfl

theorem ofExcept_bind_eq_ok {y : Except Exc α} :
    (ofExcept y >>= f) s = (.ok b,s') ↔ ∃ a, y = .ok a ∧ f a s = (.ok b,s') := by
  cases y <;> simp

theorem zoom_bind_eq_ok {part : σ → τ} {put : σ → τ → σ} {y : Py τ α} :
    (zoom part put y >>= f) s = (.ok b,s') ↔
      ∃ a, (y (part s)).1 = .ok a ∧ f a (put s (y (part s)).2) = (.ok b,s') := by
  rw [bind_run,zoom_run]
  rcases y (part s) with ⟨r,t⟩
  cases r <;> simp

theorem tryExcept_ok (h : x s = (.ok a,s')) (handler : Exc → Py σ α) :
    tryExcept x handler s = (.ok a,s') := by rw [tryExcept,h]

theorem tryExcept_error (h : x s = (.error e,s')) (handler : Exc → Py σ α) :
    tryExcept x handler s = handler e s' := by rw [tryExcept,h]

theorem tryExcept_eq_ok {handler : Exc → Py σ α} :
    tryExcept x handler s = (.ok a,s') ↔
      x s = (.ok a,s') ∨ ∃ e t, x s = (.error e,t) ∧ handler e t = (.ok a,s') := by
  rw [tryExcept]
  rcases hx : x s with ⟨r,t⟩
  cases r <;> simp

end Run

/-- `x` keeps `I`, whether it returns or raises. -/
def Keeps (I : σ → Prop) (x : Py σ α) : Prop := ∀ s, I s → I (x s).2

section Keeps

variable {I : σ → Prop} {x : Py σ α} {f : α → Py σ β}

theorem Keeps.run {s s' : σ} {r : Except Exc α} (hx : Keeps I x) (h : x s = (r,s')) (hs : I s) :
    I s' := by
  have hk := hx s hs
  rwa [h] at hk

theorem Keeps.pure (a : α) : Keeps I (Pure.pure a : Py σ α) := fun _ h => h

theorem Keeps.raise (e : Exc) : Keeps I (Py.raise e : Py σ α) := fun _ h => h

theorem Keeps.ofExcept (x : Except Exc α) : Keeps I (Py.ofExcept x : Py σ α) := fun _ h => h

theorem Keeps.get : Keeps I (Py.get : Py σ σ) := fun _ h => h

theorem Keeps.modify {g : σ → σ} (h : ∀ s, I s → I (g s)) : Keeps I (Py.modify g) := h

/-- What holds after a first write and is kept by the rest holds in the end. -/
theorem Keeps.after_modify {g : σ → σ} {h : Unit → Py σ β} {s s' : σ} {r : Except Exc β}
    (hrest : Keeps I (h ())) (hs : I (g s)) (hrun : (Py.modify g >>= h) s = (r,s')) : I s' :=
  hrest.run hrun hs

theorem Keeps.attempt (h : Keeps I x) : Keeps I (Py.attempt x) := h

theorem Keeps.bind (hx : Keeps I x) (hf : ∀ a, Keeps I (f a)) : Keeps I (x >>= f) := by
  intro s hs
  have hmid := hx s hs
  rw [bind_run]
  rcases hr : x s with ⟨r,t⟩
  rw [hr] at hmid
  cases r with
  | error e => exact hmid
  | ok a => exact hf a t hmid

theorem Keeps.ofExcept_bind {y : Except Exc α} {f : α → Py σ β}
    (h : ∀ a, y = .ok a → Keeps I (f a)) : Keeps I (Py.ofExcept y >>= f) := by
  cases y with
  | error e => exact fun _ hs => hs
  | ok a => exact h a rfl

theorem Keeps.ite {c : Prop} [Decidable c] {x y : Py σ α} (hx : Keeps I x) (hy : Keeps I y) :
    Keeps I (if c then x else y) := by
  by_cases h : c <;> simpa [h]

theorem Keeps.tryExcept {handler : Exc → Py σ α} (hx : Keeps I x)
    (hh : ∀ e, Keeps I (handler e)) : Keeps I (Py.tryExcept x handler) := by
  intro s hs
  have hmid := hx s hs
  rw [Py.tryExcept]
  rcases hr : x s with ⟨r,t⟩
  rw [hr] at hmid
  cases r with
  | ok a => exact hmid
  | error e => exact hh e t hmid

theorem Keeps.each_mem {as : List α} (h : ∀ a ∈ as, Keeps I (f a)) : Keeps I (Py.each f as) := by
  induction as with
  | nil => exact Keeps.pure _
  | cons a as ih =>
    have hrest := ih fun b hb => h b (List.mem_cons_of_mem _ hb)
    exact (h a List.mem_cons_self).bind fun b => hrest.bind fun bs => Keeps.pure _

theorem Keeps.each (h : ∀ a, Keeps I (f a)) (as : List α) : Keeps I (Py.each f as) :=
  Keeps.each_mem fun a _ => h a

theorem Keeps.zoom {part : σ → τ} {put : σ → τ → σ} (h : ∀ s t, I s → I (put s t))
    (x : Py τ α) : Keeps I (Py.zoom part put x) := fun s hs => h s _ hs

end Keeps

/-- What each round of a loop appends to a log, the loop appends in their order. -/
theorem each_trace {γ : Type} {f : α → Py σ β} {log : σ → List γ} {entries : α → List γ}
    (hround : ∀ a b s s', f a s = (.ok b,s') → log s' = log s ++ entries a) {as : List α}
    {bs : List β} {s s' : σ} (h : each f as s = (.ok bs,s')) :
    log s' = log s ++ as.flatMap entries := by
  induction as generalizing bs s with
  | nil =>
    obtain ⟨_,rfl⟩ : [] = bs ∧ s = s' := by simpa [each] using h
    simp
  | cons a as ih =>
    obtain ⟨b,t,hb,h⟩ := bind_eq_ok.mp h
    obtain ⟨cs,u,hcs,h⟩ := bind_eq_ok.mp h
    obtain ⟨_,rfl⟩ : b :: cs = bs ∧ u = s' := by simpa using h
    rw [ih hcs,hround a b s t hb,List.flatMap_cons,List.append_assoc]

/-- A loop that is left by an exception at the first item that does not open logs the rounds
before it. -/
theorem each_prefix {γ : Type} {f : α → Py σ β} {log : σ → List γ} {entries : α → List γ}
    {opens : α → Bool}
    (hopen : ∀ a s, opens a = true → ∃ b s', f a s = (.ok b,s') ∧ log s' = log s ++ entries a)
    (hshut : ∀ a s, opens a = false → ∃ e, f a s = (.error e,s)) (as : List α) (s : σ) :
    log (each f as s).2 = log s ++ (as.takeWhile opens).flatMap entries := by
  induction as generalizing s with
  | nil => simp [each]
  | cons a as ih =>
    cases ho : opens a with
    | false =>
      obtain ⟨e,he⟩ := hshut a s ho
      simp [each,bind_run,he,ho]
    | true =>
      obtain ⟨b,t,hb,hlog⟩ := hopen a s ho
      have hrest := ih t
      rw [each,bind_ok hb,bind_run]
      rcases hr : each f as t with ⟨r,u⟩
      rw [hr] at hrest
      cases r <;> simp [hrest,hlog,ho]

/-- A loop whose rounds all return relates each item to what its round returned. -/
theorem each_related {f : α → Py σ β} {R : α → β → Prop} {as : List α}
    (h : ∀ a ∈ as, ∀ s, ∃ b s', f a s = (.ok b,s') ∧ R a b) (s : σ) :
    ∃ bs s', each f as s = (.ok bs,s') ∧ List.Forall₂ R as bs := by
  induction as generalizing s with
  | nil => exact ⟨[],s,rfl,.nil⟩
  | cons a as ih =>
    obtain ⟨b,t,hb,hab⟩ := h a (by simp) s
    obtain ⟨bs,u,hbs,hall⟩ := ih (fun a' ha => h a' (by simp [ha])) t
    exact ⟨b :: bs,u,by rw [each,bind_ok hb,bind_ok hbs]; rfl,.cons hab hall⟩

theorem each_returns {f : α → Py σ β} (h : ∀ a s, ∃ b s', f a s = (.ok b,s')) (as : List α)
    (s : σ) : ∃ bs s', each f as s = (.ok bs,s') := by
  induction as generalizing s with
  | nil => exact ⟨[],s,rfl⟩
  | cons a as ih =>
    obtain ⟨b,t,hb⟩ := h a s
    obtain ⟨bs,u,hbs⟩ := ih t
    exact ⟨b :: bs,u,by rw [each,bind_ok hb,bind_ok hbs]; rfl⟩

theorem each_ok_length {f : α → Py σ β} {as : List α} {bs : List β} {s s' : σ}
    (h : each f as s = (.ok bs,s')) : bs.length = as.length := by
  induction as generalizing bs s s' with
  | nil =>
    obtain ⟨rfl,_⟩ : [] = bs ∧ s = s' := by simpa [each] using h
    rfl
  | cons a as ih =>
    obtain ⟨b,t,_,h⟩ := bind_eq_ok.mp h
    obtain ⟨cs,u,hcs,h⟩ := bind_eq_ok.mp h
    obtain ⟨rfl,_⟩ : b :: cs = bs ∧ u = s' := by simpa using h
    simp [ih hcs]

/-- Two computations that leave the same state, and both return or both raise. -/
def Alike (x : Py σ α) (y : Py σ β) : Prop :=
  ∀ s, (x s).2 = (y s).2 ∧ (x s).1.isOk = (y s).1.isOk

section Alike

variable {γ δ : Type} {x : Py σ α} {y : Py σ β}

theorem Alike.trans {z : Py σ γ} (hxy : Alike x y) (hyz : Alike y z) : Alike x z := fun s =>
  ⟨(hxy s).1.trans (hyz s).1,(hxy s).2.trans (hyz s).2⟩

theorem Alike.symm (h : Alike x y) : Alike y x := fun s => ⟨(h s).1.symm,(h s).2.symm⟩

theorem Alike.bind {f : α → Py σ γ} {g : β → Py σ δ} (h : Alike x y)
    (hfg : ∀ a b, Alike (f a) (g b)) : Alike (x >>= f) (y >>= g) := by
  intro s
  obtain ⟨hstate,hok⟩ := h s
  rw [bind_run,bind_run]
  rcases hx : x s with ⟨rx,t⟩
  rcases hy : y s with ⟨ry,u⟩
  rw [hx,hy] at hstate hok
  obtain rfl : t = u := hstate
  cases rx with
  | error e =>
    cases ry with
    | error e' => exact ⟨rfl,rfl⟩
    | ok b => cases hok
  | ok a =>
    cases ry with
    | error e' => cases hok
    | ok b => exact hfg a b t

theorem Alike.refl (x : Py σ α) : Alike x x := fun _ => ⟨rfl,rfl⟩

/-- What is done with the result does not count. -/
theorem alike_map (x : Py σ α) (g : α → β) : Alike (x >>= fun a => pure (g a)) x := by
  intro s
  rw [bind_run]
  rcases x s with ⟨r,t⟩
  cases r <;> exact ⟨rfl,rfl⟩

theorem each_cons_alike (f : α → Py σ β) (a : α) (as : List α) :
    Alike (each f (a :: as)) (f a >>= fun _ => each f as) :=
  (Alike.refl (f a)).bind fun b _ => alike_map (each f as) (b :: ·)

theorem each_append (f : α → Py σ β) (as bs : List α) :
    Alike (each f (as ++ bs)) (each f as >>= fun _ => each f bs) := by
  induction as with
  | nil => exact .refl _
  | cons a as ih =>
    have hfirst := (each_cons_alike f a (as ++ bs)).trans ((Alike.refl (f a)).bind fun _ _ => ih)
    rw [← bind_assoc] at hfirst
    exact hfirst.trans ((each_cons_alike f a as).symm.bind fun _ _ => .refl _)

/-- Two nested loops are a loop over the pairs. -/
theorem each_nested {f : α → Py σ β} {g : γ → Py σ δ} {items : α → List γ}
    (h : ∀ a, Alike (f a) (each g (items a))) (as : List α) :
    Alike (each f as) (each g (as.flatMap items)) := by
  induction as with
  | nil => exact fun _ => ⟨rfl,rfl⟩
  | cons a as ih =>
    rw [List.flatMap_cons]
    have hfirst := (each_cons_alike f a as).trans ((h a).bind fun _ _ => ih)
    exact hfirst.trans (each_append g _ _).symm

end Alike

end Py
