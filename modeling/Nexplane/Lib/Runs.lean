import Mathlib.Data.List.Basic

set_option autoImplicit false

/-! Runs of a labelled transition system whose steps may be refused, with the rules by which a
fact about one step becomes a fact about every step of every run. -/

namespace Runs

/-- `step s a = none` when the system refuses `a` in state `s`. -/
structure System (σ α : Type) where
  start : σ → Prop
  step : σ → α → Option σ

/-- One accepted step: the state it left, its label and the state it reached. -/
structure Transition (σ α : Type) where
  pre : σ
  label : α
  post : σ

variable {σ α : Type}

/-- `Run S tr s`: the accepted steps `tr`, newest first, lead from a start state to `s`. -/
inductive Run (S : System σ α) : List (Transition σ α) → σ → Prop where
  | start {s : σ} : S.start s → Run S [] s
  | step {tr : List (Transition σ α)} {s s' : σ} {a : α} :
      Run S tr s → S.step s a = some s' → Run S (⟨s,a,s'⟩ :: tr) s'

def Reachable (S : System σ α) (s : σ) : Prop := ∃ tr, Run S tr s

/-- `Inv` holds at the start and every accepted step keeps it. -/
structure Inductive (S : System σ α) (Inv : σ → Prop) : Prop where
  start : ∀ s, S.start s → Inv s
  step : ∀ s a s', Inv s → S.step s a = some s' → Inv s'

/-- `Inv` holds at the start and is kept by the accepted steps that meet `G`. -/
structure InductiveUnder (S : System σ α) (G : σ → α → Prop) (Inv : σ → Prop) : Prop where
  start : ∀ s, S.start s → Inv s
  step : ∀ s a s', Inv s → G s a → S.step s a = some s' → Inv s'

variable {S : System σ α} {Inv : σ → Prop} {G : σ → α → Prop}
  {tr : List (Transition σ α)} {s : σ}

theorem Run.reachable (h : Run S tr s) : Reachable S s := ⟨tr,h⟩

theorem Run.invariant (hI : Inductive S Inv) (h : Run S tr s) : Inv s := by
  induction h with
  | start h0 => exact hI.start _ h0
  | step _ hs ih => exact hI.step _ _ _ ih hs

theorem Reachable.step {a : α} {s' : σ} (h : Reachable S s) (hs : S.step s a = some s') :
    Reachable S s' := by
  obtain ⟨tr,h⟩ := h
  exact ⟨_,h.step hs⟩

theorem Reachable.invariant (hI : Inductive S Inv) (h : Reachable S s) : Inv s := by
  obtain ⟨tr,h⟩ := h
  exact h.invariant hI

theorem Run.guarded (hI : InductiveUnder S G Inv) (h : Run S tr s)
    (hG : ∀ t ∈ tr, G t.pre t.label) : Inv s := by
  induction h with
  | start h0 => exact hI.start _ h0
  | step _ hs ih =>
    have hpre := ih fun t ht => hG t (List.mem_cons_of_mem _ ht)
    exact hI.step _ _ _ hpre (hG _ List.mem_cons_self) hs

theorem Run.transition (h : Run S tr s) :
    ∀ t ∈ tr, Reachable S t.pre ∧ S.step t.pre t.label = some t.post := by
  induction h with
  | start _ => simp
  | step hr hs ih =>
    intro t ht
    rcases List.mem_cons.mp ht with rfl | ht
    · exact ⟨hr.reachable,hs⟩
    · exact ih t ht

/-- What an `E` step brings about and no step undoes, under an invariant of the guarded steps,
holds at the end of a guarded run with an `E` step. -/
theorem Run.leaves_under {E : Transition σ α → Prop} {Q : σ → Prop}
    (hI : InductiveUnder S G Inv)
    (hE : ∀ t : Transition σ α, Inv t.pre → G t.pre t.label →
      S.step t.pre t.label = some t.post → E t → Q t.post)
    (hQ : ∀ t : Transition σ α, Inv t.pre → G t.pre t.label → S.step t.pre t.label = some t.post →
      Q t.pre → Q t.post)
    (h : Run S tr s) (hG : ∀ t ∈ tr, G t.pre t.label) : (∃ t ∈ tr, E t) → Q s := by
  induction h with
  | start _ => simp
  | @step tr s s' a hr hs ih =>
    have hG' : ∀ t ∈ tr, G t.pre t.label := fun t ht => hG t (List.mem_cons_of_mem _ ht)
    have hinv := hr.guarded hI hG'
    have hga := hG _ List.mem_cons_self
    rintro ⟨t,ht,he⟩
    rcases List.mem_cons.mp ht with rfl | ht
    · exact hE _ hinv hga hs he
    · exact hQ ⟨s,a,s'⟩ hinv hga hs (ih hG' ⟨t,ht,he⟩)

theorem Run.leaves {E : Transition σ α → Prop} {Q : σ → Prop}
    (hE : ∀ t : Transition σ α, S.step t.pre t.label = some t.post → E t → Q t.post)
    (hQ : ∀ t : Transition σ α, S.step t.pre t.label = some t.post → Q t.pre → Q t.post)
    (h : Run S tr s) : (∃ t ∈ tr, E t) → Q s := by
  have hI : InductiveUnder S (fun _ _ => True) fun _ => True := ⟨by simp,by simp⟩
  exact h.leaves_under hI (fun t _ _ => hE t) (fun t _ _ => hQ t) (by simp)

/-- If an `E` step leads to a state of `Q`, which no step leaves and in which no `F` step is
possible, then no `F` step follows an `E` step. -/
theorem Run.never_after {E F : Transition σ α → Prop} {Q : σ → Prop}
    (hI : InductiveUnder S G Inv)
    (hE : ∀ t : Transition σ α, Inv t.pre → G t.pre t.label →
      S.step t.pre t.label = some t.post → E t → Q t.post)
    (hQ : ∀ t : Transition σ α, Inv t.pre → G t.pre t.label → S.step t.pre t.label = some t.post →
      Q t.pre → Q t.post)
    (hF : ∀ t : Transition σ α, G t.pre t.label → S.step t.pre t.label = some t.post →
      Q t.pre → ¬F t)
    (h : Run S tr s) (hG : ∀ t ∈ tr, G t.pre t.label) :
    tr.Pairwise fun later earlier => F later → ¬E earlier := by
  induction h with
  | start _ => simp
  | @step tr s s' a hr hs ih =>
    have hG' : ∀ t ∈ tr, G t.pre t.label := fun t ht => hG t (List.mem_cons_of_mem _ ht)
    refine List.pairwise_cons.mpr ⟨fun t ht hf he => ?_,ih hG'⟩
    have hq := hr.leaves_under hI hE hQ hG' ⟨t,ht,he⟩
    exact hF ⟨s,a,s'⟩ (hG _ List.mem_cons_self) hs hq hf

theorem Run.transition_guarded (hI : InductiveUnder S G Inv) (h : Run S tr s)
    (hG : ∀ t ∈ tr, G t.pre t.label) :
    ∀ t ∈ tr, Inv t.pre ∧ S.step t.pre t.label = some t.post := by
  induction h with
  | start _ => simp
  | step hr hs ih =>
    have hG' := fun t ht => hG t (List.mem_cons_of_mem _ ht)
    intro t ht
    rcases List.mem_cons.mp ht with rfl | ht
    · exact ⟨hr.guarded hI hG',hs⟩
    · exact ih hG' t ht

/-- A step property that, under an invariant of the guarded steps, is equivalent to their guard
holds throughout a run exactly when the guard is met throughout it. -/
theorem Run.all_iff_under {P : Transition σ α → Prop} (hI : InductiveUnder S G Inv)
    (hP : ∀ s a s', Inv s → S.step s a = some s' → (P ⟨s,a,s'⟩ ↔ G s a)) (h : Run S tr s) :
    (∀ t ∈ tr, P t) ↔ ∀ t ∈ tr, G t.pre t.label := by
  induction h with
  | start _ => simp
  | @step tr s s' a hr hs ih =>
    simp only [List.forall_mem_cons]
    constructor
    · rintro ⟨hp,htr⟩
      have hG := ih.mp htr
      exact ⟨(hP s a s' (hr.guarded hI hG) hs).mp hp,hG⟩
    · rintro ⟨hga,htr⟩
      exact ⟨(hP s a s' (hr.guarded hI htr) hs).mpr hga,ih.mpr htr⟩

theorem Inductive.under (hI : Inductive S Inv) : InductiveUnder S G Inv where
  start := hI.start
  step := by
    intro s a s' hs _ hstep
    exact hI.step s a s' hs hstep

theorem Run.all_iff {P : Transition σ α → Prop} (hI : Inductive S Inv)
    (hP : ∀ s a s', Inv s → S.step s a = some s' → (P ⟨s,a,s'⟩ ↔ G s a)) (h : Run S tr s) :
    (∀ t ∈ tr, P t) ↔ ∀ t ∈ tr, G t.pre t.label := h.all_iff_under hI.under hP

theorem Run.last {P : σ → Prop} (h : Run S tr s) (h0 : ∀ s, S.start s → P s)
    (hP : ∀ t ∈ tr, P t.post) : P s := by
  cases h with
  | start hs => exact h0 _ hs
  | step _ _ => exact hP _ List.mem_cons_self

/-- If a step from a state of `P` leads to `P` exactly when it meets `G`, then a run stays in `P`
exactly when all its steps meet `G`. -/
theorem Run.stays_iff {P : σ → Prop} (hI : Inductive S Inv) (h0 : ∀ s, S.start s → P s)
    (hP : ∀ s a s', Inv s → P s → S.step s a = some s' → (P s' ↔ G s a)) (h : Run S tr s) :
    (∀ t ∈ tr, P t.post) ↔ ∀ t ∈ tr, G t.pre t.label := by
  induction h with
  | start _ => simp
  | @step tr s s' a hr hs ih =>
    simp only [List.forall_mem_cons]
    constructor
    · rintro ⟨hpost,htr⟩
      have hpre := hr.last h0 htr
      exact ⟨(hP s a s' (hr.invariant hI) hpre hs).mp hpost,ih.mp htr⟩
    · rintro ⟨hga,htr⟩
      have hposts := ih.mpr htr
      have hpre := hr.last h0 hposts
      exact ⟨(hP s a s' (hr.invariant hI) hpre hs).mpr hga,hposts⟩

/-- The final state of replaying `as` from `s`; `none` as soon as a step is refused. -/
def System.replay (S : System σ α) : σ → List α → Option σ
  | s, [] => some s
  | s, a :: as => (S.step s a).bind fun s' => S.replay s' as

/-- The transitions of that replay, newest first, on top of `tr`. -/
def System.history (S : System σ α) :
    List (Transition σ α) → σ → List α → List (Transition σ α)
  | tr, _, [] => tr
  | tr, s, a :: as =>
    match S.step s a with
    | none => tr
    | some s' => S.history (⟨s,a,s'⟩ :: tr) s' as

theorem Run.replay {as : List α} {s' : σ} (h : Run S tr s) (hr : S.replay s as = some s') :
    Run S (S.history tr s as) s' := by
  induction as generalizing s tr with
  | nil =>
    obtain rfl : s = s' := by simpa [System.replay] using hr
    exact h
  | cons a as ih =>
    obtain ⟨t,ht,hr⟩ := Option.bind_eq_some_iff.mp hr
    simpa [System.history,ht] using ih (h.step ht) hr

theorem System.history_labels {as : List α} {s' : σ} (hr : S.replay s as = some s') :
    (S.history tr s as).map Transition.label = as.reverse ++ tr.map Transition.label := by
  induction as generalizing s tr with
  | nil => rfl
  | cons a as ih =>
    obtain ⟨t,ht,hr⟩ := Option.bind_eq_some_iff.mp hr
    simp [System.history,ht,ih hr]

theorem System.history_append (S : System σ α) (tr : List (Transition σ α)) (s : σ)
    (as : List α) : S.history tr s as = S.history [] s as ++ tr := by
  induction as generalizing s tr with
  | nil => rfl
  | cons a as ih =>
    cases h : S.step s a with
    | none => simp [System.history,h]
    | some s' =>
      simp only [System.history,h]
      rw [ih (⟨s,a,s'⟩ :: tr),ih [⟨s,a,s'⟩],List.append_assoc,List.singleton_append]

/-- `G` is met at every step of that replay. -/
def System.Meets (S : System σ α) (G : σ → α → Prop) : σ → List α → Prop
  | _, [] => True
  | s, a :: as =>
    G s a ∧
      match S.step s a with
      | none => True
      | some s' => S.Meets G s' as

theorem System.history_meets {as : List α} (hm : S.Meets G s as)
    (htr : ∀ t ∈ tr, G t.pre t.label) : ∀ t ∈ S.history tr s as, G t.pre t.label := by
  induction as generalizing s tr with
  | nil => exact htr
  | cons a as ih =>
    obtain ⟨ha,hm⟩ := hm
    cases h : S.step s a with
    | none => simpa [System.history,h] using htr
    | some s' =>
      rw [h] at hm
      simp only [System.history,h]
      refine ih hm fun t ht => ?_
      rcases List.mem_cons.mp ht with rfl | ht
      · exact ha
      · exact htr t ht

end Runs
