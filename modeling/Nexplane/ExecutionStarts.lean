import Nexplane.ExecutionRaces

set_option autoImplicit false

/-! How many execution workflows the execute requests and the scheduled worker start for one
change request. -/

namespace Nexplane
open Runs Orm

def IsWorkflowStart : RaceEvent → Prop
  | .startWorkflow _ => True
  | _ => False

/-- One workflow is started at most, and one workflow performs all actions. -/
def SingleExecution (tr : List (Transition RaceState RaceEvent)) : Prop :=
  (tr.Pairwise fun later earlier => IsWorkflowStart later.label → ¬IsWorkflowStart earlier.label) ∧
    ∀ t ∈ tr, ∀ u ∈ tr, ∀ i j, t.label = .performAction i → u.label = .performAction j → i = j

/-- The workflow has not yet committed the status executing. -/
def WorkflowPhase.entering : WorkflowPhase → Bool
  | .begun => true
  | .updating target _ => target = .executing
  | _ => false

/-- A start passes its status check while no other start is past it and no started workflow has
still to commit executing. -/
def CleanStart (s : RaceState) : RaceEvent → Prop
  | .startSelect _ =>
    (∀ j, s.starts j = none) ∧ ∀ j phase, s.workflows j = some phase → phase.entering = false
  | _ => True

/-- Start `i` is past its check or has become a workflow. -/
def RaceState.Engaged (s : RaceState) (i : Nat) : Prop :=
  s.starts i ≠ none ∨ s.workflows i ≠ none

/-- One start is under way at most, and its workflow leaves the status approved behind. -/
structure SingleInv (s : RaceState) : Prop where
  single : ∀ i j, s.Engaged i → s.Engaged j → i = j
  entering : s.status = .approved → ∀ i phase, s.workflows i = some phase → phase.entering = true
  loaded : s.status = .approved → ∀ i target loaded,
    s.workflows i = some (.updating target loaded) → loaded = .approved
  targets : ∀ i target loaded, s.workflows i = some (.updating target loaded) → target ≠ .approved

/-- A workflow has been started and no start is left behind it. -/
structure Started (s : RaceState) : Prop where
  starts : ∀ i, s.starts i = none
  workflow : ∃ i, s.workflows i ≠ none

section
variable {s s' : RaceState} {i j : Nat}

theorem WorkflowPhase.entering_targets {phase : WorkflowPhase} {target : ChangeRequestStatus}
    (h : phase.entering = true) (ht : target ∈ phase.targets) : target = .executing := by
  cases phase <;> simp_all [entering,targets]

@[simp] theorem setStart_engaged {p : Option StartPhase} :
    (s.setStart i p).Engaged j ↔ (if j = i then p ≠ none else s.starts j ≠ none) ∨
      s.workflows j ≠ none := by
  by_cases hji : j = i <;> simp [RaceState.Engaged,hji]

theorem setWorkflow_engaged {p : WorkflowPhase} (h : (s.setWorkflow i (some p)).Engaged j)
    (hi : s.Engaged i) : s.Engaged j := by
  by_cases hji : j = i
  · exact hji ▸ hi
  · simpa [RaceState.Engaged,hji] using h

/-- A step that writes no status: one start stays under way, and what it becomes still enters. -/
theorem SingleInv.frame (hi : SingleInv s) (hst : s'.status = s.status)
    (heng : ∀ j, s'.Engaged j → s.Engaged j)
    (hw : ∀ j phase, s'.workflows j = some phase → s.workflows j = some phase ∨
      phase = .begun ∨ ∃ old target, s.workflows j = some old ∧ target ∈ old.targets ∧
        phase = .updating target s.status) : SingleInv s' := by
  refine ⟨fun j k hj hk => hi.single j k (heng j hj) (heng k hk),?_,?_,?_⟩
  · intro ha j phase hp
    rw [hst] at ha
    obtain h | rfl | ⟨old,target,ho,ht,rfl⟩ := hw j phase hp
    · exact hi.entering ha j phase h
    · rfl
    · have he := WorkflowPhase.entering_targets (hi.entering ha j old ho) ht
      simp [WorkflowPhase.entering,he]
  · intro ha j target loaded hp
    rw [hst] at ha
    obtain h | h | ⟨old,t,ho,_,h⟩ := hw j _ hp
    · exact hi.loaded ha j target loaded h
    · cases h
    · cases h
      exact ha
  · intro j target loaded hp
    obtain h | h | ⟨old,t,ho,ht,h⟩ := hw j _ hp
    · exact hi.targets j target loaded h
    · cases h
    · cases h
      exact (WorkflowPhase.targets_ne ht).1

theorem SingleInv.left (hi : SingleInv s) (hst : s'.status ≠ .approved)
    (heng : ∀ j, s'.Engaged j → s.Engaged j)
    (hw : ∀ j target loaded, s'.workflows j = some (.updating target loaded) →
      s.workflows j = some (.updating target loaded)) : SingleInv s' :=
  ⟨fun j k hj hk => hi.single j k (heng j hj) (heng k hk),fun ha => absurd ha hst,
    fun ha => absurd ha hst,fun j target loaded hp => hi.targets j target loaded (hw j _ _ hp)⟩

theorem WorkflowPhase.after_ne_updating {target t l : ChangeRequestStatus} :
    WorkflowPhase.after target ≠ .updating t l := by
  cases target <;> simp [after]

theorem SingleInv.unstarted (hi : SingleInv s) (hG : CleanStart s (.startSelect i))
    (ha : s.status = .approved) : ∀ j, ¬s.Engaged j := by
  rintro j (hj | hj)
  · exact hj (hG.1 j)
  · obtain ⟨phase,hp⟩ := Option.ne_none_iff_exists'.mp hj
    have he := hi.entering ha j phase hp
    rw [hG.2 j phase hp] at he
    cases he

/-- The commit of a status update leaves a change request that is not approved. -/
theorem SingleInv.updateCommit {target loaded : ChangeRequestStatus} (hi : SingleInv s)
    (hw : s.workflows i = some (.updating target loaded)) :
    flushColumn s.status loaded target ≠ .approved := by
  have ht := hi.targets i target loaded hw
  rcases flushColumn_cases s.status loaded target with ⟨hl,hf⟩ | ⟨_,hf⟩ <;> rw [hf]
  · intro ha
    exact ht (hl ▸ hi.loaded ha i target loaded hw)
  · exact ht

theorem singleInv_inductive : InductiveUnder raceSystem CleanStart SingleInv := by
  refine ⟨?_,?_⟩
  · rintro s ⟨h1,h2,_⟩
    exact ⟨by simp [RaceState.Engaged,h1,h2],by simp [h2],by simp [h2],by simp [h2]⟩
  · intro s e s' hi hG h
    cases e with
    | startSelect i =>
      obtain ⟨ha,rfl⟩ := startSelect_some h
      have hno := hi.unstarted hG ha
      have honly : ∀ j, (s.setStart i (some .checked)).Engaged j → j = i := by
        intro j hj
        by_contra hji
        exact hno j (by simpa [RaceState.Engaged,hji] using hj)
      refine ⟨fun j k hj hk => (honly j hj).trans (honly k hk).symm,hi.entering,hi.loaded,
        hi.targets⟩
    | startCommit i =>
      obtain ⟨hs,rfl⟩ := startCommit_some h
      refine hi.frame rfl ?_ fun j phase hp => Or.inl hp
      intro j hj
      by_cases hji : j = i
      · exact Or.inl (by simp [hji,hs])
      · simpa [RaceState.Engaged,hji] using hj
    | startWorkflow i =>
      obtain ⟨hs,rfl⟩ := startWorkflow_some h
      refine hi.frame rfl ?_ ?_
      · intro j hj
        by_cases hji : j = i
        · exact Or.inl (by simp [hji,hs])
        · simpa [RaceState.Engaged,hji] using hj
      · intro j phase hp
        by_cases hji : j = i
        · simp only [setWorkflow_workflows,hji,if_true,Option.some.injEq] at hp
          exact Or.inr (Or.inl hp.symm)
        · exact Or.inl (by simpa [hji] using hp)
    | updateSelect i target =>
      obtain ⟨old,hw,ht,rfl⟩ := updateSelect_some h
      have heng : s.Engaged i := Or.inr (by simp [hw])
      refine hi.frame rfl (fun j hj => setWorkflow_engaged hj heng) ?_
      intro j phase hp
      by_cases hji : j = i
      · simp only [setWorkflow_workflows,hji,if_true,Option.some.injEq] at hp
        exact Or.inr (Or.inr ⟨old,target,hji ▸ hw,ht,hp.symm⟩)
      · exact Or.inl (by simpa [hji] using hp)
    | updateCommit i =>
      obtain ⟨target,loaded,hw,rfl⟩ := updateCommit_some h
      have heng : s.Engaged i := Or.inr (by simp [hw])
      refine hi.left (hi.updateCommit hw) (fun j hj => setWorkflow_engaged hj heng) ?_
      intro j t l hp
      by_cases hji : j = i
      · simp [hji,WorkflowPhase.after_ne_updating] at hp
      · simpa [hji] using hp
    | performAction i =>
      obtain ⟨_,rfl⟩ := performAction_some h
      exact hi
    | stopSelect i kind =>
      obtain ⟨_,rfl⟩ := stopSelect_some h
      exact hi.frame rfl (fun j hj => hj) fun j phase hp => Or.inl hp
    | stopCommit i =>
      obtain ⟨kind,loaded,_,rfl⟩ := stopCommit_some h
      rcases flushColumn_cases s.status loaded .rejected with ⟨_,hf⟩ | ⟨_,hf⟩
      · exact hi.frame hf (fun j hj => hj) fun j phase hp => Or.inl hp
      · refine hi.left ?_ (fun j hj => hj) fun j t l hp => hp
        intro ha
        have ha : flushColumn s.status loaded .rejected = .approved := ha
        rw [hf] at ha
        cases ha

theorem SingleInv.started (hi : SingleInv s) (h : raceStep s (.startWorkflow i) = some s') :
    Started s' := by
  obtain ⟨hs,rfl⟩ := startWorkflow_some h
  refine ⟨?_,i,by simp⟩
  intro j
  by_cases hji : j = i
  · simp [hji]
  · by_contra hj
    have hj : s.starts j ≠ none := by simpa [hji] using hj
    exact hji (hi.single j i (Or.inl hj) (Or.inl (by simp [hs])))

theorem workflows_persist {e : RaceEvent} (h : raceStep s e = some s')
    (hw : s.workflows i ≠ none) : s'.workflows i ≠ none := by
  have hset : ∀ (r : RaceState) (j : Nat) (p : WorkflowPhase), r.workflows i ≠ none →
      (r.setWorkflow j (some p)).workflows i ≠ none := by
    intro r j p hr
    by_cases hij : i = j
    · simp [hij]
    · simpa [hij] using hr
  cases e with
  | startSelect j => rw [(startSelect_some h).2]; exact hw
  | startCommit j => rw [(startCommit_some h).2]; exact hw
  | startWorkflow j => rw [(startWorkflow_some h).2]; exact hset _ _ _ hw
  | updateSelect j target =>
    obtain ⟨_,_,_,rfl⟩ := updateSelect_some h
    exact hset _ _ _ hw
  | updateCommit j =>
    obtain ⟨_,_,_,rfl⟩ := updateCommit_some h
    exact hset _ _ _ hw
  | performAction j => rw [(performAction_some h).2]; exact hw
  | stopSelect j kind => rw [(stopSelect_some h).2]; exact hw
  | stopCommit j =>
    obtain ⟨_,_,_,rfl⟩ := stopCommit_some h
    exact hw

theorem Started.step {e : RaceEvent} (hi : SingleInv s) (hG : CleanStart s e)
    (h : raceStep s e = some s') (hq : Started s) : Started s' := by
  obtain ⟨k,hk⟩ := hq.workflow
  refine ⟨?_,k,workflows_persist h hk⟩
  cases e with
  | startSelect i => exact absurd (Or.inr hk) (hi.unstarted hG (startSelect_some h).1 k)
  | startCommit i =>
    have hs := (startCommit_some h).1
    rw [hq.starts i] at hs
    cases hs
  | startWorkflow i =>
    have hs := (startWorkflow_some h).1
    rw [hq.starts i] at hs
    cases hs
  | updateSelect i target =>
    obtain ⟨_,_,_,rfl⟩ := updateSelect_some h
    exact hq.starts
  | updateCommit i =>
    obtain ⟨_,_,_,rfl⟩ := updateCommit_some h
    exact hq.starts
  | performAction i => rw [(performAction_some h).2]; exact hq.starts
  | stopSelect i kind => rw [(stopSelect_some h).2]; exact hq.starts
  | stopCommit i =>
    obtain ⟨_,_,_,rfl⟩ := stopCommit_some h
    exact hq.starts

end

/-- In every run whose starts each find the one before them carried through, one workflow is
started at most. -/
theorem starts_single {tr : List (Transition RaceState RaceEvent)} {s : RaceState}
    (h : Run raceSystem tr s) (hG : ∀ t ∈ tr, CleanStart t.pre t.label) : SingleExecution tr := by
  constructor
  · refine h.never_after (Q := Started) singleInv_inductive ?_ ?_ ?_ hG
    · rintro ⟨s,e,s'⟩ hi _ hs hstart
      cases e with
      | startWorkflow i => exact hi.started hs
      | _ => exact hstart.elim
    · rintro ⟨s,e,s'⟩ hi hg hs hq
      exact hq.step hi hg hs
    · rintro ⟨s,e,s'⟩ _ hs hq hstart
      cases e with
      | startWorkflow i =>
        have hi := (startWorkflow_some hs).1
        rw [hq.starts i] at hi
        cases hi
      | _ => exact hstart
  · have hleft : ∀ i, (∃ t ∈ tr, t.label = .performAction i) → s.workflows i ≠ none := by
      intro i
      refine h.leaves (Q := fun s => s.workflows i ≠ none) ?_ ?_
      · rintro ⟨s,e,s'⟩ hs he
        obtain rfl : e = .performAction i := he
        have hs : raceStep s (.performAction i) = some s' := hs
        have hw : s.workflows i = some .executing := (performAction_some hs).1
        have hne : s.workflows i ≠ none := by simp [hw]
        exact workflows_persist hs hne
      · rintro ⟨s,e,s'⟩ hs hw
        exact workflows_persist hs hw
    intro t ht u hu i j hti huj
    have hi := hleft i ⟨t,ht,hti⟩
    have hj := hleft j ⟨u,hu,huj⟩
    exact (h.guarded singleInv_inductive hG).single i j (Or.inr hi) (Or.inr hj)

/-- What follows the check of a start, up to two actions of its workflow. -/
def sampleStart : List RaceEvent :=
  [.startCommit 0,.startWorkflow 0,.updateSelect 0 .executing,.updateCommit 0,.performAction 0,
    .performAction 0]

theorem sample_starts_single :
    ∃ tr s, Run raceSystem tr s ∧
      tr.map Transition.label = sampleStart.reverse ++ [.startSelect 0] ∧ SingleExecution tr := by
  have hcheck : raceSystem.step (.idle .approved) (.startSelect 0) =
      some ((RaceState.idle .approved).setStart 0 (some .checked)) := rfl
  have h := (Run.start (idle_start .approved)).step hcheck
  obtain ⟨s,hs⟩ : ∃ s, raceSystem.replay ((RaceState.idle .approved).setStart 0 (some .checked))
      sampleStart = some s := ⟨_,rfl⟩
  have hr := h.replay hs
  refine ⟨_,s,hr,System.history_labels hs,starts_single hr ?_⟩
  intro t ht
  rw [System.history_append,List.mem_append,List.mem_singleton] at ht
  rcases ht with ht | rfl
  · have hl := List.mem_map_of_mem (f := Transition.label) ht
    rw [System.history_labels hs] at hl
    cases hlab : t.label with
    | startSelect i => simp [hlab,sampleStart] at hl
    | _ => trivial
  · exact ⟨fun _ => rfl,fun _ _ hj => by cases hj⟩

/-- Two execute requests check the status before either workflow has written it. -/
def sampleDouble : List RaceEvent :=
  [.startSelect 0,.startSelect 1,.startCommit 0,.startWorkflow 0,.startCommit 1,
    .startWorkflow 1,.updateSelect 0 .executing,.updateCommit 0,.updateSelect 1 .executing,
    .updateCommit 1,.performAction 0,.performAction 1]

theorem executed_twice :
    ¬∀ (tr : List (Transition RaceState RaceEvent)) (s : RaceState), Run raceSystem tr s →
      SingleExecution tr := by
  intro hall
  obtain ⟨s,hs⟩ : ∃ s, raceSystem.replay (.idle .approved) sampleDouble = some s := ⟨_,rfl⟩
  have hsingle := (hall _ _ ((Run.start (idle_start .approved)).replay hs)).2
  have hlabel : ∀ e ∈ sampleDouble,
      ∃ t ∈ raceSystem.history [] (.idle .approved) sampleDouble, t.label = e := by
    intro e he
    rw [← List.mem_map,System.history_labels hs]
    simpa using he
  obtain ⟨t,ht,h0⟩ := hlabel (.performAction 0) (by decide)
  obtain ⟨u,hu,h1⟩ := hlabel (.performAction 1) (by decide)
  cases hsingle t ht u hu 0 1 h0 h1

end Nexplane
