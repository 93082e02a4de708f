import Nexplane.RollbackDriver

set_option autoImplicit false

/-! A running rollback of a project has a driver: which driver exits leave it without one, and what
becomes of a pause and of a decision on the step that the driver stopped at. -/

namespace Nexplane
open PyValue Runs Orm

/-- A driver is active or scheduled. -/
def RollbackState.Driven (s : RollbackState) : Prop := s.driver.isSome = true ∨ 0 < s.tasks

def ProjectRollback.AwaitsAt (row : ProjectRollback) (i : Nat) : Prop :=
  ∃ step, row.steps[i]? = some step ∧ step.status = .awaitingUser

/-- The driver will leave the rollback whatever the operators do. -/
def RollbackDriver.ending (d : RollbackDriver) : Bool :=
  match d.point with
  | .leaving => true
  | .executed _ (.error _) => true
  | .refreshed => d.held = .paused
  | _ => false

/-- A decision on the step that the driver stopped at has the driver run, and a pause holds until
the rollback is resumed or its last step is done. -/
structure OperatorsHeard (t : Transition RollbackState RollbackEvent) : Prop where
  decided : ∀ q i held loaded action, t.label = .decisionCommit q →
    t.pre.requests q = some (.decision i held loaded action) → t.pre.row.AwaitsAt i →
    t.pre.row.status ≠ .paused → t.post.Driven
  paused : t.pre.row.status = .paused → t.post.row.status = .paused ∨
    (∃ q, t.label = .resumeCommit q) ∨ t.post.row.status = .completed

/-- No driver begins on a paused rollback; while the rollback is running, no step fails and the
driver meets none that awaits the user; and no driver is called for while another one that has
seen a pause or a failure is still on its way out. -/
def Unstalled (s : RollbackState) : RollbackEvent → Prop
  | .dispatch => ∀ d, s.driver = some d → d.ending = false
  | .drive outcome => ∀ d, s.driver = some d →
    match d.point with
    | .starting => d.held = .running ∨ s.row.status ≠ .paused
    | .refreshed => d.held = .paused ∨ s.row.status ≠ .running ∨
      ∀ i ahead, d.ahead = i :: ahead → ¬s.row.AwaitsAt i
    | .executing _ => s.row.status ≠ .running ∨ outcome.result.isOk = true
    | _ => True
  | _ => True

structure ProgressInv (s : RollbackState) : Prop where
  ok : RollbackOk s
  driven : s.row.status = .running →
    (∃ d, s.driver = some d ∧ d.ending = false) ∨ 0 < s.tasks
  awaiting : ∀ i, s.row.AwaitsAt i → s.row.status.live
  ahead : ∀ d, s.driver = some d → d.Engaged → ∀ i, s.row.AwaitsAt i → i ∈ d.ahead

section Awaiting

variable {row row' : ProjectRollback} {i j : Nat} {step : ProjectRollbackStep}

/-- No step awaits the user in `row'` that did not in `row`. -/
def NoneAwaits (row row' : ProjectRollback) : Prop :=
  ∀ i, row'.AwaitsAt i → row.AwaitsAt i

theorem noneAwaits_modify {f : ProjectRollbackStep → ProjectRollbackStep}
    (hf : ∀ step, (f step).status = .awaitingUser → step.status = .awaitingUser) :
    NoneAwaits row (row.modifyStep i f) := by
  rintro j ⟨step',hstep',hawaits⟩
  obtain ⟨old,hold,⟨_,rfl⟩ | ⟨_,rfl⟩⟩ := modifyStep_get hstep'
  · exact ⟨old,hold,hf old hawaits⟩
  · exact ⟨step',hold,hawaits⟩

theorem mark_awaits {loaded : ProjectRollbackStep} (h : (loaded.mark step).status = .awaitingUser) :
    step.status = .awaitingUser := flushColumn_eq h (by decide)

theorem decide_awaits {loaded : ProjectRollbackStep} {action : StepDecision}
    (h : (decideRollbackStep loaded action step).status = .awaitingUser) :
    step.status = .awaitingUser := flushColumn_eq h (by cases action <;> decide)

theorem noneAwaits_append (row : ProjectRollback) (steps : List NewRollbackStep) :
    NoneAwaits row { row with steps := row.steps ++ steps.map fun step => { step with } } := by
  rintro j ⟨step',hstep',hawaits⟩
  rcases Nat.lt_or_ge j row.steps.length with hlt | hge
  · exact ⟨step',by rwa [List.getElem?_append_left hlt] at hstep',hawaits⟩
  · rw [List.getElem?_append_right hge,List.getElem?_map] at hstep'
    obtain ⟨new,_,rfl⟩ := Option.map_eq_some_iff.mp hstep'
    cases hawaits

end Awaiting

section Driver

variable {row row' : ProjectRollback} {d d' : RollbackDriver} {outcome : StepOutcome}
  {after : Option RollbackDriver}

theorem loop_ending (held : ProjectRollbackStatus) (ahead : List Nat) :
    (RollbackDriver.loop held ahead).ending = false := by
  cases ahead <;> rfl

/-- Only a driver that is ending leaves a running rollback. -/
theorem driverMove_driven {s : RollbackState} (h : DriverMove s.row d outcome row' after)
    (hd : s.driver = some d) (hok : d.Ok s.row) (hG : Unstalled s (.drive outcome))
    (hrunning : row'.status = .running) :
    (∃ d', after = some d' ∧ d'.ending = false) ∨ s.row.status = .running ∧ d.ending = true := by
  have hpoint := hok.2
  replace hG := hG d hd
  cases h with
  | load hp => exact Or.inl ⟨_,rfl,rfl⟩
  | start hp => exact Or.inl ⟨_,rfl,loop_ending _ _⟩
  | finish hp =>
    simp only [hp] at hpoint
    simp [hpoint.1,flushColumn] at hrunning
  | close hp => exact Or.inr ⟨hrunning,by simp [RollbackDriver.ending,hp]⟩
  | stop hp hstop =>
    obtain ⟨_,_,hahead⟩ := hok.inLoop hp
    rcases hstop with hnil | ⟨hrefreshed,hpaused⟩ | ⟨i,hi,hnone⟩
    · exact absurd hnil hahead
    · exact Or.inr ⟨hrunning,by simp [RollbackDriver.ending,hrefreshed,hpaused]⟩
    · exact absurd (hok.1 i hi) (by simpa using hnone)
  | refresh i ahead hp hahead =>
    exact Or.inl ⟨_,rfl,by simp [RollbackDriver.ending,hrunning]⟩
  | pass i ahead step hp hahead hheld hstep hdone => exact Or.inl ⟨_,rfl,loop_ending _ _⟩
  | await i ahead step hp hahead hstep hawaits =>
    simp only [hp] at hG
    rcases hG with hpaused | hstatus | hnone
    · exact Or.inr ⟨hrunning,by simp [RollbackDriver.ending,hp,hpaused]⟩
    · exact absurd hrunning hstatus
    · exact absurd ⟨step,hstep,hawaits⟩ (hnone i ahead hahead)
  | take i ahead step hp hahead hheld hstep hopen => exact Or.inl ⟨_,rfl,rfl⟩
  | mark i ahead loaded hp hahead => exact Or.inl ⟨_,rfl,rfl⟩
  | execute i ahead loaded hp hahead =>
    simp only [hp] at hG
    have hreturned := hG.resolve_left (not_not.mpr hrunning)
    refine Or.inl ⟨_,rfl,?_⟩
    cases hresult : outcome.result with
    | ok result => rfl
    | error text => simp [hresult,Except.isOk,Except.toBool] at hreturned
  | complete i ahead loaded result hp hahead => exact Or.inl ⟨_,rfl,loop_ending _ _⟩
  | fail i ahead loaded text hp hahead =>
    exact Or.inr ⟨hrunning,by simp [RollbackDriver.ending,hp]⟩

/-- A step that awaits the user lies ahead of the driver, in a rollback that it has begun. -/
theorem driverMove_ahead (h : DriverMove row d outcome row' (some d'))
    (hahead : d.Engaged → ∀ i, row.AwaitsAt i → i ∈ d.ahead) (hengaged : d'.Engaged) {j : Nat}
    (hawaits : row'.AwaitsAt j) : j ∈ d'.ahead := by
  generalize hafter : some d' = after at h
  cases h with
  | load hp =>
    obtain rfl := Option.some.inj hafter
    obtain ⟨step,hstep,_⟩ := hawaits
    exact mem_stepOrder.mpr (List.getElem?_eq_some_iff.mp hstep).1
  | start hp =>
    obtain rfl := Option.some.inj hafter
    exact hahead (by simp [RollbackDriver.Engaged,hp]) j hawaits
  | refresh i ahead hp _ =>
    obtain rfl := Option.some.inj hafter
    exact hahead (by simp [RollbackDriver.Engaged,hp]) j hawaits
  | pass i ahead step hp hcons hheld hstep hdone =>
    obtain rfl := Option.some.inj hafter
    have hmem := hahead (by simp [RollbackDriver.Engaged,hp]) j hawaits
    rw [hcons] at hmem
    rcases List.mem_cons.mp hmem with rfl | hmem
    · obtain ⟨step',hstep',hstatus⟩ := hawaits
      obtain rfl := Option.some.inj (hstep.symm.trans hstep')
      simp [hstatus] at hdone
    · exact hmem
  | take i ahead step hp _ hheld hstep hopen =>
    obtain rfl := Option.some.inj hafter
    exact hahead (by simp [RollbackDriver.Engaged,hp]) j hawaits
  | mark i ahead loaded hp _ =>
    obtain rfl := Option.some.inj hafter
    have hold : row.AwaitsAt j := noneAwaits_modify (fun _ => mark_awaits) j hawaits
    exact hahead (by simp [RollbackDriver.Engaged,hp]) j hold
  | execute i ahead loaded hp _ =>
    obtain rfl := Option.some.inj hafter
    have hold : row.AwaitsAt j := noneAwaits_modify
      (f := fun step => { step with left := some outcome.left }) (fun _ => id) j hawaits
    exact hahead (by simp [RollbackDriver.Engaged,hp]) j hold
  | complete i ahead loaded result hp hcons =>
    obtain rfl := Option.some.inj hafter
    obtain ⟨step',hstep',hstatus⟩ := hawaits
    obtain ⟨old,hold,⟨rfl,rfl⟩ | ⟨hne,rfl⟩⟩ := modifyStep_get hstep'
    · simp [record_completed] at hstatus
    · have hmem := hahead (by simp [RollbackDriver.Engaged,hp]) j ⟨step',hold,hstatus⟩
      rw [hcons] at hmem
      exact (List.mem_cons.mp hmem).resolve_left (Ne.symm hne)
  | close hp => cases hafter
  | _ =>
    obtain rfl := Option.some.inj hafter
    exact absurd rfl hengaged.2

/-- A step awaits the user only in a rollback that a driver has begun and not completed. -/
theorem driverMove_awaiting (h : DriverMove row d outcome row' after) (hok : d.Ok row)
    (hahead : d.Engaged → ∀ i, row.AwaitsAt i → i ∈ d.ahead)
    (hawaiting : ∀ i, row.AwaitsAt i → row.status.live) {j : Nat} (hawaits : row'.AwaitsAt j) :
    row'.status.live := by
  have hpoint := hok.2
  cases h with
  | start hp =>
    simp only [hp] at hpoint
    rcases flushColumn_cases row.status d.held .running with ⟨hheld,hkept⟩ | ⟨_,hnew⟩
    · exact hkept.symm ▸ hpoint hheld.symm
    · exact Or.inl hnew
  | finish hp =>
    simp only [hp] at hpoint
    have hmem := hahead (by simp [RollbackDriver.Engaged,hp]) j hawaits
    simp [hpoint.2.2] at hmem
  | mark i ahead loaded hp _ =>
    exact hawaiting j (noneAwaits_modify (fun _ => mark_awaits) j hawaits)
  | execute i ahead loaded hp _ =>
    exact hawaiting j (noneAwaits_modify
      (f := fun step => { step with left := some outcome.left }) (fun _ => id) j hawaits)
  | complete i ahead loaded result hp _ =>
    simp only [hp] at hpoint
    exact hpoint.2.1
  | fail i ahead loaded text hp _ =>
    simp only [hp] at hpoint
    exact hpoint.2.1
  | _ => exact hawaiting j hawaits

end Driver

section Invariant

variable {permanentTypes : List String} {s s' : RollbackState} {e : RollbackEvent}

theorem step_awaits (h : advanceRollback permanentTypes s e = some s')
    (hdrive : ∀ outcome, e ≠ .drive outcome) : NoneAwaits s.row s'.row := by
  rintro j ⟨step,hstep,hawaits⟩
  cases step_steps h with
  | drive outcome d _ _ _ => exact absurd rfl (hdrive outcome)
  | append q held populated _ _ hsteps =>
    exact noneAwaits_append s.row _ j ⟨step,hsteps ▸ hstep,hawaits⟩
  | decide q i held loaded action _ _ hsteps =>
    exact noneAwaits_modify (fun _ => decide_awaits) j ⟨step,hsteps ▸ hstep,hawaits⟩
  | keep _ _ hsteps => exact ⟨step,hsteps ▸ hstep,hawaits⟩

theorem ProgressInv.step_driven (hi : ProgressInv s) (hG : Unstalled s e)
    (h : advanceRollback permanentTypes s e = some s') (hrunning : s'.row.status = .running) :
    (∃ d, s'.driver = some d ∧ d.ending = false) ∨ 0 < s'.tasks := by
  cases e with
  | dispatch =>
    obtain ⟨tasks,_,rfl⟩ := dispatch_accepted h
    cases hd : s.driver with
    | none => exact Or.inl ⟨.load,rfl,rfl⟩
    | some d => exact Or.inl ⟨d,rfl,hG d hd⟩
  | drive outcome =>
    obtain ⟨d,hd,hmove,hs'⟩ := drive_accepted h
    rcases driverMove_driven hmove hd (hi.ok.driver d hd) hG hrunning with hstays |
      ⟨hbefore,hending⟩
    · exact Or.inl hstays
    · rcases hi.driven hbefore with ⟨d',hd',hstays⟩ | htasks
      · obtain rfl := Option.some.inj (hd.symm.trans hd')
        simp [hending] at hstays
      · rw [hs']
        exact Or.inr htasks
  | pauseRead q =>
    obtain rfl := pauseRead_accepted h
    exact hi.driven hrunning
  | pauseCommit q =>
    obtain rfl := pauseCommit_accepted h
    cases hrunning
  | resumeRead q project =>
    obtain ⟨_,populated,rfl⟩ := resumeRead_accepted h
    exact hi.driven hrunning
  | resumeCommit q =>
    obtain ⟨held,populated,_,rfl⟩ := resumeCommit_accepted h
    exact Or.inr (Nat.succ_pos _)
  | decisionRead q i action =>
    obtain ⟨step,_,rfl⟩ := decisionRead_accepted h
    exact hi.driven hrunning
  | decisionCommit q =>
    obtain ⟨i,held,loaded,action,_,rfl⟩ := decisionCommit_accepted h
    refine (hi.driven hrunning).imp id fun htasks => ?_
    dsimp only
    split <;> omega
  | restart =>
    obtain rfl := Option.some.inj h
    replace hrunning : s.row.status = .running := hrunning
    exact Or.inr (by simp [hrunning])

theorem ProgressInv.step_awaiting (hi : ProgressInv s)
    (h : advanceRollback permanentTypes s e = some s') {i : Nat} (hawaits : s'.row.AwaitsAt i) :
    s'.row.status.live := by
  rcases step_status hi.ok h with ⟨hkept,hdrive⟩ | ⟨q,_,hpaused⟩ | ⟨q,_,hrunning⟩ |
    ⟨outcome,d,_,hd,hmove⟩
  · rw [hkept]
    exact hi.awaiting i (step_awaits h hdrive i hawaits)
  · exact Or.inr hpaused
  · exact Or.inl hrunning
  · exact driverMove_awaiting hmove (hi.ok.driver d hd) (hi.ahead d hd) hi.awaiting hawaits

theorem ProgressInv.step_ahead (hi : ProgressInv s)
    (h : advanceRollback permanentTypes s e = some s') {d : RollbackDriver}
    (hd : s'.driver = some d) (hengaged : d.Engaged) {i : Nat} (hawaits : s'.row.AwaitsAt i) :
    i ∈ d.ahead := by
  rcases step_driver h hd with ⟨hkept,hdrive⟩ | ⟨_,_,rfl⟩ | ⟨outcome,d₀,_,hd₀,hmove⟩
  · exact hi.ahead d hkept hengaged i (step_awaits h hdrive i hawaits)
  · exact absurd rfl hengaged.1
  · exact driverMove_ahead hmove (hi.ahead d₀ hd₀) hengaged hawaits

theorem progressInv_inductive :
    InductiveUnder (rollbackSystem permanentTypes) Unstalled ProgressInv := by
  constructor
  · intro s hs
    refine ⟨rollbackOk_inductive.start s hs,?_,?_,?_⟩ <;> cases hs <;>
      simp [RollbackState.initiated,RollbackState.automatic,ProjectRollback.AwaitsAt]
  · intro s e s' hi hG h
    exact ⟨rollbackOk_inductive.step s e s' hi.ok h,hi.step_driven hG h,
      fun _ => hi.step_awaiting h,fun d hd hengaged _ => hi.step_ahead h hd hengaged⟩

theorem step_operatorsHeard (hi : ProgressInv s) (hG : Unstalled s e)
    (h : advanceRollback permanentTypes s e = some s') : OperatorsHeard ⟨s,e,s'⟩ := by
  constructor
  · rintro q i held loaded action rfl _ hawaits hpaused
    -- The step is there because a driver has failed at it: the rollback is running or paused.
    have hrunning : s.row.status = .running := (hi.awaiting i hawaits).resolve_right hpaused
    obtain ⟨_,_,_,_,_,rfl⟩ := decisionCommit_accepted h
    rcases hi.driven hrunning with ⟨d,hd,_⟩ | htasks
    · exact Or.inl (by simp [RollbackState.setRequest,hd])
    · refine Or.inr ?_
      dsimp only
      split <;> omega
  · intro hpaused
    dsimp only at hpaused ⊢
    rcases step_status hi.ok h with ⟨hkept,_⟩ | ⟨q,_,hpaused'⟩ | ⟨q,rfl,_⟩ |
      ⟨outcome,d,rfl,hd,hmove⟩
    · exact Or.inl (hkept.trans hpaused)
    · exact Or.inl hpaused'
    · exact Or.inr (Or.inl ⟨q,rfl⟩)
    · have hpoint := (hi.ok.driver d hd).2
      have hbegins := hG d hd
      generalize s'.row = row' at hmove ⊢
      generalize s'.driver = after at hmove
      cases hmove with
      | start hp =>
        simp only [hp] at hpoint hbegins
        have hheld := hbegins.resolve_right (not_not.mpr hpaused)
        exact Or.inl (by simp [flushColumn,hheld,hpaused])
      | finish hp =>
        simp only [hp] at hpoint
        exact Or.inr (Or.inr (by simp [flushColumn,hpoint.1]))
      | _ => exact Or.inl hpaused

end Invariant

section Runs

variable {permanentTypes : List String} {tr : List (Transition RollbackState RollbackEvent)}
  {s : RollbackState}

/-- A running rollback has a driver, a decision on the step that one stopped at brings it back, and
a pause holds. -/
theorem running_rollbacks_driven (h : Run (rollbackSystem permanentTypes) tr s)
    (hG : ∀ t ∈ tr, Unstalled t.pre t.label) :
    (s.row.status = .running → s.Driven) ∧ ∀ t ∈ tr, OperatorsHeard t := by
  constructor
  · intro hrunning
    rcases (h.guarded progressInv_inductive hG).driven hrunning with ⟨d,hd,_⟩ | htasks
    · exact Or.inl (by simp [hd])
    · exact Or.inr htasks
  · intro t ht
    obtain ⟨hi,hs⟩ := h.transition_guarded progressInv_inductive hG t ht
    exact step_operatorsHeard hi (hG t ht) hs

end Runs

theorem sampleDriven_unstalled :
    (rollbackSystem []).Meets Unstalled sampleRollback sampleDriven := by
  have hdriver : ∀ {s : RollbackState} {d : RollbackDriver}, s.driver = some d →
      (match d.point with
        | .starting => d.held = .running ∨ s.row.status ≠ .paused
        | .refreshed => d.held = .paused ∨ s.row.status ≠ .running ∨
          ∀ i ahead, d.ahead = i :: ahead → ¬s.row.AwaitsAt i
        | .executing _ => s.row.status ≠ .running ∨ sampleUndone.result.isOk = true
        | _ => True) → Unstalled s (.drive sampleUndone) := by
    intro s d hd h d' hd'
    obtain rfl := Option.some.inj (hd.symm.trans hd')
    exact h
  refine ⟨by simp [Unstalled,sampleRollback,RollbackState.initiated],hdriver rfl trivial,
    hdriver rfl (Or.inr (by decide)),hdriver rfl trivial,hdriver rfl (Or.inr (Or.inr ?_)),
    hdriver rfl trivial,hdriver rfl (Or.inr rfl),hdriver rfl trivial,hdriver rfl trivial,
    hdriver rfl trivial,trivial⟩
  rintro i ahead hahead ⟨step,hstep,hawaits⟩
  obtain ⟨rfl,_⟩ := List.cons.inj hahead
  obtain rfl := Option.some.inj hstep
  cases hawaits

theorem sample_running_rollbacks_driven :
    ∃ tr s, Run (rollbackSystem []) tr s ∧ tr.map Transition.label = sampleDriven.reverse ∧
      s.row.status = .completed ∧ (s.row.status = .running → s.Driven) ∧
      ∀ t ∈ tr, OperatorsHeard t := by
  have hrun : (rollbackSystem []).replay sampleRollback sampleDriven = some _ := rfl
  have h := (Run.start sampleRollback_start).replay hrun
  exact ⟨_,_,h,rfl,rfl,running_rollbacks_driven h
    (System.history_meets sampleDriven_unstalled (by simp))⟩

def sampleRaised : StepOutcome := ⟨.error "connector is unreachable",.completed⟩

/-- The only step fails, and the driver leaves. -/
def sampleFailedStep : List RollbackEvent := .dispatch :: List.replicate 8 (.drive sampleRaised)

/-- An operator asks for the failed step to be tried again. -/
def sampleRetriedStep : List RollbackEvent :=
  sampleFailedStep ++ [.decisionRead 0 0 .retry,.decisionCommit 0]

/-- The rollback is paused before its first step, and the step is skipped while it is. -/
def sampleSkippedStep : List RollbackEvent :=
  [.dispatch,.drive sampleUndone,.drive sampleUndone,.pauseRead 0,.pauseCommit 0,
    .drive sampleUndone,.drive sampleUndone,.drive sampleUndone,.decisionRead 0 0 .skip,
    .decisionCommit 0,.dispatch,.drive sampleUndone,.drive sampleUndone]

/-- After a failed step the rollback is left running without a driver, also by a decision to retry
the step; and a decision ends a pause. -/
theorem stalled_and_unpaused_rollbacks :
    (∃ tr s, Run (rollbackSystem []) tr s ∧ tr.map Transition.label = sampleFailedStep.reverse ∧
      s.row.status = .running ∧ ¬s.Driven) ∧
    (∃ tr s, Run (rollbackSystem []) tr s ∧ tr.map Transition.label = sampleRetriedStep.reverse ∧
      s.row.status = .running ∧ ¬s.Driven ∧ ¬∀ t ∈ tr, OperatorsHeard t) ∧
    ∃ tr s, Run (rollbackSystem []) tr s ∧ tr.map Transition.label = sampleSkippedStep.reverse ∧
      s.row.status = .running ∧ ¬∀ t ∈ tr, OperatorsHeard t := by
  have hfailed : (rollbackSystem []).replay sampleRollback sampleFailedStep = some _ := rfl
  have hretried : (rollbackSystem []).replay sampleRollback sampleRetriedStep = some _ := rfl
  have hskipped : (rollbackSystem []).replay sampleRollback sampleSkippedStep = some _ := rfl
  refine ⟨⟨_,_,(Run.start sampleRollback_start).replay hfailed,rfl,rfl,?_⟩,
    ⟨_,_,(Run.start sampleRollback_start).replay hretried,rfl,rfl,?_,fun h => ?_⟩,
    ⟨_,_,(Run.start sampleRollback_start).replay hskipped,rfl,rfl,fun h => ?_⟩⟩
  · rintro (hdriver | htasks)
    · cases hdriver
    · cases htasks
  · rintro (hdriver | htasks)
    · cases hdriver
    · cases htasks
  · have hheard := (h _ List.mem_cons_self).decided 0 0 _ _ _ rfl rfl ⟨_,rfl,rfl⟩ (by decide)
    rcases hheard with hdriver | htasks
    · cases hdriver
    · cases htasks
  · rcases (h _ List.mem_cons_self).paused rfl with hpaused | ⟨q,hlabel⟩ | hcompleted
    · cases hpaused
    · cases hlabel
    · cases hcompleted

end Nexplane
