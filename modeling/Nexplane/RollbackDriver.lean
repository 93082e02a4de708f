import Nexplane.ProjectRollback

set_option autoImplicit false

/-! What the driver of a project rollback and the requests of its operators can do in one step, and
what always holds of the status of the rollback while its driver is at work. -/

namespace Nexplane
open PyValue Runs Orm

/-- The driver is between two steps, or at one. -/
def DriverPoint.inLoop : DriverPoint → Bool
  | .loading | .starting | .finishing | .leaving => false
  | _ => true

/-- The moves of the driver, with the row and the driver that they leave. -/
inductive DriverMove (row : ProjectRollback) (d : RollbackDriver) (outcome : StepOutcome) :
    ProjectRollback → Option RollbackDriver → Prop where
  | load : d.point = .loading →
      DriverMove row d outcome row (some ⟨row.status,stepOrder row.steps,.starting⟩)
  | start : d.point = .starting →
      DriverMove row d outcome { row with status := flushColumn row.status d.held .running }
        (some (.loop .running d.ahead))
  | finish : d.point = .finishing →
      DriverMove row d outcome { row with status := flushColumn row.status d.held .completed }
        (some d.leave)
  | close : d.point = .leaving → DriverMove row d outcome row none
  | stop : d.point.inLoop = true → d.ahead = [] ∨ d.point = .refreshed ∧ d.held = .paused ∨
      (∃ i ∈ d.ahead, row.steps[i]? = none) → DriverMove row d outcome row (some d.leave)
  | refresh (i : Nat) (ahead : List Nat) : d.point = .atStep → d.ahead = i :: ahead →
      DriverMove row d outcome row (some { d with held := row.status, point := .refreshed })
  | pass (i : Nat) (ahead : List Nat) (step : ProjectRollbackStep) : d.point = .refreshed →
      d.ahead = i :: ahead → d.held ≠ .paused → row.steps[i]? = some step →
      step.status = .completed ∨ step.status = .skipped →
      DriverMove row d outcome row (some (.loop d.held ahead))
  | await (i : Nat) (ahead : List Nat) (step : ProjectRollbackStep) : d.point = .refreshed →
      d.ahead = i :: ahead → row.steps[i]? = some step → step.status = .awaitingUser →
      DriverMove row d outcome row (some d.leave)
  | take (i : Nat) (ahead : List Nat) (step : ProjectRollbackStep) : d.point = .refreshed →
      d.ahead = i :: ahead → d.held ≠ .paused → row.steps[i]? = some step →
      ¬(step.status = .completed ∨ step.status = .skipped) →
      DriverMove row d outcome row (some { d with point := .marking step })
  | mark (i : Nat) (ahead : List Nat) (loaded : ProjectRollbackStep) :
      d.point = .marking loaded → d.ahead = i :: ahead →
      DriverMove row d outcome
        { row.modifyStep i loaded.mark with currentStep := loaded.sequenceOrder }
        (some { d with point := .executing loaded })
  | execute (i : Nat) (ahead : List Nat) (loaded : ProjectRollbackStep) :
      d.point = .executing loaded → d.ahead = i :: ahead →
      DriverMove row d outcome
        (row.modifyStep i fun step => { step with left := some outcome.left })
        (some { d with point := .executed loaded outcome.result })
  | complete (i : Nat) (ahead : List Nat) (loaded : ProjectRollbackStep) (result : Json) :
      d.point = .executed loaded (.ok result) → d.ahead = i :: ahead →
      DriverMove row d outcome (row.modifyStep i (loaded.record .completed (.rollback result)))
        (some (.loop d.held ahead))
  | fail (i : Nat) (ahead : List Nat) (loaded : ProjectRollbackStep) (text : String) :
      d.point = .executed loaded (.error text) → d.ahead = i :: ahead →
      DriverMove row d outcome (row.modifyStep i (loaded.record .awaitingUser (.error text)))
        (some d.leave)

theorem stepDriver_move {row : ProjectRollback} {d : RollbackDriver} {outcome : StepOutcome}
    {i : Nat} {ahead : List Nat} (h : d.ahead = i :: ahead) (hloop : d.point.inLoop = true) :
    DriverMove row d outcome (stepDriver row d i ahead outcome).1
      (some (stepDriver row d i ahead outcome).2) := by
  unfold stepDriver
  split
  · rename_i hp
    exact .refresh i ahead hp h
  · rename_i hp
    split
    · rename_i hnone
      exact .stop hloop (Or.inr (Or.inr ⟨i,by simp [h],hnone⟩))
    · rename_i step hstep
      split_ifs with hpaused hdone hawaits
      · exact .stop hloop (Or.inr (Or.inl ⟨hp,hpaused⟩))
      · exact .pass i ahead step hp h hpaused hstep hdone
      · exact .await i ahead step hp h hstep hawaits
      · exact .take i ahead step hp h hpaused hstep hdone
  · rename_i loaded hp
    exact .mark i ahead loaded hp h
  · rename_i loaded hp
    exact .execute i ahead loaded hp h
  · rename_i loaded result hp
    exact .complete i ahead loaded result hp h
  · rename_i loaded text hp
    exact .fail i ahead loaded text hp h
  · rename_i hat hrefreshed hmarking hexecuting hok herror
    cases hp : d.point with
    | executed loaded result =>
      cases result with
      | ok result => exact absurd hp (hok loaded result)
      | error text => exact absurd hp (herror loaded text)
    | _ => simp_all [DriverPoint.inLoop]

theorem driverStep_move (row : ProjectRollback) (d : RollbackDriver) (outcome : StepOutcome) :
    DriverMove row d outcome (driverStep row d outcome).1 (driverStep row d outcome).2 := by
  unfold driverStep
  split
  · rename_i hp
    exact .load hp
  · rename_i hp
    exact .start hp
  · rename_i hp
    exact .finish hp
  · rename_i hp
    exact .close hp
  · rename_i hloading hstarting hfinishing hleaving
    have hloop : d.point.inLoop = true := by cases hp : d.point <;> simp_all [DriverPoint.inLoop]
    split
    · rename_i hahead
      exact .stop hloop (Or.inl hahead)
    · rename_i i ahead hahead
      exact stepDriver_move hahead hloop

section Events

variable {permanentTypes : List String} {s s' : RollbackState} {q : Nat}

theorem dispatch_accepted (h : advanceRollback permanentTypes s .dispatch = some s') :
    ∃ tasks, s.tasks = tasks + 1 ∧
      s' = { s with tasks := tasks, driver := some (s.driver.getD .load) } := by
  simp only [advanceRollback] at h
  split at h
  · cases h
  · rename_i tasks htasks
    exact ⟨tasks,htasks,(Option.some.inj h).symm⟩

theorem drive_accepted {outcome : StepOutcome}
    (h : advanceRollback permanentTypes s (.drive outcome) = some s') :
    ∃ d, s.driver = some d ∧ DriverMove s.row d outcome s'.row s'.driver ∧
      s' = { s with row := s'.row, driver := s'.driver } := by
  simp only [advanceRollback] at h
  split at h
  · cases h
  · rename_i d hd
    obtain rfl := Option.some.inj h
    exact ⟨d,hd,driverStep_move s.row d outcome,rfl⟩

theorem pauseRead_accepted (h : advanceRollback permanentTypes s (.pauseRead q) = some s') :
    s' = s.setRequest q (some .pause) := by
  simp only [advanceRollback] at h
  split at h
  · exact (Option.some.inj h).symm
  · cases h

theorem pauseCommit_accepted (h : advanceRollback permanentTypes s (.pauseCommit q) = some s') :
    s' = (s.setStatus .paused).setRequest q none := by
  simp only [advanceRollback] at h
  split at h
  · exact (Option.some.inj h).symm
  · cases h

theorem resumeRead_accepted {project : Project}
    (h : advanceRollback permanentTypes s (.resumeRead q project) = some s') :
    (s.row.status = .paused ∨ s.row.status = .awaitingUser) ∧ ∃ populated,
      s' = s.setRequest q (some (.resume s.row.status populated)) := by
  simp only [advanceRollback] at h
  split at h
  · rename_i hread
    exact ⟨hread.2,_,(Option.some.inj h).symm⟩
  · cases h

/-- The state in which a resume leaves the rollback. -/
def RollbackState.resumed (s : RollbackState) (q : Nat) (steps : List NewRollbackStep)
    (status : ProjectRollbackStatus) : RollbackState :=
  { ((s.addSteps steps).setStatus status).setRequest q none with tasks := s.tasks + 1 }

theorem resumeCommit_accepted (h : advanceRollback permanentTypes s (.resumeCommit q) = some s') :
    ∃ held populated, s.requests q = some (.resume held populated) ∧
      s' = s.resumed q ((populated.map Prod.fst).getD []) (flushColumn s.row.status held
        .running) := by
  simp only [advanceRollback] at h
  split at h
  · rename_i held populated hq
    refine ⟨held,populated,hq,(Option.some.inj h).symm.trans ?_⟩
    cases populated with
    | none => simp [RollbackState.resumed,RollbackState.addSteps]
    | some populated => rfl
  · cases h

theorem decisionRead_accepted {i : Nat} {action : StepDecision}
    (h : advanceRollback permanentTypes s (.decisionRead q i action) = some s') :
    ∃ step, s.row.steps[i]? = some step ∧
      s' = s.setRequest q (some (.decision i s.row.status step action)) := by
  simp only [advanceRollback] at h
  split at h
  · rename_i step _ hstep
    exact ⟨step,hstep,(Option.some.inj h).symm⟩
  · cases h

theorem decisionCommit_accepted
    (h : advanceRollback permanentTypes s (.decisionCommit q) = some s') :
    ∃ i held loaded action, s.requests q = some (.decision i held loaded action) ∧
      s' = { s.setRequest q none with
        row := s.row.modifyStep i (decideRollbackStep loaded action)
        tasks := if held = .running then s.tasks else s.tasks + 1 } := by
  simp only [advanceRollback] at h
  split at h
  · rename_i i held loaded action hq
    exact ⟨i,held,loaded,action,hq,(Option.some.inj h).symm⟩
  · cases h

end Events

/-- A rollback that a driver has begun and not ended. -/
def ProjectRollbackStatus.live (status : ProjectRollbackStatus) : Prop :=
  status = .running ∨ status = .paused

/-- The driver goes by the steps that it has loaded. -/
def RollbackDriver.Engaged (d : RollbackDriver) : Prop := d.point ≠ .loading ∧ d.point ≠ .leaving

/-- What the driver relies on at each point. -/
def RollbackDriver.Ok (d : RollbackDriver) (row : ProjectRollback) : Prop :=
  (∀ i ∈ d.ahead, i < row.steps.length) ∧
    match d.point with
    | .loading => True
    | .starting => d.held = .running → row.status.live
    | .refreshed => d.held.live ∧ row.status.live ∧ d.ahead ≠ []
    | .finishing => d.held = .running ∧ row.status.live ∧ d.ahead = []
    | .leaving => True
    | _ => d.held = .running ∧ row.status.live ∧ d.ahead ≠ []

structure RollbackOk (s : RollbackState) : Prop where
  driver : ∀ d, s.driver = some d → d.Ok s.row
  resumes : ∀ q held populated, s.requests q = some (.resume held populated) → held ≠ .running

section Invariant

variable {permanentTypes : List String} {s s' : RollbackState} {d d' : RollbackDriver}
  {row row' : ProjectRollback} {outcome : StepOutcome} {status : ProjectRollbackStatus}

theorem mem_stepOrder {steps : List ProjectRollbackStep} {i : Nat} :
    i ∈ stepOrder steps ↔ i < steps.length := by
  simp [stepOrder]

theorem RollbackDriver.Ok.mono (h : d.Ok row) (hlive : row.status.live → row'.status.live)
    (hsteps : row.steps.length ≤ row'.steps.length) : d.Ok row' := by
  refine ⟨fun i hi => (h.1 i hi).trans_le hsteps,?_⟩
  have hpoint := h.2
  split <;> simp_all

theorem modifyStep_get {f : ProjectRollbackStep → ProjectRollbackStep} {i j : Nat}
    {step : ProjectRollbackStep} (h : (row.modifyStep i f).steps[j]? = some step) :
    ∃ old, row.steps[j]? = some old ∧ (i = j ∧ step = f old ∨ i ≠ j ∧ step = old) := by
  rw [ProjectRollback.modifyStep,List.getElem?_modify] at h
  obtain ⟨old,hold,rfl⟩ := Option.map_eq_some_iff.mp h
  by_cases hij : i = j
  · exact ⟨old,hold,Or.inl ⟨hij,by simp [hij]⟩⟩
  · exact ⟨old,hold,Or.inr ⟨hij,by simp [hij]⟩⟩

theorem record_completed (loaded : ProjectRollbackStep) (result : StepResult)
    (step : ProjectRollbackStep) : (loaded.record .completed result step).status = .completed := by
  simp [ProjectRollbackStep.record,flushColumn]

theorem modifyStep_length (row : ProjectRollback) (i : Nat)
    (f : ProjectRollbackStep → ProjectRollbackStep) :
    (row.modifyStep i f).steps.length = row.steps.length := by
  simp [ProjectRollback.modifyStep]

theorem loop_ok {ahead : List Nat} (h : row.status.live)
    (hahead : ∀ i ∈ ahead, i < row.steps.length) :
    (RollbackDriver.loop .running ahead).Ok row := by
  refine ⟨hahead,?_⟩
  cases ahead with
  | nil => exact ⟨rfl,h,rfl⟩
  | cons i ahead => exact ⟨rfl,h,by simp [RollbackDriver.loop]⟩

/-- A driver in the loop has a step to be at. -/
theorem RollbackDriver.Ok.inLoop (h : d.Ok row) (hloop : d.point.inLoop = true) :
    (d.held = .running ∨ d.point = .refreshed ∧ d.held = .paused) ∧ row.status.live ∧
      d.ahead ≠ [] := by
  have hpoint := h.2
  cases hp : d.point with
  | refreshed =>
    simp only [hp] at hpoint
    exact ⟨hpoint.1.imp id fun hpaused => ⟨rfl,hpaused⟩,hpoint.2⟩
  | loading => simp [hp,DriverPoint.inLoop] at hloop
  | starting => simp [hp,DriverPoint.inLoop] at hloop
  | finishing => simp [hp,DriverPoint.inLoop] at hloop
  | leaving => simp [hp,DriverPoint.inLoop] at hloop
  | _ =>
    simp only [hp] at hpoint
    exact ⟨Or.inl hpoint.1,hpoint.2⟩

theorem driverMove_ok (h : DriverMove row d outcome row' (some d')) (hok : d.Ok row) :
    d'.Ok row' := by
  generalize hafter : some d' = after at h
  have hpoint := hok.2
  cases h with
  | load hp =>
    obtain rfl := Option.some.inj hafter
    exact ⟨fun i hi => mem_stepOrder.mp hi,Or.inl⟩
  | start hp =>
    obtain rfl := Option.some.inj hafter
    simp only [hp] at hpoint
    refine loop_ok ?_ hok.1
    rcases flushColumn_cases row.status d.held .running with ⟨hheld,hkept⟩ | ⟨_,hnew⟩
    · exact hkept.symm ▸ hpoint hheld.symm
    · exact Or.inl hnew
  | finish hp =>
    obtain rfl := Option.some.inj hafter
    exact ⟨hok.1,trivial⟩
  | close hp => cases hafter
  | stop hp hstop =>
    obtain rfl := Option.some.inj hafter
    exact ⟨hok.1,trivial⟩
  | refresh i ahead hp hahead =>
    obtain rfl := Option.some.inj hafter
    simp only [hp] at hpoint
    exact ⟨hok.1,hpoint.2.1,hpoint.2⟩
  | pass i ahead step hp hahead hheld hstep hdone =>
    obtain rfl := Option.some.inj hafter
    simp only [hp] at hpoint
    rw [hpoint.1.resolve_right hheld]
    exact loop_ok hpoint.2.1 fun j hj => hok.1 j (by simp [hahead,hj])
  | await i ahead step hp hahead hstep hawaits =>
    obtain rfl := Option.some.inj hafter
    exact ⟨hok.1,trivial⟩
  | take i ahead step hp hahead hheld hstep hopen =>
    obtain rfl := Option.some.inj hafter
    simp only [hp] at hpoint
    exact ⟨hok.1,hpoint.1.resolve_right hheld,hpoint.2⟩
  | mark i ahead loaded hp hahead =>
    obtain rfl := Option.some.inj hafter
    simp only [hp] at hpoint
    exact ⟨fun j hj => (hok.1 j hj).trans_eq (modifyStep_length row i _).symm,hpoint⟩
  | execute i ahead loaded hp hahead =>
    obtain rfl := Option.some.inj hafter
    simp only [hp] at hpoint
    exact ⟨fun j hj => (hok.1 j hj).trans_eq (modifyStep_length row i _).symm,hpoint⟩
  | complete i ahead loaded result hp hahead =>
    obtain rfl := Option.some.inj hafter
    simp only [hp] at hpoint
    rw [hpoint.1]
    exact loop_ok hpoint.2.1 fun j hj =>
      (hok.1 j (by simp [hahead,hj])).trans_eq (modifyStep_length row i _).symm
  | fail i ahead loaded text hp hahead =>
    obtain rfl := Option.some.inj hafter
    exact ⟨fun j hj => (hok.1 j hj).trans_eq (modifyStep_length row i _).symm,trivial⟩

theorem RollbackOk.setRequest (h : RollbackOk s) (q : Nat) {request : Option RollbackRequest}
    (hq : ∀ held populated, request = some (.resume held populated) → held ≠ .running) :
    RollbackOk (s.setRequest q request) := by
  refine ⟨h.driver,fun q' held populated hget => ?_⟩
  by_cases he : q' = q
  · subst he
    exact hq held populated (by simpa [RollbackState.setRequest] using hget)
  · exact h.resumes q' held populated (by simpa [RollbackState.setRequest,he] using hget)

theorem rollbackOk_inductive : Inductive (rollbackSystem permanentTypes) RollbackOk := by
  constructor
  · intro s hs
    cases hs <;> exact ⟨by simp [RollbackState.initiated,RollbackState.automatic],
      by simp [RollbackState.initiated,RollbackState.automatic]⟩
  · intro s e s' hi h
    replace h : advanceRollback permanentTypes s e = some s' := h
    cases e with
    | dispatch =>
      obtain ⟨tasks,_,rfl⟩ := dispatch_accepted h
      refine ⟨fun d hd => ?_,hi.resumes⟩
      obtain rfl := Option.some.inj hd
      cases hdriver : s.driver with
      | none => exact ⟨by simp [RollbackDriver.load],trivial⟩
      | some d => exact hi.driver d hdriver
    | drive outcome =>
      obtain ⟨d,hd,hmove,hs'⟩ := drive_accepted h
      rw [hs']
      refine ⟨fun d' hd' => ?_,hi.resumes⟩
      rw [show s'.driver = some d' from hd'] at hmove
      exact driverMove_ok hmove (hi.driver d hd)
    | pauseRead q =>
      obtain rfl := pauseRead_accepted h
      exact hi.setRequest q (by simp)
    | pauseCommit q =>
      obtain rfl := pauseCommit_accepted h
      have hdriver : ∀ d, s.driver = some d → d.Ok (s.setStatus .paused).row := fun d hd =>
        (hi.driver d hd).mono (fun _ => Or.inr rfl) le_rfl
      exact ⟨hdriver,(hi.setRequest q (by simp)).resumes⟩
    | resumeRead q project =>
      obtain ⟨hstatus,populated,rfl⟩ := resumeRead_accepted h
      refine hi.setRequest q fun held _ he => ?_
      obtain ⟨rfl,_⟩ : s.row.status = held ∧ _ := by simpa using he
      rcases hstatus with hs | hs <;> simp [hs]
    | resumeCommit q =>
      obtain ⟨held,populated,hq,rfl⟩ := resumeCommit_accepted h
      rw [flushColumn,if_neg (hi.resumes q held populated hq).symm]
      refine ⟨fun d hd => (hi.driver d hd).mono (fun _ => Or.inl rfl) ?_,
        (hi.setRequest q (by simp)).resumes⟩
      simp [RollbackState.resumed,RollbackState.addSteps,RollbackState.setStatus,
        RollbackState.setRequest]
    | decisionRead q i action =>
      obtain ⟨step,_,rfl⟩ := decisionRead_accepted h
      exact hi.setRequest q (by simp)
    | decisionCommit q =>
      obtain ⟨i,held,loaded,action,_,rfl⟩ := decisionCommit_accepted h
      refine ⟨fun d hd => (hi.driver d hd).mono id (modifyStep_length _ _ _).ge,
        (hi.setRequest q (by simp)).resumes⟩
    | restart =>
      obtain rfl := Option.some.inj h
      exact ⟨by simp,by simp⟩

/-- The writes to the status of the rollback. -/
theorem step_status {e : RollbackEvent} (hok : RollbackOk s)
    (h : advanceRollback permanentTypes s e = some s') :
    s'.row.status = s.row.status ∧ (∀ outcome, e ≠ .drive outcome) ∨
      (∃ q, e = .pauseCommit q ∧ s'.row.status = .paused) ∨
      (∃ q, e = .resumeCommit q ∧ s'.row.status = .running) ∨
      ∃ outcome d, e = .drive outcome ∧ s.driver = some d ∧
        DriverMove s.row d outcome s'.row s'.driver := by
  cases e with
  | dispatch =>
    obtain ⟨tasks,_,rfl⟩ := dispatch_accepted h
    exact Or.inl ⟨rfl,by simp⟩
  | drive outcome =>
    obtain ⟨d,hd,hmove,_⟩ := drive_accepted h
    exact Or.inr (Or.inr (Or.inr ⟨outcome,d,rfl,hd,hmove⟩))
  | pauseRead q =>
    obtain rfl := pauseRead_accepted h
    exact Or.inl ⟨rfl,by simp⟩
  | pauseCommit q =>
    obtain rfl := pauseCommit_accepted h
    exact Or.inr (Or.inl ⟨q,rfl,rfl⟩)
  | resumeRead q project =>
    obtain ⟨_,populated,rfl⟩ := resumeRead_accepted h
    exact Or.inl ⟨rfl,by simp⟩
  | resumeCommit q =>
    obtain ⟨held,populated,hq,rfl⟩ := resumeCommit_accepted h
    rw [flushColumn,if_neg (hok.resumes q held populated hq).symm]
    exact Or.inr (Or.inr (Or.inl ⟨q,rfl,rfl⟩))
  | decisionRead q i action =>
    obtain ⟨step,_,rfl⟩ := decisionRead_accepted h
    exact Or.inl ⟨rfl,by simp⟩
  | decisionCommit q =>
    obtain ⟨i,held,loaded,action,_,rfl⟩ := decisionCommit_accepted h
    exact Or.inl ⟨rfl,by simp⟩
  | restart =>
    obtain rfl := Option.some.inj h
    exact Or.inl ⟨rfl,by simp⟩

/-- What a step does to the steps of the rollback. -/
inductive StepsMove (s : RollbackState) : RollbackEvent → RollbackState → Prop where
  | drive (outcome : StepOutcome) (d : RollbackDriver) (s' : RollbackState) :
      s.driver = some d → DriverMove s.row d outcome s'.row s'.driver →
      StepsMove s (.drive outcome) s'
  | append (q : Nat) (held : ProjectRollbackStatus)
      (populated : Option (List NewRollbackStep × ProjectStatus)) (s' : RollbackState) :
      s.requests q = some (.resume held populated) →
      s'.row.steps = (s.addSteps ((populated.map Prod.fst).getD [])).row.steps →
      StepsMove s (.resumeCommit q) s'
  | decide (q i : Nat) (held : ProjectRollbackStatus) (loaded : ProjectRollbackStep)
      (action : StepDecision) (s' : RollbackState) :
      s.requests q = some (.decision i held loaded action) →
      s'.row.steps = (s.row.modifyStep i (decideRollbackStep loaded action)).steps →
      StepsMove s (.decisionCommit q) s'
  | keep (e : RollbackEvent) (s' : RollbackState) : s'.row.steps = s.row.steps → StepsMove s e s'

theorem step_steps {e : RollbackEvent} (h : advanceRollback permanentTypes s e = some s') :
    StepsMove s e s' := by
  cases e with
  | dispatch =>
    obtain ⟨tasks,_,rfl⟩ := dispatch_accepted h
    exact .keep _ _ rfl
  | drive outcome =>
    obtain ⟨d,hd,hmove,_⟩ := drive_accepted h
    exact .drive outcome d s' hd hmove
  | pauseRead q =>
    obtain rfl := pauseRead_accepted h
    exact .keep _ _ rfl
  | pauseCommit q =>
    obtain rfl := pauseCommit_accepted h
    exact .keep _ _ rfl
  | resumeRead q project =>
    obtain ⟨_,populated,rfl⟩ := resumeRead_accepted h
    exact .keep _ _ rfl
  | resumeCommit q =>
    obtain ⟨held,populated,hq,rfl⟩ := resumeCommit_accepted h
    exact .append q held populated _ hq rfl
  | decisionRead q i action =>
    obtain ⟨step,_,rfl⟩ := decisionRead_accepted h
    exact .keep _ _ rfl
  | decisionCommit q =>
    obtain ⟨i,held,loaded,action,hq,rfl⟩ := decisionCommit_accepted h
    exact .decide q i held loaded action _ hq rfl
  | restart =>
    obtain rfl := Option.some.inj h
    exact .keep _ _ rfl

/-- A driver is called for, makes a move, or is lost. -/
theorem step_driver {e : RollbackEvent} (h : advanceRollback permanentTypes s e = some s')
    {d' : RollbackDriver} (hd' : s'.driver = some d') :
    s.driver = some d' ∧ (∀ outcome, e ≠ .drive outcome) ∨
      e = .dispatch ∧ s.driver = none ∧ d' = .load ∨
      ∃ outcome d, e = .drive outcome ∧ s.driver = some d ∧
        DriverMove s.row d outcome s'.row (some d') := by
  cases e with
  | dispatch =>
    obtain ⟨tasks,_,rfl⟩ := dispatch_accepted h
    cases hd : s.driver with
    | none => exact Or.inr (Or.inl ⟨rfl,rfl,by simpa [hd] using hd'.symm⟩)
    | some d => exact Or.inl ⟨by simpa [hd] using hd',by simp⟩
  | drive outcome =>
    obtain ⟨d,hd,hmove,_⟩ := drive_accepted h
    exact Or.inr (Or.inr ⟨outcome,d,rfl,hd,hd' ▸ hmove⟩)
  | pauseRead q =>
    obtain rfl := pauseRead_accepted h
    exact Or.inl ⟨hd',by simp⟩
  | pauseCommit q =>
    obtain rfl := pauseCommit_accepted h
    exact Or.inl ⟨hd',by simp⟩
  | resumeRead q project =>
    obtain ⟨_,populated,rfl⟩ := resumeRead_accepted h
    exact Or.inl ⟨hd',by simp⟩
  | resumeCommit q =>
    obtain ⟨held,populated,hq,rfl⟩ := resumeCommit_accepted h
    exact Or.inl ⟨hd',by simp⟩
  | decisionRead q i action =>
    obtain ⟨step,_,rfl⟩ := decisionRead_accepted h
    exact Or.inl ⟨hd',by simp⟩
  | decisionCommit q =>
    obtain ⟨i,held,loaded,action,_,rfl⟩ := decisionCommit_accepted h
    exact Or.inl ⟨hd',by simp⟩
  | restart =>
    obtain rfl := Option.some.inj h
    cases hd'

end Invariant

end Nexplane
