import Nexplane.RollbackDriver
import Nexplane.RollbackStatuses

set_option autoImplicit false

/-! A completed rollback of a project has settled its steps: each by a rollback of its change or by
a decision of an operator, and by a decision where there is nothing to roll back from. -/

namespace Nexplane
open PyValue Runs Orm

namespace ProjectRollbackStep

def Done (step : ProjectRollbackStep) : Prop := step.status = .completed ∨ step.status = .skipped

/-- An operator has skipped the step or marked it done. -/
def Decided (step : ProjectRollbackStep) : Prop :=
  step.result = StepDecision.skip.result ∨ step.result = StepDecision.markDone.result

def RolledBack (step : ProjectRollbackStep) : Prop :=
  step.left = some .rolledBack ∨ step.left = some .rolledBackWithWarnings

def Settled (step : ProjectRollbackStep) : Prop := step.RolledBack ∨ step.Decided

/-- The step is done only if it is settled. -/
structure Sound (step : ProjectRollbackStep) : Prop where
  settled : step.Done → step.Settled
  permanent : step.Done → step.rollbackKind = .permanentNoBackup → step.Decided

/-- The commit of a decision does not mix with another write: what it leaves as it was loaded is as
it was loaded. -/
def Unmixed (loaded step : ProjectRollbackStep) : StepDecision → Prop
  | .retry => loaded.status = .pending → loaded.result.isNone = true ∨ step = loaded
  | action => StepResult.eq action.result loaded.result = true →
      loaded.status = action.status ∨ step = loaded

end ProjectRollbackStep

/-- A rollback that completes in this step has settled its steps. -/
def CompletesSettled (t : Transition RollbackState RollbackEvent) : Prop :=
  t.pre.row.status ≠ .completed → t.post.row.status = .completed →
    ∀ step ∈ t.post.row.steps, step.Settled

/-- The rollback of a change that returns has rolled it back, and there was a way to; steps are
filled in while no driver goes by the old ones, and asked for again before the driver has passed
them; and decisions do not mix with other writes. -/
def Settling (s : RollbackState) : RollbackEvent → Prop
  | .drive outcome => ∀ d i ahead loaded step, s.driver = some d → d.point = .executing loaded →
      d.ahead = i :: ahead → s.row.steps[i]? = some step → outcome.result.isOk = true →
      (outcome.left = .rolledBack ∨ outcome.left = .rolledBackWithWarnings) ∧
        step.rollbackKind ≠ .permanentNoBackup
  | .resumeCommit q => ∀ d held steps project, s.driver = some d →
      s.requests q = some (.resume held (some (steps,project))) → steps = [] ∨ ¬d.Engaged
  | .decisionCommit q => ∀ i held loaded action step,
      s.requests q = some (.decision i held loaded action) → s.row.steps[i]? = some step →
      loaded.Unmixed step action ∧
        (action = .retry → ∀ d, s.driver = some d → d.Engaged → i ∈ d.ahead)
  | _ => True

section Decisions

variable {loaded step : ProjectRollbackStep} {action : StepDecision}

theorem decision_eq {text : String} {result : Option StepResult}
    (h : StepResult.eq (some (.decision text)) result = true) :
    result = some (.decision text) := by
  cases result with
  | none => cases h
  | some result =>
    cases result with
    | decision other =>
      have heq : text = other := by simpa [StepResult.eq] using h
      rw [heq]
    | error other => cases h
    | rollback other => cases h

theorem none_eq {result : Option StepResult} (h : result.isNone = true) :
    StepResult.eq none result = true := by
  cases result with
  | none => rfl
  | some result => cases h

/-- A step that a decision leaves done was decided, or done before with the same result. -/
theorem decide_done (h : loaded.Unmixed step action)
    (hdone : (decideRollbackStep loaded action step).Done) :
    (decideRollbackStep loaded action step).Decided ∨
      step.Done ∧ (decideRollbackStep loaded action step).result = step.result := by
  have hstatus : action.status = loaded.status →
      (decideRollbackStep loaded action step).status = step.status := fun he => by
    simp [decideRollbackStep,flushColumn,he]
  have hresult : StepResult.eq action.result loaded.result = true →
      (decideRollbackStep loaded action step).result = step.result := fun he => by
    simp [decideRollbackStep,flushWith,he]
  have hwritten : StepResult.eq action.result loaded.result = false →
      (decideRollbackStep loaded action step).result = action.result := fun he => by
    simp [decideRollbackStep,flushWith,he]
  -- A decision that settles the step writes its result or finds it there.
  have hsettles : (StepResult.eq action.result loaded.result = true →
      loaded.status = action.status ∨ step = loaded) →
      (StepResult.eq action.result loaded.result = true → loaded.result = action.result) →
      (decideRollbackStep loaded action step).result = action.result ∨
        step.Done ∧ (decideRollbackStep loaded action step).result = step.result := by
    intro hunmixed hloaded
    cases heq : StepResult.eq action.result loaded.result with
    | false => exact Or.inl (hwritten heq)
    | true =>
      rcases hunmixed heq with hsame | rfl
      · refine Or.inr ⟨?_,hresult heq⟩
        rw [ProjectRollbackStep.Done,hstatus hsame.symm] at hdone
        exact hdone
      · exact Or.inl ((hresult heq).trans (hloaded heq))
  cases action with
  | skip => exact (hsettles h decision_eq).imp Or.inl id
  | markDone => exact (hsettles h decision_eq).imp Or.inr id
  | retry =>
    by_cases hpending : loaded.status = .pending
    · rw [ProjectRollbackStep.Done,hstatus hpending.symm] at hdone
      rcases h hpending with hnone | rfl
      · exact Or.inr ⟨hdone,hresult (none_eq hnone)⟩
      · simp [hpending] at hdone
    · have hwrites : (decideRollbackStep loaded .retry step).status = .pending := by
        simp [decideRollbackStep,flushColumn,StepDecision.status,Ne.symm hpending]
      simp [ProjectRollbackStep.Done,hwrites] at hdone

theorem decide_stays (hdone : step.Done) (h : action ≠ .retry) :
    (decideRollbackStep loaded action step).Done := by
  rcases flushColumn_cases step.status loaded.status action.status with ⟨_,hkept⟩ | ⟨_,hnew⟩
  · exact hdone.imp hkept.trans hkept.trans
  · cases action with
    | skip => exact Or.inr hnew
    | markDone => exact Or.inl hnew
    | retry => exact absurd rfl h

theorem decide_sound (h : loaded.Unmixed step action) (hsound : step.Sound) :
    (decideRollbackStep loaded action step).Sound := by
  constructor
  · intro hdone
    rcases decide_done h hdone with hdecided | ⟨hbefore,hresult⟩
    · exact Or.inr hdecided
    · rcases hsound.settled hbefore with hback | hdecided
      · exact Or.inl hback
      · rw [ProjectRollbackStep.Decided,← hresult] at hdecided
        exact Or.inr hdecided
  · intro hdone hkind
    rcases decide_done h hdone with hdecided | ⟨hbefore,hresult⟩
    · exact hdecided
    · have hdecided := hsound.permanent hbefore hkind
      rw [ProjectRollbackStep.Decided,← hresult] at hdecided
      exact hdecided

end Decisions

/-- The driver is at a step that it has found open. -/
def DriverPoint.holds : DriverPoint → Bool
  | .marking _ | .executing _ | .executed _ _ => true
  | _ => false

/-- The steps that the driver has passed are done, and the one it holds is so by a decision only. -/
structure RollbackDriver.Honest (d : RollbackDriver) (row : ProjectRollback) : Prop where
  passed : d.Engaged → ∀ i step, row.steps[i]? = some step → i ∉ d.ahead → step.Done
  current : d.point.holds = true → ∀ i ahead step, d.ahead = i :: ahead →
    row.steps[i]? = some step → step.Done → step.Decided
  executed : ∀ loaded result i ahead step, d.point = .executed loaded (.ok result) →
    d.ahead = i :: ahead → row.steps[i]? = some step →
    step.RolledBack ∧ step.rollbackKind ≠ .permanentNoBackup

structure SettledInv (s : RollbackState) : Prop where
  ok : RollbackOk s
  sound : ∀ step ∈ s.row.steps, step.Sound
  driver : ∀ d, s.driver = some d → d.Honest s.row

section Driver

variable {s : RollbackState} {row row' : ProjectRollback} {d d' : RollbackDriver}
  {outcome : StepOutcome} {after : Option RollbackDriver}

theorem mark_done {loaded step : ProjectRollbackStep} (h : (loaded.mark step).Done) : step.Done :=
  h.imp (fun h => flushColumn_eq h (by decide)) fun h => flushColumn_eq h (by decide)

theorem mark_sound {loaded step : ProjectRollbackStep} (h : step.Sound) :
    (loaded.mark step).Sound :=
  ⟨fun hdone => h.settled (mark_done hdone),fun hdone => h.permanent (mark_done hdone)⟩

theorem modifyStep_sound {f : ProjectRollbackStep → ProjectRollbackStep} {i : Nat}
    (hsound : ∀ step ∈ row.steps, step.Sound)
    (hf : ∀ step, row.steps[i]? = some step → step.Sound → (f step).Sound) :
    ∀ step ∈ (row.modifyStep i f).steps, step.Sound := by
  intro step hstep
  obtain ⟨j,hj⟩ := List.mem_iff_getElem?.mp hstep
  obtain ⟨old,hold,⟨rfl,rfl⟩ | ⟨_,rfl⟩⟩ := modifyStep_get hj
  · exact hf old hold (hsound old (List.mem_of_getElem? hold))
  · exact hsound step (List.mem_of_getElem? hold)

theorem driverMove_sound (h : DriverMove row d outcome row' after)
    (hsound : ∀ step ∈ row.steps, step.Sound) (hhonest : d.Honest row) :
    ∀ step ∈ row'.steps, step.Sound := by
  cases h with
  | mark i ahead loaded hp hahead => exact modifyStep_sound hsound fun _ _ => mark_sound
  | execute i ahead loaded hp hahead =>
    refine modifyStep_sound hsound fun step hstep hs => ?_
    -- A step that is executed is open, or an operator has decided it meanwhile.
    have hdecided := hhonest.current (by simp [DriverPoint.holds,hp]) i ahead step hahead hstep
    exact ⟨fun hdone => Or.inr (hdecided hdone),fun hdone _ => hdecided hdone⟩
  | complete i ahead loaded result hp hahead =>
    refine modifyStep_sound hsound fun step hstep _ => ?_
    obtain ⟨hback,hkind⟩ := hhonest.executed loaded result i ahead step hp hahead hstep
    exact ⟨fun _ => Or.inl hback,fun _ hpermanent => absurd hpermanent hkind⟩
  | fail i ahead loaded text hp hahead =>
    refine modifyStep_sound hsound fun step _ _ => ?_
    have hopen : ¬(loaded.record .awaitingUser (.error text) step).Done := by
      simp [ProjectRollbackStep.Done,ProjectRollbackStep.record,flushColumn]
    exact ⟨fun hdone => absurd hdone hopen,fun hdone => absurd hdone hopen⟩
  | _ => exact hsound

@[simp] theorem loop_ahead (held : ProjectRollbackStatus) (ahead : List Nat) :
    (RollbackDriver.loop held ahead).ahead = ahead := rfl

theorem loop_holds (held : ProjectRollbackStatus) (ahead : List Nat) :
    (RollbackDriver.loop held ahead).point.holds = false := by
  cases ahead <;> rfl

/-- Where the driver holds no step, only the steps it has passed matter. -/
theorem RollbackDriver.Honest.passing (h : d.point.holds = false)
    (hpassed : d.Engaged → ∀ i step, row.steps[i]? = some step → i ∉ d.ahead → step.Done) :
    d.Honest row := by
  refine ⟨hpassed,fun hholds => ?_,fun loaded result _ _ _ hp => ?_⟩
  · simp [h] at hholds
  · simp [hp,DriverPoint.holds] at h

theorem modifyStep_passed {f : ProjectRollbackStep → ProjectRollbackStep} {i : Nat}
    {ahead : List Nat}
    (hpassed : ∀ j step, row.steps[j]? = some step → j ∉ i :: ahead → step.Done) :
    ∀ j step, (row.modifyStep i f).steps[j]? = some step → j ∉ i :: ahead → step.Done := by
  intro j step hstep hj
  obtain ⟨old,hold,⟨rfl,_⟩ | ⟨_,rfl⟩⟩ := modifyStep_get hstep
  · simp at hj
  · exact hpassed j step hold hj

theorem modifyStep_head {f : ProjectRollbackStep → ProjectRollbackStep} {i j : Nat}
    {ahead ahead' : List Nat} {step : ProjectRollbackStep} (h : i :: ahead = j :: ahead')
    (hstep : (row.modifyStep i f).steps[j]? = some step) :
    ∃ old, row.steps[i]? = some old ∧ step = f old := by
  obtain ⟨rfl,_⟩ := List.cons.inj h
  obtain ⟨old,hold,⟨_,hstep⟩ | ⟨hne,_⟩⟩ := modifyStep_get hstep
  · exact ⟨old,hold,hstep⟩
  · exact absurd rfl hne

theorem driverMove_honest (h : DriverMove s.row d outcome row' (some d')) (hd : s.driver = some d)
    (hhonest : d.Honest s.row) (hG : Settling s (.drive outcome)) : d'.Honest row' := by
  have hpassed := hhonest.passed
  generalize hafter : some d' = next at h
  cases h with
  | load hp =>
    obtain rfl := Option.some.inj hafter
    refine .passing rfl fun _ i step hstep hi => ?_
    exact absurd (mem_stepOrder.mpr (List.getElem?_eq_some_iff.mp hstep).1) hi
  | start hp =>
    obtain rfl := Option.some.inj hafter
    exact .passing (loop_holds _ _) fun _ => hpassed (by simp [RollbackDriver.Engaged,hp])
  | refresh i ahead hp _ =>
    obtain rfl := Option.some.inj hafter
    exact .passing rfl fun _ => hpassed (by simp [RollbackDriver.Engaged,hp])
  | pass i ahead step hp hahead hheld hstep hdone =>
    obtain rfl := Option.some.inj hafter
    refine .passing (loop_holds _ _) fun _ j step' hstep' hj => ?_
    by_cases hji : j = i
    · obtain rfl : step = step' := Option.some.inj (hstep.symm.trans (hji ▸ hstep'))
      exact hdone
    · exact hpassed (by simp [RollbackDriver.Engaged,hp]) j step' hstep'
        (by simpa [hahead,hji] using hj)
  | take i ahead step hp hahead hheld hstep hopen =>
    obtain rfl := Option.some.inj hafter
    refine ⟨fun _ => hpassed (by simp [RollbackDriver.Engaged,hp]),
      fun _ j ahead' step' hahead' hstep' hdone => ?_,fun loaded result _ _ _ hpoint => ?_⟩
    · obtain ⟨rfl,_⟩ := List.cons.inj (hahead.symm.trans hahead')
      obtain rfl := Option.some.inj (hstep.symm.trans hstep')
      exact absurd hdone hopen
    · cases hpoint
  | mark i ahead loaded hp hahead =>
    obtain rfl := Option.some.inj hafter
    have hcurrent := hhonest.current (by simp [DriverPoint.holds,hp]) i ahead
    refine ⟨fun _ => ?_,fun _ j ahead' step hahead' hstep hdone => ?_,
      fun loaded result _ _ _ hpoint => ?_⟩
    · dsimp only
      rw [hahead]
      exact modifyStep_passed (hahead ▸ hpassed (by simp [RollbackDriver.Engaged,hp]))
    · obtain ⟨old,hold,rfl⟩ := modifyStep_head (hahead.symm.trans hahead') hstep
      exact hcurrent old hahead hold (mark_done hdone)
    · cases hpoint
  | execute i ahead loaded hp hahead =>
    obtain rfl := Option.some.inj hafter
    have hcurrent := hhonest.current (by simp [DriverPoint.holds,hp]) i ahead
    refine ⟨fun _ => ?_,fun _ j ahead' step hahead' hstep hdone => ?_,
      fun loaded' result j ahead' step hpoint hahead' hstep => ?_⟩
    · dsimp only
      rw [hahead]
      exact modifyStep_passed (hahead ▸ hpassed (by simp [RollbackDriver.Engaged,hp]))
    · obtain ⟨old,hold,rfl⟩ := modifyStep_head (hahead.symm.trans hahead') hstep
      exact hcurrent old hahead hold hdone
    · obtain ⟨old,hold,rfl⟩ := modifyStep_head (hahead.symm.trans hahead') hstep
      have hresult : outcome.result = .ok result := by
        simpa using (DriverPoint.executed.inj hpoint).2
      obtain ⟨hleft,hkind⟩ := hG d i ahead loaded old hd hp hahead hold (by
        simp [hresult,Except.isOk,Except.toBool])
      exact ⟨hleft.imp (congrArg some) (congrArg some),hkind⟩
  | complete i ahead loaded result hp hahead =>
    obtain rfl := Option.some.inj hafter
    refine .passing (loop_holds _ _) fun _ j step hstep hj => ?_
    obtain ⟨old,hold,⟨_,rfl⟩ | ⟨hne,rfl⟩⟩ := modifyStep_get hstep
    · exact Or.inl (record_completed loaded _ old)
    · refine hpassed (by simp [RollbackDriver.Engaged,hp]) j step hold ?_
      simpa [hahead,Ne.symm hne] using hj
  | close hp => cases hafter
  | _ =>
    obtain rfl := Option.some.inj hafter
    exact .passing rfl fun hengaged => absurd rfl hengaged.2

end Driver

section Invariant

variable {permanentTypes : List String} {s s' : RollbackState} {d : RollbackDriver}
  {e : RollbackEvent}

theorem RollbackDriver.Honest.congr {row row' : ProjectRollback} (h : d.Honest row)
    (hsteps : row'.steps = row.steps) : d.Honest row' := by
  obtain ⟨hpassed,hcurrent,hexecuted⟩ := h
  rw [← hsteps] at hpassed hcurrent hexecuted
  exact ⟨hpassed,hcurrent,hexecuted⟩

theorem RollbackDriver.Honest.decide {row : ProjectRollback} {i : Nat}
    {loaded : ProjectRollbackStep} {action : StepDecision} (h : d.Honest row)
    (hG : ∀ step, row.steps[i]? = some step →
      loaded.Unmixed step action ∧ (action = .retry → d.Engaged → i ∈ d.ahead)) :
    d.Honest (row.modifyStep i (decideRollbackStep loaded action)) := by
  refine ⟨fun hengaged j step hstep hj => ?_,fun hholds j ahead step hahead hstep hdone => ?_,
    fun loaded' result j ahead step hp hahead hstep => ?_⟩
  · obtain ⟨old,hold,⟨rfl,rfl⟩ | ⟨_,rfl⟩⟩ := modifyStep_get hstep
    · refine decide_stays (h.passed hengaged i old hold hj) fun haction => ?_
      exact hj ((hG old hold).2 haction hengaged)
    · exact h.passed hengaged j step hold hj
  · obtain ⟨old,hold,⟨rfl,rfl⟩ | ⟨_,rfl⟩⟩ := modifyStep_get hstep
    · rcases decide_done (hG old hold).1 hdone with hdecided | ⟨hbefore,hresult⟩
      · exact hdecided
      · have hdecided := h.current hholds i ahead old hahead hold hbefore
        rw [ProjectRollbackStep.Decided,← hresult] at hdecided
        exact hdecided
    · exact h.current hholds j ahead step hahead hold hdone
  · obtain ⟨old,hold,⟨rfl,rfl⟩ | ⟨_,rfl⟩⟩ := modifyStep_get hstep
    · exact h.executed loaded' result i ahead old hp hahead hold
    · exact h.executed loaded' result j ahead step hp hahead hold

/-- Steps filled in lie beyond those that the driver has loaded. -/
theorem RollbackDriver.Honest.append {row : ProjectRollback} (h : d.Honest row) (hok : d.Ok row)
    (steps : List NewRollbackStep) (hG : steps = [] ∨ ¬d.Engaged) :
    d.Honest { row with steps := row.steps ++ steps.map fun step => { step with } } := by
  have hkept : ∀ i ahead step, d.ahead = i :: ahead →
      (row.steps ++ steps.map fun step => ({ step with } : ProjectRollbackStep))[i]? = some step →
      row.steps[i]? = some step := by
    intro i ahead step hahead hstep
    rwa [List.getElem?_append_left (hok.1 i (by simp [hahead]))] at hstep
  refine ⟨fun hengaged => ?_,fun hholds i ahead step hahead hstep => ?_,
    fun loaded result i ahead step hp hahead hstep => ?_⟩
  · have hnone := hG.resolve_right (not_not.mpr hengaged)
    simpa [hnone] using h.passed hengaged
  · exact h.current hholds i ahead step hahead (hkept i ahead step hahead hstep)
  · exact h.executed loaded result i ahead step hp hahead (hkept i ahead step hahead hstep)

theorem new_sound (step : NewRollbackStep) : ({ step with } : ProjectRollbackStep).Sound := by
  constructor <;> simp [ProjectRollbackStep.Done]

theorem SettledInv.step_sound (hi : SettledInv s) (hG : Settling s e)
    (h : advanceRollback permanentTypes s e = some s') : ∀ step ∈ s'.row.steps, step.Sound := by
  cases step_steps h with
  | drive outcome d _ hd hmove => exact driverMove_sound hmove hi.sound (hi.driver d hd)
  | append q held populated _ _ hsteps =>
    rw [hsteps]
    intro step hstep
    rcases List.mem_append.mp hstep with hold | hnew
    · exact hi.sound step hold
    · obtain ⟨new,_,rfl⟩ := List.mem_map.mp hnew
      exact new_sound new
  | decide q i held loaded action _ hq hsteps =>
    rw [hsteps]
    exact modifyStep_sound hi.sound fun step hstep =>
      decide_sound (hG i held loaded action step hq hstep).1
  | keep _ _ hsteps =>
    rw [hsteps]
    exact hi.sound

theorem SettledInv.step_honest (hi : SettledInv s) (hG : Settling s e)
    (h : advanceRollback permanentTypes s e = some s') (hd : s'.driver = some d) :
    d.Honest s'.row := by
  rcases step_driver h hd with ⟨hbefore,hdrive⟩ | ⟨_,_,rfl⟩ | ⟨outcome,d₀,rfl,hd₀,hmove⟩
  · have hhonest := hi.driver d hbefore
    cases step_steps h with
    | drive outcome _ _ _ _ => exact absurd rfl (hdrive outcome)
    | append q held populated _ hq hsteps =>
      have hnone : (populated.map Prod.fst).getD [] = [] ∨ ¬d.Engaged := by
        cases populated with
        | none => exact Or.inl rfl
        | some populated => exact hG d held _ _ hbefore hq
      exact (hhonest.append (hi.ok.driver d hbefore) _ hnone).congr hsteps
    | decide q i held loaded action _ hq hsteps =>
      refine RollbackDriver.Honest.congr (hhonest.decide fun step hstep => ?_) hsteps
      exact (hG i held loaded action step hq hstep).imp id fun hretry haction =>
        hretry haction d hbefore
    | keep _ _ hsteps => exact hhonest.congr hsteps
  · exact .passing rfl fun hengaged => absurd rfl hengaged.1
  · exact driverMove_honest hmove hd₀ (hi.driver d₀ hd₀) hG

theorem settledInv_inductive :
    InductiveUnder (rollbackSystem permanentTypes) Settling SettledInv := by
  constructor
  · intro s hs
    refine ⟨rollbackOk_inductive.start s hs,?_,?_⟩
    · cases hs with
      | initiated project crIds userId notes =>
        intro step hstep
        obtain ⟨new,_,rfl⟩ := List.mem_map.mp hstep
        exact new_sound new
      | automatic crId trigger => simp [RollbackState.automatic]
    · cases hs <;> simp [RollbackState.initiated,RollbackState.automatic]
  · intro s e s' hi hG h
    exact ⟨rollbackOk_inductive.step s e s' hi.ok h,hi.step_sound hG h,
      fun _ => hi.step_honest hG h⟩

/-- Only a driver that has passed every step completes the rollback. -/
theorem step_completesSettled (hi : SettledInv s)
    (h : advanceRollback permanentTypes s e = some s') : CompletesSettled ⟨s,e,s'⟩ := by
  intro hbefore hafter
  dsimp only at hbefore hafter ⊢
  rcases step_status hi.ok h with ⟨hkept,_⟩ | ⟨q,_,hpaused⟩ | ⟨q,_,hrunning⟩ |
    ⟨outcome,d,_,hd,hmove⟩
  · exact absurd (hkept.symm.trans hafter) hbefore
  · simp [hpaused] at hafter
  · simp [hrunning] at hafter
  · have hpoint := (hi.ok.driver d hd).2
    have hpassed := (hi.driver d hd).passed
    generalize s'.row = row' at hmove hafter ⊢
    generalize s'.driver = after at hmove
    cases hmove with
    | start hp => exact absurd (flushColumn_eq hafter (by decide)) hbefore
    | finish hp =>
      simp only [hp] at hpoint
      intro step hstep
      obtain ⟨i,hi'⟩ := List.mem_iff_getElem?.mp hstep
      have hdone := hpassed (by simp [RollbackDriver.Engaged,hp]) i step hi' (by simp [hpoint.2.2])
      exact (hi.sound step hstep).settled hdone
    | _ => exact absurd hafter hbefore

end Invariant

section Runs

variable {permanentTypes : List String} {tr : List (Transition RollbackState RollbackEvent)}
  {s : RollbackState}

/-- A rollback completes with its steps settled, and no step without a way back is ever done but by
a decision. -/
theorem completed_rollbacks_settled (h : Run (rollbackSystem permanentTypes) tr s)
    (hG : ∀ t ∈ tr, Settling t.pre t.label) :
    (∀ t ∈ tr, CompletesSettled t) ∧
      ∀ step ∈ s.row.steps, step.Done → step.rollbackKind = .permanentNoBackup →
        step.Decided := by
  constructor
  · intro t ht
    obtain ⟨hi,hs⟩ := h.transition_guarded settledInv_inductive hG t ht
    exact step_completesSettled hi hs
  · intro step hstep
    exact ((h.guarded settledInv_inductive hG).sound step hstep).permanent

end Runs

theorem sampleDriven_settling :
    (rollbackSystem []).Meets Settling sampleRollback sampleDriven := by
  have hdrive : ∀ {s : RollbackState} {step : ProjectRollbackStep}, s.row.steps = [step] →
      step.rollbackKind = .standard → Settling s (.drive sampleUndone) := by
    intro s step hsteps hkind d i ahead loaded step' _ _ _ hstep' _
    have hmem := List.mem_of_getElem? hstep'
    rw [hsteps] at hmem
    obtain rfl := List.mem_singleton.mp hmem
    exact ⟨Or.inl rfl,by simp [hkind]⟩
  exact ⟨trivial,hdrive rfl rfl,hdrive rfl rfl,hdrive rfl rfl,hdrive rfl rfl,hdrive rfl rfl,
    hdrive rfl rfl,hdrive rfl rfl,hdrive rfl rfl,hdrive rfl rfl,trivial⟩

theorem sample_completed_rollbacks_settled :
    ∃ tr s, Run (rollbackSystem []) tr s ∧ tr.map Transition.label = sampleDriven.reverse ∧
      s.row.status = .completed ∧ (∀ t ∈ tr, CompletesSettled t) ∧
      ∀ step ∈ s.row.steps, step.Done → step.rollbackKind = .permanentNoBackup →
        step.Decided := by
  have hrun : (rollbackSystem []).replay sampleRollback sampleDriven = some _ := rfl
  have h := (Run.start sampleRollback_start).replay hrun
  exact ⟨_,_,h,rfl,rfl,completed_rollbacks_settled h
    (System.history_meets sampleDriven_settling (by simp))⟩

/-- The only undo of the change raises, and its rollback returns. -/
def sampleUnsettled : StepOutcome :=
  executeStep (sampleUndos (Py.raise (.other "unreachable"))) ⟨"cr-1",1,.standard,none⟩ []
    (sampleUndoable.setStatus .completed)

def sampleDrivenOn : List RollbackEvent :=
  .dispatch :: List.replicate 8 (.drive sampleUnsettled)

/-- The rollback of the project completes with the rollback of its change failed. -/
theorem unsettled_rollback_completes :
    sampleUnsettled.left = .rollbackFailed ∧ ∃ tr s, Run (rollbackSystem []) tr s ∧
      tr.map Transition.label = sampleDrivenOn.reverse ∧ s.row.status = .completed ∧
      ¬∀ t ∈ tr, CompletesSettled t := by
  have hrun : (rollbackSystem []).replay sampleRollback sampleDrivenOn = some _ := rfl
  refine ⟨rfl,_,_,(Run.start sampleRollback_start).replay hrun,rfl,rfl,fun h => ?_⟩
  rcases h _ List.mem_cons_self (by decide) rfl _ List.mem_cons_self with hback | hdecided
  · rcases hback with hleft | hleft
    · cases hleft
    · cases hleft
  · rcases hdecided with hresult | hresult
    · cases hresult
    · cases hresult

end Nexplane
