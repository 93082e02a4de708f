import Nexplane.FanoutRuns
import Nexplane.Workflow

set_option autoImplicit false

/-! What the workflow leaves in the runs of a change, and which of them a later rollback reads. -/

namespace Nexplane
open PyValue

variable {ω : Type} {env : Env ω} {w w₁ v : World ω}

theorem activityExecuteChange_planSteps (h : workflowExecutor w.cr.changeType = .planSteps) :
    activityExecuteChange env w = executePlanSteps env w := by
  rw [activityExecuteChange,Py.get_bind,h]
  rfl

/-- What the workflow makes of the outcome of the execution. -/
def World.recordExecution (env : Env ω) (w : World ω) (outcome : Except Exc Json) :
    Py (World ω) Unit :=
  match outcome with
  | .error e => recordException (latestRun (fun _ => true) w.runs) e
  | .ok result =>
    recordOutcome env (latestRun (fun _ => true) w.runs) w.cr.changePlan w.cr.steps
      w.cr.changeType result

/-- The workflow executes the change and records the outcome; its preflight checks all pass. -/
theorem executeChangeWorkflow_eq (h : w.cr.riskLevel.isSome) :
    executeChangeWorkflow env w =
      w.recordExecution env (activityExecuteChange env (w.markStatus .executing)).1
        (activityExecuteChange env (w.markStatus .executing)).2 := by
  have hpass : (runPreflightChecks
      ((w.cr.changePlan.map ChangePlan.preflightChecks).getD [])).allPassed = true := rfl
  have hrisk : ¬w.cr.riskLevel.isNone := by simpa [Option.isSome_iff_ne_none] using h
  rw [executeChangeWorkflow,Py.get_bind,if_neg hrisk,if_pos hpass,updateChangeRequestStatus,
    Py.modify_bind,Py.attempt_bind]
  cases (activityExecuteChange env (w.markStatus .executing)).1 <;> rfl

theorem executeChangeWorkflow_ok (h : executeChangeWorkflow env w = (.ok (),w₁)) :
    (∃ e v, activityExecuteChange env (w.markStatus .executing) = (.error e,v) ∧
      recordException (latestRun (fun _ => true) w.runs) e v = (.ok (),w₁)) ∨
    (∃ result v, activityExecuteChange env (w.markStatus .executing) = (.ok result,v) ∧
      recordOutcome env (latestRun (fun _ => true) w.runs) w.cr.changePlan w.cr.steps
        w.cr.changeType result v = (.ok (),w₁)) := by
  cases hrisk : w.cr.riskLevel with
  | none => simp [executeChangeWorkflow,hrisk] at h
  | some risk =>
    rw [executeChangeWorkflow_eq (by simp [hrisk])] at h
    rcases hrun : activityExecuteChange env (w.markStatus .executing) with ⟨outcome,v⟩
    rw [hrun] at h
    cases outcome with
    | error e => exact Or.inl ⟨e,v,rfl,h⟩
    | ok result => exact Or.inr ⟨result,v,rfl,h⟩

/-- The state in which `completeChange` leaves a change whose workflow knows a run. -/
def World.completedWith (v : World ω) (i : Nat) (result : Json) : World ω :=
  (v.markStatus .completed).setRun i fun r =>
    { r with status := .completed, result := inExecution result }

@[simp] theorem World.completedWith_runs (v : World ω) (i : Nat) (result : Json) :
    (v.completedWith i result).runs = v.runs.modify i fun r =>
      { r with status := .completed, result := inExecution result } := by
  simp [World.completedWith,World.setRun]

theorem completeChange_eq (i : Nat) (result : Json) :
    completeChange (some i) result v = (.ok (),v.completedWith i result) := rfl

theorem modify_append_left {rs later : List ExecutionRun} {i : Nat} (h : i < rs.length)
    (f : ExecutionRun → ExecutionRun) :
    (rs ++ later).modify i f = rs.modify i f ++ later := by
  induction rs generalizing i with
  | nil => simp at h
  | cons r rs ih =>
    cases i with
    | zero => rfl
    | succ i => simp [ih (by simpa using h)]

theorem modify_last {rs : List ExecutionRun} (h : rs ≠ []) (f : ExecutionRun → ExecutionRun) :
    ∃ init r, rs.modify (rs.length - 1) f = init ++ [f r] := by
  rcases List.eq_nil_or_concat rs with hnil | ⟨init,r,rfl⟩
  · exact absurd hnil h
  · exact ⟨init,r,by simp [modify_concat]⟩

theorem verifyChange_run (env : Env ω) (v : World ω) (i : Nat) (plan : Option ChangePlan)
    (steps : List PlanStep) (result : Json) : ∃ verification,
      (verifyChange env (some i) plan steps result v).2.runs = v.runs.modify i fun r =>
        { r with
          status := .completed
          result := [("execution",result),("verification",verification)] } := by
  have hpass : (runVerificationChecks
      ((plan.map ChangePlan.verificationChecks).getD [])).allPassed = true := rfl
  refine ⟨(runVerificationChecks ((plan.map ChangePlan.verificationChecks).getD [])).toJson
    ((plan.map ChangePlan.successCriteria).getD ""),?_⟩
  rw [verifyChange,updateChangeRequestStatus,Py.modify_bind,if_pos hpass,
    updateChangeRequestStatus,Py.modify_bind,updateExecutionRunStatus,Py.modify_bind,Py.get_bind]
  simp only [onOutside,onSite,Py.zoom_run,World.setRun,World.markStatus_runs]

/-- A rollback reads the newest completed run. -/
theorem runResult_loaded {init later : List ExecutionRun} {r : ExecutionRun}
    (hw : w.runs = init ++ [r] ++ later) (hr : r.status = .completed)
    (hlater : ∀ s ∈ later, s.status ≠ .completed) :
    w.runResult (loadedRun w.runs) = r.result := by
  have hnone : ∀ s ∈ later, decide (s.status = .completed) = false := by simpa using hlater
  have hlatest : latestRun (fun r => r.status = .completed) w.runs = some init.length := by
    rw [hw,latestRun_append_of_none hnone]
    exact latestRun_concat (by simpa using hr)
  have hloaded : loadedRun w.runs = some init.length := by rw [loadedRun,hlatest]; rfl
  rw [hloaded]
  simp [World.runResult,World.run?,hw]

/-- A rollback reads the run of the one execution, completed or not. -/
theorem runResult_executed {earlier later : List ExecutionRun} {r : ExecutionRun}
    (hw : w.runs = earlier ++ [r] ++ later) (hearlier : ∀ s ∈ earlier, s.status ≠ .completed)
    (hid : hasText "rollback" r.workflowId = false)
    (hlater : ∀ s ∈ later, s.status ≠ .completed ∧ hasText "rollback" s.workflowId = true) :
    w.runResult (loadedRun w.runs) = r.result := by
  by_cases hr : r.status = .completed
  · exact runResult_loaded hw hr fun s hs => (hlater s hs).1
  · have hnone : latestRun (fun r => r.status = .completed) w.runs = none := by
      refine latestRun_eq_none.mpr fun s hs => ?_
      simp only [hw,List.mem_append,List.mem_singleton] at hs
      rcases hs with (hs | rfl) | hs
      · simpa using hearlier s hs
      · simpa using hr
      · simpa using (hlater s hs).1
    have hlatest : latestRun (fun r => !hasText "rollback" r.workflowId) w.runs =
        some earlier.length := by
      rw [hw,latestRun_append_of_none fun s hs => by simp [(hlater s hs).2]]
      exact latestRun_concat (by simp [hid])
    have hloaded : loadedRun w.runs = some earlier.length := by
      rw [loadedRun,hnone,hlatest]
      rfl
    rw [hloaded]
    simp [World.runResult,World.run?,hw]

/-- A property that what the workflow writes after the execution keeps. -/
structure WorkflowWrites (I : World ω → Prop) : Prop where
  status : ∀ u s, I u → I (u.markStatus s)
  run : ∀ u i f, I u → I (u.setRun i f)
  outside : ∀ (u : World ω) o, I u → I { u with site := { u.site with outside := o } }

section Frame

variable {I : World ω → Prop} (hI : WorkflowWrites I)

include hI

theorem updateChangeRequestStatus_frame (status : ChangeRequestStatus) :
    Py.Keeps I (updateChangeRequestStatus status) := .modify fun u h => hI.status u _ h

theorem updateExecutionRunStatus_frame (run : Option Nat) (status : ExecutionStatus)
    (result : Dict) : Py.Keeps I (updateExecutionRunStatus run status result) := by
  cases run with
  | some i => exact .modify fun u h => hI.run u _ _ h
  | none => exact .pure _

theorem onOutside_frame {α : Type} (x : Py ω α) : Py.Keeps I (onOutside x) :=
  fun u h => hI.outside u _ h

theorem recordException_frame (run : Option Nat) (e : Exc) :
    Py.Keeps I (recordException run e) :=
  .bind (updateChangeRequestStatus_frame hI _) fun _ => updateExecutionRunStatus_frame hI _ _ _

/-- Verification accepts every result, so that nothing is rolled back. -/
theorem verifyChange_frame (run : Option Nat) (plan : Option ChangePlan) (steps : List PlanStep)
    (result : Json) : Py.Keeps I (verifyChange env run plan steps result) := by
  refine (updateChangeRequestStatus_frame hI .verifying).bind fun _ => ?_
  rw [if_pos (show (runVerificationChecks _).allPassed = true from rfl)]
  exact (updateChangeRequestStatus_frame hI .completed).bind fun _ =>
    (updateExecutionRunStatus_frame hI _ _ _).bind fun _ => .bind .get fun _ =>
      onOutside_frame hI _

theorem recordPlan_frame (run : Option Nat) (plan : Option ChangePlan) (steps : List PlanStep)
    (result : Json) : Py.Keeps I (recordPlan env run plan steps result) := by
  refine .bind (.ofExcept _) fun checked => .ite ?_ ?_
  · exact (updateChangeRequestStatus_frame hI _).bind fun _ =>
      updateExecutionRunStatus_frame hI _ _ _
  · have hrest : Py.Keeps I (do
        let _ ← Py.ofExcept (if result.isDict then .ok () else .error Exc.attributeError)
        verifyChange env run plan steps result) :=
      .bind (.ofExcept _) fun _ => verifyChange_frame hI _ _ _ _
    exact .bind .get fun u => .ite ((onOutside_frame hI _).bind fun _ => hrest) hrest

theorem completeChange_frame (run : Option Nat) (result : Json) :
    Py.Keeps I (completeChange run result) :=
  (updateChangeRequestStatus_frame hI _).bind fun _ => updateExecutionRunStatus_frame hI _ _ _

theorem pauseChange_frame (run : Option Nat) (result : Json) (markPaused : Bool) :
    Py.Keeps I (pauseChange run result markPaused) :=
  .bind (.ofExcept _) fun _ => (updateExecutionRunStatus_frame hI _ _ _).bind fun _ =>
    .ite (updateChangeRequestStatus_frame hI _) (.pure _)

theorem recordOutcome_frame (run : Option Nat) (plan : Option ChangePlan)
    (steps : List PlanStep) (changeType : ChangeType) (result : Json) :
    Py.Keeps I (recordOutcome env run plan steps changeType result) := by
  have hends : ∀ markPaused, Py.Keeps I (if result.flag "paused" then
      pauseChange run result markPaused else completeChange run result) := fun _ =>
    .ite (pauseChange_frame hI _ _ _) (completeChange_frame hI _ _)
  cases changeType with
  | credentialRotation => exact hends _
  | certificateRotation => exact hends _
  | credentialRotationFanout => exact hends _
  | k8sClusterUpgrade =>
    refine .ite (pauseChange_frame hI _ _ _) (.ite ?_ (completeChange_frame hI _ _))
    exact .bind (.ofExcept _) fun _ => (updateExecutionRunStatus_frame hI _ _ _).bind
      fun _ => updateChangeRequestStatus_frame hI _
  | adDcParallelUpgrade => exact completeChange_frame hI _ _
  | _ => exact recordPlan_frame hI _ _ _ _

end Frame

/-- An approved change with a run that waits for its workflow. -/
def sampleApproved (changeType : ChangeType) (plan : Option ChangePlan)
    (desiredOutcome : Dict) : World Unit where
  cr := ⟨"cr-1","org-1","user-1",changeType,[],desiredOutcome,.approved,some .low,plan,none⟩
  others := []
  runs := [⟨"wf-1",.pending,[]⟩]
  connectors := [{
    id := "12345678-1234-5678-1234-567812345678"
    organizationId := "org-1"
    connectorType := "aws" }]
  site := ⟨[],[],[],[],()⟩

end Nexplane
