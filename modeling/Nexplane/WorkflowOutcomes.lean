import Nexplane.ExecutorStatuses
import Nexplane.RollbackRecords

set_option autoImplicit false

/-! The execution workflow with its audit events, where each awaited call may raise and the checks
report what they want. -/

namespace Nexplane
open PyValue

variable {ω : Type}

/-- A call that the workflow awaits. What the hooks after the execution and the discovery do is up
to the environment. -/
inductive Awaited where
  | load
  | audit (eventType : String)
  | changeStatus (status : ChangeRequestStatus)
  | runStatus (status : String)
  | preflight
  | execution
  | verification
  | rollback
  deriving DecidableEq, Repr

/-- The exceptions that the awaited calls raise, and what the checks report. -/
structure Outcomes where
  raises : Awaited → Option Exc
  preflight : CheckReport
  verification : CheckReport

/-- The rows, with the statuses that were handed to `update_execution_run_status`. -/
structure WorkflowState (ω : Type) where
  world : World ω
  written : List String

def onRows {α : Type} (x : Py (World ω) α) : Py (WorkflowState ω) α :=
  Py.zoom WorkflowState.world (fun s w => { s with world := w }) x

section Workflow

variable (env : Env ω) (o : Outcomes)

def awaits {α : Type} (call : Awaited) (x : Py (WorkflowState ω) α) : Py (WorkflowState ω) α :=
  match o.raises call with
  | some e => Py.raise e
  | none => x

/-- `write_audit_event`, whose rows nothing here reads. -/
def writeAuditEvent (eventType : String) : Py (WorkflowState ω) Unit :=
  awaits o (.audit eventType) (pure ())

def awaitChangeStatus (status : ChangeRequestStatus) : Py (WorkflowState ω) Unit :=
  awaits o (.changeStatus status) (onRows (updateChangeRequestStatus status))

def awaitRunStatus (run : Option Nat) (status : String) (result : Dict) :
    Py (WorkflowState ω) Unit :=
  match run with
  | none => pure ()
  | some i => awaits o (.runStatus status) do
    Py.modify fun s => { s with written := s.written ++ [status] }
    let runStatus ← Py.ofExcept (ExecutionStatus.ofValue status)
    onRows (updateExecutionRunStatus (some i) runStatus result)

/-- `load_change_request_and_plan`: the change, and the place of its newest run. -/
def loadChangeRequestAndPlan : Py (World ω) (ChangeRequest × Option Nat) := do
  let w ← Py.get
  if w.cr.riskLevel.isNone then Py.raise .attributeError
  else pure (w.cr,latestRun (fun _ => true) w.runs)

section Ends

variable (cr : ChangeRequest) (run : Option Nat) (result : Json)

def awaitFailed (record : Dict) : Py (WorkflowState ω) Unit := do
  awaitChangeStatus o .failed
  awaitRunStatus o run "failed" record

def awaitCompleted : Py (WorkflowState ω) Unit := do
  awaitChangeStatus o .completed
  awaitRunStatus o run "completed" (inExecution result)
  writeAuditEvent o "workflow.completed"

def awaitPaused (markPaused : Bool) : Py (WorkflowState ω) Unit := do
  let state ← Py.ofExcept result.mapping
  awaitRunStatus o run "running" state
  writeAuditEvent o "execution.paused"
  if markPaused then awaitChangeStatus o .paused else pure ()

/-- The automatic rollback after a failed verification. -/
def awaitRollback : Py (WorkflowState ω) Unit := do
  writeAuditEvent o "verification.failed"
  writeAuditEvent o "rollback.started"
  awaitRunStatus o run "rolling_back" []
  let rollbackResult ← awaits o .rollback (onRows (activityExecuteRollback env cr.steps result))
  let status ← Py.ofExcept (automaticRollbackStatus rollbackResult)
  awaitChangeStatus o status
  awaitRunStatus o run status.value
    [("rollback",rollbackResult),("reason",.str "verification_failed")]
  writeAuditEvent o "rollback.completed"
  writeAuditEvent o "workflow.completed"

/-- Steps 4 to 6. What follows the discovery catches its exceptions and is left out. -/
def awaitVerification : Py (WorkflowState ω) Unit := do
  awaitChangeStatus o .verifying
  writeAuditEvent o "verification.started"
  awaits o .verification (pure ())
  if o.verification.allPassed then do
    writeAuditEvent o "verification.passed"
    awaitChangeStatus o .completed
    awaitRunStatus o run "completed" [("execution",result),("verification",
      o.verification.toJson ((cr.changePlan.map ChangePlan.successCriteria).getD ""))]
    writeAuditEvent o "workflow.completed"
    onRows do
      let w ← Py.get
      onOutside (env.postCompletionDiscovery w.cr)
  else awaitRollback env o cr run result

/-- The hooks between execution and verification. -/
def postHooks : Py (World ω) Unit :=
  if hasPostHook cr.changeType then onOutside (env.postHook cr.changeType cr.targetAssetIds result)
  else pure ()

/-- The end of a change without an executor of its own. -/
def awaitPlan : Py (WorkflowState ω) Unit := do
  let checked ← Py.ofExcept (executorResult result)
  if reportsFailed checked then do
    writeAuditEvent o "execution.failed"
    awaitFailed o run [("execution",result),("soft_failure",.bool true)]
  else do
    onRows (postHooks env cr result)
    let _ ← Py.ofExcept (if result.isDict then .ok () else .error Exc.attributeError)
    writeAuditEvent o "execution.completed"
    awaitVerification env o cr run result

/-- What follows an execution that returned. -/
def awaitOutcome : Py (WorkflowState ω) Unit :=
  match cr.changeType with
  | .credentialRotation =>
    if result.flag "paused" then awaitPaused o run result false else awaitCompleted o run result
  | .certificateRotation =>
    if result.flag "paused" then awaitPaused o run result true else awaitCompleted o run result
  | .credentialRotationFanout =>
    if result.flag "paused" then awaitPaused o run result true else awaitCompleted o run result
  | .k8sClusterUpgrade =>
    if result.flag "paused" then awaitPaused o run result true
    else if result.flag "failed" then do
      let state ← Py.ofExcept result.mapping
      awaitRunStatus o run "failed" state
      awaitChangeStatus o .failed
    else awaitCompleted o run result
  | .adDcParallelUpgrade => awaitCompleted o run result
  | _ => awaitPlan env o cr run result

end Ends

/-- `execute_change_workflow`. The loaded data has no `snapshot_before`, so that there is never a
snapshot before the change. -/
def awaitWorkflow : Py (WorkflowState ω) Unit := do
  let (cr,run) ← awaits o .load (onRows loadChangeRequestAndPlan)
  writeAuditEvent o "workflow.started"
  awaitChangeStatus o .executing
  writeAuditEvent o "preflight.started"
  awaits o .preflight (pure ())
  if o.preflight.allPassed then do
    writeAuditEvent o "preflight.passed"
    writeAuditEvent o "execution.started"
    let outcome ← Py.attempt (awaits o .execution (onRows (activityExecuteChange env)))
    match outcome with
    | .error e => do
      writeAuditEvent o "execution.failed"
      awaitFailed o run [("error",.str e.str)]
    | .ok result => awaitOutcome env o cr run result
  else do
    writeAuditEvent o "preflight.failed"
    awaitFailed o run [("reason",.str "preflight_failed"),
      ("details",.arr ((o.preflight.results.filter fun r => !r.passed).map CheckResult.toJson))]

end Workflow

section Mirror

variable {env : Env ω} {o : Outcomes} {s : WorkflowState ω} {α β : Type}

/-- From `s`, `x` comes to what `y` comes to on the rows alone. -/
def Mirrors (x : Py (WorkflowState ω) α) (y : Py (World ω) α) (s : WorkflowState ω) : Prop :=
  (x s).1 = (y s.world).1 ∧ (x s).2.world = (y s.world).2

theorem Mirrors.bind {x : Py (WorkflowState ω) α} {y : Py (World ω) α}
    {f : α → Py (WorkflowState ω) β} {g : α → Py (World ω) β} (hx : Mirrors x y s)
    (hf : ∀ a t, x s = (.ok a,t) → Mirrors (f a) (g a) t) : Mirrors (x >>= f) (y >>= g) s := by
  obtain ⟨hvalue,hworld⟩ := hx
  rw [Mirrors,Py.bind_run,Py.bind_run]
  rcases hrun : x s with ⟨e | a,t⟩ <;> rcases hy : y s.world with ⟨e' | a',w⟩ <;>
    rw [hrun,hy] at hvalue hworld
  · obtain rfl := Except.error.inj hvalue
    exact ⟨rfl,hworld⟩
  · cases hvalue
  · cases hvalue
  · obtain rfl := Except.ok.inj hvalue
    obtain rfl : t.world = w := hworld
    exact hf a t hrun

theorem mirrors_pure (a : α) : Mirrors (pure a) (pure a) s := ⟨rfl,rfl⟩

theorem mirrors_ofExcept (x : Except Exc α) : Mirrors (Py.ofExcept x) (Py.ofExcept x) s := ⟨rfl,rfl⟩

theorem mirrors_onRows (y : Py (World ω) α) : Mirrors (onRows y) y s := ⟨rfl,rfl⟩

theorem mirrors_attempt {x : Py (WorkflowState ω) α} {y : Py (World ω) α} (h : Mirrors x y s) :
    Mirrors (Py.attempt x) (Py.attempt y) s := ⟨congrArg Except.ok h.1,h.2⟩

theorem mirrors_get {x : Py (WorkflowState ω) α} {g : World ω → Py (World ω) α}
    (h : Mirrors x (g s.world) s) : Mirrors x (Py.get >>= g) s := h

variable (hcalm : ∀ call, o.raises call = none)

include hcalm

theorem mirrors_awaits {call : Awaited} {x : Py (WorkflowState ω) α} {y : Py (World ω) α}
    (h : Mirrors x y s) : Mirrors (awaits o call x) y s := by
  rw [awaits,hcalm]
  exact h

theorem mirrors_change (status : ChangeRequestStatus) :
    Mirrors (awaitChangeStatus o status) (updateChangeRequestStatus status) s :=
  mirrors_awaits hcalm (mirrors_onRows _)

theorem mirrors_run {run : Option Nat} {text : String} {status : ExecutionStatus} {result : Dict}
    (htext : ExecutionStatus.ofValue text = .ok status) :
    Mirrors (awaitRunStatus o run text result) (updateExecutionRunStatus run status result) s := by
  cases run with
  | none => exact mirrors_pure ()
  | some i =>
    refine mirrors_awaits hcalm ?_
    rw [htext]
    exact ⟨rfl,rfl⟩

/-- A call without an effect on the rows does not show in them. -/
theorem mirrors_skip {call : Awaited} {f : Unit → Py (WorkflowState ω) α}
    {y : Py (World ω) α} (h : Mirrors (f ()) y s) :
    Mirrors (awaits o call (pure ()) >>= f) y s := by
  rw [awaits,hcalm]
  exact h

theorem mirrors_audit {eventType : String} {f : Unit → Py (WorkflowState ω) α}
    {y : Py (World ω) α} (h : Mirrors (f ()) y s) :
    Mirrors (writeAuditEvent o eventType >>= f) y s := mirrors_skip hcalm h

theorem mirrors_audit_last {eventType : String} {x : Py (WorkflowState ω) Unit}
    {y : Py (World ω) Unit} (h : Mirrors x y s) :
    Mirrors (x >>= fun _ => writeAuditEvent o eventType) y s := by
  rw [← Py.bind_pure y]
  refine h.bind fun a t _ => ?_
  rw [writeAuditEvent,awaits,hcalm]
  exact mirrors_pure a

variable {cr : ChangeRequest} {run : Option Nat} {result : Json}

theorem awaitFailed_mirrors (record : Dict) : Mirrors (awaitFailed o run record)
    (updateChangeRequestStatus .failed >>= fun _ =>
      updateExecutionRunStatus run .failed record) s :=
  (mirrors_change hcalm .failed).bind fun _ _ _ => mirrors_run hcalm rfl

theorem awaitCompleted_mirrors : Mirrors (awaitCompleted o run result) (completeChange run result)
    s :=
  (mirrors_change hcalm .completed).bind fun _ _ _ =>
    mirrors_audit_last hcalm (mirrors_run hcalm rfl)

theorem awaitPaused_mirrors (markPaused : Bool) :
    Mirrors (awaitPaused o run result markPaused) (pauseChange run result markPaused) s := by
  refine (mirrors_ofExcept _).bind fun state t _ => (mirrors_run hcalm rfl).bind fun _ u _ =>
    mirrors_audit hcalm ?_
  cases markPaused with
  | true => exact mirrors_change hcalm .paused
  | false => exact mirrors_pure ()

theorem awaitVerification_mirrors (hchecks : o.verification = runVerificationChecks
    ((cr.changePlan.map ChangePlan.verificationChecks).getD [])) :
    Mirrors (awaitVerification env o cr run result)
      (verifyChange env run cr.changePlan cr.steps result) s := by
  have hpass : o.verification.allPassed = true := by
    rw [hchecks]
    rfl
  rw [awaitVerification,verifyChange,if_pos hpass,if_pos (by rfl),hchecks]
  exact (mirrors_change hcalm .verifying).bind fun _ _ _ => mirrors_audit hcalm (mirrors_skip hcalm
    (mirrors_audit hcalm ((mirrors_change hcalm .completed).bind fun _ _ _ =>
      (mirrors_run hcalm rfl).bind fun _ _ _ => mirrors_audit hcalm (mirrors_onRows _))))

theorem awaitPlan_mirrors (hchecks : o.verification = runVerificationChecks
    ((cr.changePlan.map ChangePlan.verificationChecks).getD []))
    (htype : s.world.cr.changeType = cr.changeType)
    (hassets : s.world.cr.targetAssetIds = cr.targetAssetIds) :
    Mirrors (awaitPlan env o cr run result)
      (recordPlan env run cr.changePlan cr.steps result) s := by
  rw [awaitPlan,recordPlan]
  refine (mirrors_ofExcept _).bind fun checked t hread => ?_
  obtain ⟨_,rfl⟩ := Prod.mk.inj hread
  split
  · exact mirrors_audit hcalm (awaitFailed_mirrors hcalm _)
  have hrest : ∀ t : WorkflowState ω, Mirrors
      (Py.ofExcept (if result.isDict then .ok () else .error Exc.attributeError) >>= fun _ =>
        writeAuditEvent o "execution.completed" >>= fun _ =>
        awaitVerification env o cr run result)
      (Py.ofExcept (if result.isDict then .ok () else .error Exc.attributeError) >>= fun _ =>
        verifyChange env run cr.changePlan cr.steps result) t := fun t =>
    (mirrors_ofExcept _).bind fun _ _ _ =>
      mirrors_audit hcalm (awaitVerification_mirrors hcalm hchecks)
  refine mirrors_get ?_
  rw [htype,hassets]
  by_cases hhook : hasPostHook cr.changeType = true
  · rw [postHooks,if_pos hhook,if_pos hhook]
    exact (mirrors_onRows _).bind fun _ t _ => hrest t
  · rw [postHooks,if_neg hhook,if_neg hhook]
    exact hrest s

theorem awaitOutcome_mirrors (hchecks : o.verification = runVerificationChecks
    ((cr.changePlan.map ChangePlan.verificationChecks).getD []))
    (hsame : cr.changeType ∉ executorTypes → s.world.cr.changeType = cr.changeType ∧
      s.world.cr.targetAssetIds = cr.targetAssetIds) :
    Mirrors (awaitOutcome env o cr run result)
      (recordOutcome env run cr.changePlan cr.steps cr.changeType result) s := by
  have hends : ∀ markPaused, Mirrors
      (if result.flag "paused" then awaitPaused o run result markPaused
        else awaitCompleted o run result)
      (if result.flag "paused" then pauseChange run result markPaused
        else completeChange run result) s := by
    intro markPaused
    split
    · exact awaitPaused_mirrors hcalm markPaused
    · exact awaitCompleted_mirrors hcalm
  unfold awaitOutcome recordOutcome
  cases hct : cr.changeType
  case credentialRotation => exact hends false
  case certificateRotation => exact hends true
  case credentialRotationFanout => exact hends true
  case k8sClusterUpgrade =>
    dsimp only
    split
    · exact awaitPaused_mirrors hcalm true
    split
    · exact (mirrors_ofExcept _).bind fun _ _ _ => (mirrors_run hcalm rfl).bind fun _ _ _ =>
        mirrors_change hcalm .failed
    · exact awaitCompleted_mirrors hcalm
  case adDcParallelUpgrade => exact awaitCompleted_mirrors hcalm
  all_goals
    obtain ⟨htype,hassets⟩ := hsame (by simp [hct,executorTypes])
    exact awaitPlan_mirrors hcalm hchecks htype hassets

end Mirror

/-- A change without an executor of its own stays the same while it is executed. -/
theorem activityExecuteChange_sameChange {env : Env ω} {w : World ω}
    (h : w.cr.changeType ∉ executorTypes) : (activityExecuteChange env w).2.cr = w.cr := by
  have hplan : (executePlanSteps env w).2.cr = w.cr :=
    Py.Keeps.bind (I := fun u => u.cr = w.cr) .get
      (fun _ => .bind (onSite_frame (fun _ _ h => h) _) fun _ => .pure _) w rfl
  rw [activityExecuteChange,Py.get_bind]
  cases hct : w.cr.changeType
  case credentialRotation => simp [hct,executorTypes] at h
  case certificateRotation => simp [hct,executorTypes] at h
  case credentialRotationFanout => simp [hct,executorTypes] at h
  case k8sClusterUpgrade => simp [hct,executorTypes] at h
  all_goals first
    | exact hplan
    | rfl

/-- The outcomes of the modelled checks, where no awaited call raises. -/
def calmOutcomes (cr : ChangeRequest) : Outcomes where
  raises := fun _ => none
  preflight := runPreflightChecks ((cr.changePlan.map ChangePlan.preflightChecks).getD [])
  verification := runVerificationChecks ((cr.changePlan.map ChangePlan.verificationChecks).getD [])

/-- Where no awaited call raises, this is the workflow without events. -/
theorem awaitWorkflow_calm (env : Env ω) (s : WorkflowState ω) :
    Mirrors (awaitWorkflow env (calmOutcomes s.world.cr)) (executeChangeWorkflow env) s := by
  have hcalm : ∀ call, (calmOutcomes s.world.cr).raises call = none := fun _ => rfl
  refine mirrors_get ?_
  cases hrisk : s.world.cr.riskLevel with
  | none =>
    have hload : onRows loadChangeRequestAndPlan s = (.error .attributeError,s) := by
      rw [onRows,Py.zoom_run,loadChangeRequestAndPlan,Py.get_bind,if_pos (by simp [hrisk])]
      rfl
    rw [if_pos (by rfl),Mirrors,awaitWorkflow,awaits,hcalm]
    dsimp only
    rw [Py.bind_error hload]
    exact ⟨rfl,rfl⟩
  | some risk =>
    have hload : onRows loadChangeRequestAndPlan s =
        (.ok (s.world.cr,latestRun (fun _ => true) s.world.runs),s) := by
      rw [onRows,Py.zoom_run,loadChangeRequestAndPlan,Py.get_bind,if_neg (by simp [hrisk])]
      rfl
    rw [if_neg (by simp),Mirrors,awaitWorkflow,awaits,hcalm]
    dsimp only
    rw [Py.bind_ok hload]
    refine mirrors_audit hcalm ((mirrors_change hcalm .executing).bind fun _ t ht =>
      mirrors_audit hcalm (mirrors_skip hcalm ?_))
    have hpass : (calmOutcomes s.world.cr).preflight.allPassed = true := rfl
    have hpass' : (runPreflightChecks
      ((s.world.cr.changePlan.map ChangePlan.preflightChecks).getD [])).allPassed = true := rfl
    rw [if_pos hpass,if_pos hpass']
    refine mirrors_audit hcalm (mirrors_audit hcalm (Mirrors.bind
      (mirrors_attempt (mirrors_awaits hcalm (mirrors_onRows _))) fun outcome u hu => ?_))
    cases outcome with
    | error e => exact mirrors_audit hcalm (awaitFailed_mirrors hcalm _)
    | ok result =>
      refine awaitOutcome_mirrors hcalm rfl fun hplain => ?_
      obtain ⟨_,rfl⟩ := Prod.mk.inj ht
      obtain ⟨_,rfl⟩ := Prod.mk.inj hu
      have hcr : (activityExecuteChange env (s.world.markStatus .executing)).2.cr =
          (s.world.markStatus .executing).cr :=
        activityExecuteChange_sameChange (by simpa using hplain)
      refine ⟨(congrArg ChangeRequest.changeType hcr).trans (by simp),
        (congrArg ChangeRequest.targetAssetIds hcr).trans (by simp)⟩

end Nexplane
