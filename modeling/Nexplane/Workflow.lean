import Nexplane.RollbackExecutor

set_option autoImplicit false

/-! The execution workflow: preflight, execution, the record of its outcome for each kind of
change, verification and the automatic rollback. -/

namespace Nexplane
open PyValue

variable {ω : Type}

def inExecution (result : Json) : Dict := [("execution",result)]

/-- The end of a change whose executor reports neither a pause nor a failure. -/
def completeChange (run : Option Nat) (result : Json) : Py (World ω) Unit := do
  updateChangeRequestStatus .completed
  updateExecutionRunStatus run .completed (inExecution result)

/-- The paused state goes to the run; the executor of credential rotations has already paused
the change. -/
def pauseChange (run : Option Nat) (result : Json) (markPaused : Bool) : Py (World ω) Unit := do
  let state ← Py.ofExcept result.mapping
  updateExecutionRunStatus run .running state
  if markPaused then updateChangeRequestStatus .paused else pure ()

/-- `isinstance(result, dict) and result.get("failed") is True`. -/
def reportsFailed (result : Json) : Bool :=
  match result with
  | .obj d => (Dict.getD d "failed" .null).isTrue
  | _ => false

/-- The result that is checked for a soft failure: the first step's where there is one. -/
def executorResult (executionResult : Json) : Except Exc Json :=
  match executionResult with
  | .obj d =>
    if reportsFailed executionResult then .ok executionResult
    else
      let steps := Dict.getD d "steps" .null
      if steps.truthy then do
        match ← steps.iter with
        | [] => pure executionResult
        | first :: _ => do
          let result ← first.get "result" .null
          pure (if result.isDict then result else executionResult)
      else .ok executionResult
  | other => .ok other

/-- The status that a failed verification's rollback ends in. -/
def automaticRollbackStatus (rollbackResult : Json) : Except Exc ChangeRequestStatus := do
  let outcome := rollbackResult.orElse (.obj [])
  let raw ← outcome.get "rollback_steps" .null
  let direct ← outcome.get "rolled_back" (.bool true)
  if raw.truthy then do
    let steps ← raw.iter >>= List.mapM undoOutcome
    let successes ← steps.mapM fun s => do
      let success ← s.get "success" (.bool false)
      pure success.truthy
    pure (determineRollbackStatus successes true)
  else do
    let steps ← outcome.get "steps" .null
    let entries ← (steps.orElse (.arr [])).iter
    let successes ← entries.mapM fun s => do
      let success ← s.get "success" (.bool false)
      pure success.truthy
    pure (determineRollbackStatus successes (!entries.isEmpty || direct.truthy))

section Record

variable (env : Env ω) (run : Option Nat) (plan : Option ChangePlan) (steps : List PlanStep)

/-- Verification failed: the plan is rolled back. -/
def rollBackFailed (result : Json) : Py (World ω) Unit := do
  updateExecutionRunStatus run .rollingBack []
  let rollbackResult ← activityExecuteRollback env steps result
  let status ← Py.ofExcept (automaticRollbackStatus rollbackResult)
  updateChangeRequestStatus status
  match run with
  | some _ => do
    let runStatus ← Py.ofExcept (ExecutionStatus.ofValue status.value)
    updateExecutionRunStatus run runStatus
      [("rollback",rollbackResult),("reason",.str "verification_failed")]
  | none => pure ()

/-- Steps 4 to 6: verification and what follows from it. -/
def verifyChange (result : Json) : Py (World ω) Unit := do
  updateChangeRequestStatus .verifying
  let report := runVerificationChecks ((plan.map ChangePlan.verificationChecks).getD [])
  let criteria := (plan.map ChangePlan.successCriteria).getD ""
  if report.allPassed then do
    updateChangeRequestStatus .completed
    updateExecutionRunStatus run .completed
      [("execution",result),("verification",report.toJson criteria)]
    let w ← Py.get
    onOutside (env.postCompletionDiscovery w.cr)
  else rollBackFailed env run steps result

/-- The hooks that some change types have between execution and verification. -/
def hasPostHook (changeType : ChangeType) : Bool :=
  changeType ∈ [.agentAppdiscovery,.agentContainerizeBuild,.agentContainerizeRetire,.changeIp,
    .migrateIp,.k8sWorkloadDeploy]

/-- The record of a change without an executor of its own. -/
def recordPlan (result : Json) : Py (World ω) Unit := do
  let checked ← Py.ofExcept (executorResult result)
  if reportsFailed checked then do
    updateChangeRequestStatus .failed
    updateExecutionRunStatus run .failed [("execution",result),("soft_failure",.bool true)]
  else do
    let w ← Py.get
    if hasPostHook w.cr.changeType then
      onOutside (env.postHook w.cr.changeType w.cr.targetAssetIds result)
    else pure ()
    let _ ← Py.ofExcept (if result.isDict then .ok () else .error Exc.attributeError)
    verifyChange env run plan steps result

/-- What becomes of the result of `activity_execute_change`. -/
def recordOutcome (changeType : ChangeType) (result : Json) : Py (World ω) Unit :=
  match changeType with
  | .credentialRotation =>
    if result.flag "paused" then pauseChange run result false else completeChange run result
  | .certificateRotation =>
    if result.flag "paused" then pauseChange run result true else completeChange run result
  | .credentialRotationFanout =>
    if result.flag "paused" then pauseChange run result true else completeChange run result
  | .k8sClusterUpgrade =>
    if result.flag "paused" then pauseChange run result true
    else if result.flag "failed" then do
      let state ← Py.ofExcept result.mapping
      updateExecutionRunStatus run .failed state
      updateChangeRequestStatus .failed
    else completeChange run result
  | .adDcParallelUpgrade => completeChange run result
  | _ => recordPlan env run plan steps result

end Record

/-- An exception of the execution fails the change, and the run keeps only its text. -/
def recordException (run : Option Nat) (e : Exc) : Py (World ω) Unit := do
  updateChangeRequestStatus .failed
  updateExecutionRunStatus run .failed [("error",.str e.str)]

/-- `execute_change_workflow`. The runner logs an exception that leaves it. -/
def executeChangeWorkflow (env : Env ω) : Py (World ω) Unit := do
  let w ← Py.get
  if w.cr.riskLevel.isNone then Py.raise .attributeError
  else do
    let run := latestRun (fun _ => true) w.runs
    updateChangeRequestStatus .executing
    let preflight :=
      runPreflightChecks ((w.cr.changePlan.map ChangePlan.preflightChecks).getD [])
    if preflight.allPassed then do
      let outcome ← Py.attempt (activityExecuteChange env)
      match outcome with
      | .error e => recordException run e
      | .ok result =>
        recordOutcome env run w.cr.changePlan w.cr.steps w.cr.changeType result
    else do
      updateChangeRequestStatus .failed
      updateExecutionRunStatus run .failed
        [("reason",.str "preflight_failed"),
          ("details",.arr ((preflight.results.filter fun r => !r.passed).map CheckResult.toJson))]

end Nexplane
