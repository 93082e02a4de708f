import Nexplane.CredentialFanout
import Nexplane.K8sUpgrade
import Nexplane.StepRollback

set_option autoImplicit false

/-! The activities of the execution workflow: status updates, the dispatch of a change to its
executor, verification, and the rollback of a plan. -/

namespace Nexplane
open PyValue

variable {ω : Type}

/-- What carries out a change. -/
inductive Executor where
  | identityFanOut
  | referenceScan
  | executeSteps
  | certificateRotation
  | credentialFanout
  | k8sClusterUpgrade
  | imageTransfer
  | planSteps
  deriving DecidableEq, Repr

def isFanOutChangeType : ChangeType → Bool
  | .emergencyUserLockout => true
  | .userSuspension => true
  | .userScopeReduction => true
  | .enforceMfa => true
  | _ => false

/-- The branches of `activity_execute_change`. -/
def workflowExecutor (changeType : ChangeType) : Executor :=
  if isFanOutChangeType changeType then .identityFanOut
  else
    match changeType with
    | .scanForReferences => .referenceScan
    | .credentialRotation => .executeSteps
    | .certificateRotation => .certificateRotation
    | .credentialRotationFanout => .credentialFanout
    | .k8sClusterUpgrade => .k8sClusterUpgrade
    | .containerImageTransfer => .imageTransfer
    | _ => .planSteps

def ChangeRequest.steps (cr : ChangeRequest) : List PlanStep :=
  (cr.changePlan.map ChangePlan.generatedSteps).getD []

def stepRecords (records : List StepRecord) : Json :=
  .obj [("steps",.arr (records.map StepRecord.toJson))]

/-- The generic branch of `activity_execute_change`. -/
def executePlanSteps (env : Env ω) : Py (World ω) Json := do
  let w ← Py.get
  let records ← onSite (session (runSteps env w.cr w.connectors [] w.cr.steps))
  pure (stepRecords records)

def Executor.run (env : Env ω) : Executor → Py (World ω) Json
  | .identityFanOut => do
    let w ← Py.get
    onOutside (env.fanOutExecute w.cr)
  | .referenceScan => do
    let w ← Py.get
    onOutside (env.orchestrateScan w.cr)
  | .executeSteps => Nexplane.executeSteps env
  | .certificateRotation => executeCertificateRotation env
  | .credentialFanout => executeCredentialRotationFanout env
  | .k8sClusterUpgrade => executeK8sClusterUpgrade env
  | .imageTransfer => do
    let w ← Py.get
    onOutside (env.transferExecute w.cr.desiredOutcome w.cr.targetAssetIds)
  | .planSteps => executePlanSteps env

def activityExecuteChange (env : Env ω) : Py (World ω) Json := do
  let w ← Py.get
  (workflowExecutor w.cr.changeType).run env

/-- The highest sequence of another change that shares a target asset. -/
def maxSequence (others : List ChangeRequest) (assetIds : List Uuid) : Nat :=
  ((others.filter fun cr => cr.targetAssetIds.any (· ∈ assetIds)).filterMap
    ChangeRequest.applicationSequence).foldl max 0

/-- A status, with the place on the rollback stack that the first completion takes. -/
def World.markStatus (w : World ω) (status : ChangeRequestStatus) : World ω :=
  if status = .completed ∧ w.cr.applicationSequence = none ∧ w.cr.targetAssetIds ≠ [] then
    { w with cr := { w.cr with
        status := status
        applicationSequence := some (maxSequence w.others w.cr.targetAssetIds + 1) } }
  else w.setStatus status

/-- `update_change_request_status`. The notification of a project's rollback service that a
failure schedules is left out. -/
def updateChangeRequestStatus (status : ChangeRequestStatus) : Py (World ω) Unit :=
  Py.modify fun w => w.markStatus status

/-- `update_execution_run_status`; a run that the workflow does not know is not updated. -/
def updateExecutionRunStatus (run : Option Nat) (status : ExecutionStatus) (result : Dict) :
    Py (World ω) Unit :=
  match run with
  | some i => Py.modify fun w =>
      w.setRun i fun r => { r with status := status, result := result }
  | none => pure ()

structure CheckResult where
  name : String
  passed : Bool
  detail : String

def CheckResult.toJson (c : CheckResult) : Json :=
  .obj [("name",.str c.name),("passed",.bool c.passed),("detail",.str c.detail)]

structure CheckReport where
  allPassed : Bool
  results : List CheckResult

def runPreflightChecks (names : List String) : CheckReport :=
  ⟨true,names.map fun name => ⟨name,true,"Check passed"⟩⟩

/-- `run_verification_checks`, which passes every check. -/
def runVerificationChecks (checks : List VerificationCheck) : CheckReport :=
  ⟨true,checks.map fun c => ⟨c.name,true,"Mock verification passed: " ++ c.description⟩⟩

def CheckReport.toJson (r : CheckReport) (successCriteria : String) : Json :=
  .obj [("all_passed",.bool r.allPassed),("results",.arr (r.results.map CheckResult.toJson)),
    ("success_criteria",.str successCriteria)]

def undoRecords (records : List UndoRecord) : Json :=
  .obj [("rollback_steps",.arr (records.map UndoRecord.toJson))]

def activityExecuteRollback (env : Env ω) (steps : List PlanStep) (executionResult : Json) :
    Py (World ω) Json := do
  let w ← Py.get
  if isFanOutChangeType w.cr.changeType then
    onOutside (env.fanOutRollback w.cr.desiredOutcome executionResult)
  else
    match w.cr.changeType with
    | .scanForReferences => pure (.obj [("status",.str "no_op"),
        ("note",.str "scan_for_references has no rollback action")])
    | .containerImageTransfer => do
      let inner ← Py.ofExcept (executionResult.get "execution" executionResult)
      onOutside (env.transferRollback w.cr.desiredOutcome inner)
    | _ => do
      let results ← Py.ofExcept (stepResultByNumber executionResult)
      let records ← onSite (undoSteps env w.cr w.connectors results steps)
      pure (undoRecords records)

@[simp] theorem World.markStatus_runs (w : World ω) (status : ChangeRequestStatus) :
    (w.markStatus status).runs = w.runs := by
  unfold World.markStatus
  split <;> rfl

@[simp] theorem World.markStatus_connectors (w : World ω) (status : ChangeRequestStatus) :
    (w.markStatus status).connectors = w.connectors := by
  unfold World.markStatus
  split <;> rfl

@[simp] theorem World.markStatus_site (w : World ω) (status : ChangeRequestStatus) :
    (w.markStatus status).site = w.site := by
  unfold World.markStatus
  split <;> rfl

@[simp] theorem World.markStatus_status (w : World ω) (status : ChangeRequestStatus) :
    (w.markStatus status).cr.status = status := by
  unfold World.markStatus
  split <;> rfl

@[simp] theorem World.markStatus_changeType (w : World ω) (status : ChangeRequestStatus) :
    (w.markStatus status).cr.changeType = w.cr.changeType := by
  unfold World.markStatus
  split <;> rfl

@[simp] theorem World.markStatus_targetAssetIds (w : World ω) (status : ChangeRequestStatus) :
    (w.markStatus status).cr.targetAssetIds = w.cr.targetAssetIds := by
  unfold World.markStatus
  split <;> rfl

@[simp] theorem World.markStatus_steps (w : World ω) (status : ChangeRequestStatus) :
    (w.markStatus status).cr.steps = w.cr.steps := by
  unfold World.markStatus
  split <;> rfl

end Nexplane
