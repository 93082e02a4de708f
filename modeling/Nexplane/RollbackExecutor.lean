import Nexplane.Activities

set_option autoImplicit false

/-! The rollback of one change request: the run it reads, the reader that fits its change type,
and the status it ends in. -/

namespace Nexplane
open PyValue

variable {ω : Type}

/-- The run that `_load_cr_and_run` picks: the newest completed one, else the newest that is no
rollback, else the newest. -/
def loadedRun (runs : List ExecutionRun) : Option Nat :=
  (latestRun (fun r => r.status = .completed) runs).or
    ((latestRun (fun r => !hasText "rollback" r.workflowId) runs).or
      (latestRun (fun _ => true) runs))

/-- `_determine_rollback_status`, over the `success` of each step. -/
def determineRollbackStatus (successes : List Bool) (rollbackRan : Bool) : ChangeRequestStatus :=
  if rollbackRan = false ∨ successes = [] then .rollbackFailed
  else if successes.all id then .rolledBack
  else if successes.any id then .rollbackPartial
  else .rollbackFailed

def successEntry (success : Bool) : Json := .obj [("success",.bool success)]

/-- `{"success": "error" not in s.get("result", {})}`. -/
def undoOutcome (step : Json) : Except Exc Json := do
  let result ← step.get "result" (.obj [])
  let failed ← result.contains "error"
  pure (successEntry !failed)

/-- The steps a rollback result reports, in any of its formats. -/
def reportedSteps (result : Dict) : Except Exc (List Json) := do
  let execution ← Json.get (result.getD "execution" (.obj [])) "steps" .null
  let reported ← (execution.orElse ((result.getD "steps" .null).orElse (.arr []))).iter
  if reported.isEmpty then
    match result.get? "rollback_steps" with
    | some (.arr []) => pure [successEntry true]
    | some (.arr steps) => steps.mapM undoOutcome
    | _ => pure []
  else pure reported

/-- `status: ok/error` entries as `success` entries. -/
def normalizeSteps (steps : List Json) : Except Exc (List Json) := do
  let noSuccess ← steps.allM fun s => do
    let has ← s.contains "success"
    pure !has
  let someStatus ← if noSuccess then steps.anyM (Json.contains "status") else pure false
  if someStatus then
    steps.mapM fun s => do
      let status ← s.get "status" .null
      pure (successEntry (status.isStr "ok"))
  else pure steps

/-- The terminal status of a rollback that returned `result`. -/
def rollbackOutcome (result : Json) : Except Exc ChangeRequestStatus :=
  match result with
  | .obj d => do
    let reported ← reportedSteps d
    let steps ← normalizeSteps reported
    let direct := Dict.getD d "rolled_back" .null
    let refused := steps.isEmpty && (direct matches .bool false)
    if steps.isEmpty && direct.isTrue || refused && Dict.truthy d "_rollback_no_op" then
      pure (determineRollbackStatus [true] true)
    else if refused then pure (determineRollbackStatus [] false)
    else do
      let successes ← steps.mapM fun s => do
        let success ← s.get "success" (.bool false)
        pure success.truthy
      pure (determineRollbackStatus successes true)
  | _ => pure (determineRollbackStatus [] true)

/-- The first truthy value of a key over the recorded steps. -/
def firstRecorded (key : String) : List Json → Except Exc (Option Json)
  | [] => pure none
  | s :: steps => do
    let value ← s.get key .null
    if value.truthy then pure (some value) else firstRecorded key steps

def fallbackTypes : List String :=
  ["container_registry", "active_directory", "nexplane_agent", "aws", "azure_ad", "okta"]

/-- The first connector type for which the catalog has an executor of the action. -/
def firstExecutor (env : Env ω) (actionId : String) : List String →
    Option (String × ExecutorModule ω)
  | [] => none
  | t :: types =>
    match env.getExecutor t actionId with
    | .ok module => some (t,module)
    | .error _ => firstExecutor env actionId types

/-- The connector recorded at execution time, which must still exist, or without one some
connector of the recorded type. Other failures leave none. -/
def recordedConnector (env : Env ω) (cr : ChangeRequest) (connectors : List Connector)
    (connectorId connectorType : Option Json) : Except Exc (Option Connector) :=
  match connectorId with
  | some value =>
    match parseUuid value.textOf with
    | .error _ => .ok none
    | .ok id =>
      match connectors.find? fun c => c.id = id with
      | none => .error (.runtimeError ("rollback_executor: connector " ++ value.textOf ++
          " no longer exists — cannot safely roll back. Restore the connector or roll back " ++
          "manually."))
      | some c => .ok (attachCredentials env c).toOption
  | none => .ok do
    let text ← connectorType.map Json.textOf
    guard (env.isConnectorType text)
    let connector ← connectors.find? fun c =>
      c.organizationId = cr.organizationId && c.connectorType = text
    (attachCredentials env connector).toOption

/-- The module whose rollback function stands in for missing plan steps, with the name under
which it was found. -/
def fallbackModule (env : Env ω) (cr : ChangeRequest) (connectorType actionId : Option Json) :
    Option (String × String × ExecutorModule ω) :=
  let action := actionId.map Json.textOf
  let name :=
    if cr.changeType.value = "catalog_action" then action.getD cr.changeType.value
    else cr.changeType.value
  let recorded := (connectorType.map Json.textOf).toList
  let types := recorded ++ fallbackTypes.filter (· ∉ recorded)
  match firstExecutor env name types with
  | some (t,module) => some (t,name,module)
  | none => do
    let other ← action.filter (· ≠ name)
    let (t,module) ← firstExecutor env other types
    pure (t,other,module)

/-- The result of the step numbered 1, else the whole envelope. -/
def firstStepResult (executionResult : Json) : List Json → Except Exc Json
  | [] => pure executionResult
  | s :: steps => do
    let number ← s.get "step_number" .null
    if Json.eq number (.int 1) then s.get "result" (.obj [])
    else firstStepResult executionResult steps

/-- A refusal is marked, so that it later counts as nothing to undo. -/
def markNoOp (result : Json) : Json :=
  match result with
  | .obj d =>
    match Dict.getD d "rolled_back" .null with
    | .bool false => .obj (Dict.set d "_rollback_no_op" (.bool true))
    | _ => result
  | _ => result

def executorFallback (env : Env ω) (cr : ChangeRequest) (connectors : List Connector)
    (executionResult : Json) : Py (Site ω) Json :=
  Py.tryExcept
    (do
      let steps ← Py.ofExcept (storedSteps executionResult)
      let connectorType ← Py.ofExcept (firstRecorded "connector_type" steps)
      let actionId ← Py.ofExcept (firstRecorded "action_id" steps)
      let connectorId ← Py.ofExcept (firstRecorded "connector_id" steps)
      let connector ← Py.ofExcept (recordedConnector env cr connectors connectorId connectorType)
      match fallbackModule env cr connectorType actionId with
      | some (t,name,⟨_,some rollback⟩) => do
        let prior ← Py.ofExcept (firstStepResult executionResult steps)
        Py.modify fun s => s.log (.executorRollback t name prior)
        let result ← outside (rollback cr.desiredOutcome prior connector)
        pure (markNoOp result)
      | _ => pure (.obj [("rolled_back",.bool false),
          ("reason",.str "no_rollback_function_found")]))
    fun e => pure (.obj [("rolled_back",.bool false),("reason",.str e.str)])

def warnedStatus (result : Json) : ChangeRequestStatus :=
  if result.flag "has_warnings" then .rolledBackWithWarnings else .rolledBack

/-- The end of a rollback whose result carries `has_warnings`. -/
def endWarned (rollback : Py (World ω) Json) : Py (World ω) Json := do
  let result ← rollback
  Py.modify fun w => w.setStatus (warnedStatus result)
  pure result

def declaresRollback (step : PlanStep) : Bool :=
  ((truthyText step.rollbackAction).or (truthyText step.rollbackActionId)).isSome

/-- The undo of a plan that declares rollback actions, else of the executor module. -/
def undoPlan (env : Env ω) (executionResult : Json) : Py (World ω) Json := do
  let w ← Py.get
  if w.cr.steps.any declaresRollback then activityExecuteRollback env w.cr.steps executionResult
  else onSite (executorFallback env w.cr w.connectors executionResult)

/-- The rollback of a change without an executor of its own. -/
def rollbackPlan (env : Env ω) (executionResult : Json) : Py (World ω) Json := do
  let result ← undoPlan env executionResult
  let status ← Py.ofExcept (rollbackOutcome result)
  Py.modify fun w => w.setStatus status
  pure result

def executeCrRollback (env : Env ω) (extra : Dict) : Py (World ω) Json := do
  let w ← Py.get
  let executionResult := Dict.merge (w.runResult (loadedRun w.runs)) extra
  match w.cr.changeType with
  | .credentialRotation => endWarned (executeFiloRollback env (.obj executionResult))
  | .certificateRotation =>
    endWarned (executeCertificateRollback env
      (executionResult.getD "execution" (.obj executionResult)))
  | .k8sClusterUpgrade => endWarned (executeK8sClusterUpgradeRollback env (.obj executionResult))
  | .credentialRotationFanout => endWarned (executeFanoutRollback env (.obj executionResult))
  | _ => rollbackPlan env (.obj executionResult)

end Nexplane
