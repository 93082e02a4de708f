import Nexplane.StepLoop

set_option autoImplicit false

/-! The generic rollback: the planned steps in reverse, each undone with what the stored result
of the execution says about it. -/

namespace Nexplane
open PyValue

variable {ω : Type}

/-- The step records of a stored result, nested under `execution` or at its top. -/
def storedSteps (executionResult : Json) : Except Exc (List Json) := do
  let execution ← executionResult.get "execution" (.obj [])
  let nested ← execution.get "steps" .null
  let direct ← executionResult.get "steps" .null
  (nested.orElse (direct.orElse (.arr []))).iter

/-- `step_result_by_number`, in the order of its assignments. -/
def stepResultByNumber (executionResult : Json) : Except Exc (List (Json × Json)) := do
  let steps ← storedSteps executionResult
  steps.mapM fun record => do
    let result ← record.get "result" (.obj [])
    let number ← record.index "step_number"
    match number with
    | .arr _ => .error .typeError
    | .obj _ => .error .typeError
    | _ => .ok (number,result)

def priorResult (results : List (Json × Json)) (stepNumber : Int) : Json :=
  ((results.reverse.find? fun kv => Json.eq kv.1 (.int stepNumber)).map Prod.snd).getD (.obj [])

/-- The rollback action and the rollback connector type of a step that declares both. -/
def declaredUndo (step : PlanStep) : Option (String × String) := do
  let action ← (truthyText step.rollbackAction).or (truthyText step.rollbackActionId)
  let connectorType ← truthyText step.rollbackConnectorType
  pure (action,connectorType)

/-- The undos a plan asks for, in the order in which they are done. -/
def plannedUndos (steps : List PlanStep) : List (PlanStep × String × String) :=
  steps.reverse.filterMap fun step => (declaredUndo step).map fun undo => (step,undo)

def undoConnector (env : Env ω) (cr : ChangeRequest) (connectors : List Connector)
    (step : PlanStep) (rollbackConnector : String) : Except Exc (Option Connector) := do
  let locked ← lockedConnector env connectors step.connectorId
  pure (locked.or (fallbackConnector env connectors cr.organizationId rollbackConnector))

/-- The step's own result, with what the rollback adds to it. -/
def undoParameters (cr : ChangeRequest) (step : PlanStep) (prior : Dict) : Dict :=
  (((prior.set "confirm_terminate" (.bool true)).set "cr_id" (.str cr.id)).set "step_id"
    (.str ("step_" ++ toString step.stepNumber))).setDefault "org_id" (.str cr.organizationId)

/-- The rollback function of the rollback action's module where it has one, else the rollback
action itself. -/
def invokeUndo (env : Env ω) (rollbackConnector rollbackAction : String) (parameters prior : Dict)
    (connector : Option Connector) : Py (Site ω) Json :=
  match env.getExecutor rollbackConnector rollbackAction with
  | .ok ⟨_,some rollback⟩ => outside (rollback parameters (.obj prior) connector)
  | _ => executeAction env rollbackConnector rollbackAction parameters
      (Dict.getD prior "_asset_ids" .null).strings connector

/-- `asset_metadata["instance_id"].as_string() == instance_id`. -/
def Asset.hasInstance (instanceId : Json) (asset : Asset) : Bool :=
  match asset.metadata with
  | .obj d => Json.eq (Dict.getD d "instance_id" .null) instanceId
  | _ => false

def Site.removeInstance (s : Site ω) (organizationId : Uuid) (instanceId : Json) : Site ω :=
  { s with assets := s.assets.filter fun asset =>
      !(asset.organizationId = organizationId && asset.hasInstance instanceId) }

/-- Terminating an instance removes its inventory entry, and commits. -/
def removeTerminated (rollbackAction : String) (parameters prior : Dict)
    (connector : Option Connector) : Py (Site ω) Unit :=
  let instanceId := (prior.getD "instance_id" .null).orElse (parameters.getD "instance_id" .null)
  match connector with
  | some c =>
    if rollbackAction = "terminate_instance" ∧ instanceId.truthy = true then
      Py.modify fun s => (s.removeInstance c.organizationId instanceId).commit
    else pure ()
  | none => pure ()

structure UndoRecord where
  stepNumber : Int
  rollbackAction : String
  result : Json
  deriving Repr

def UndoRecord.toJson (r : UndoRecord) : Json :=
  .obj [("step_number",.int r.stepNumber),("rollback_action",.str r.rollbackAction),
    ("result",r.result)]

/-- The part of an undo whose exceptions become its result. -/
def tryUndo (env : Env ω) (step : PlanStep) (rollbackConnector rollbackAction : String)
    (parameters prior : Dict) (connector : Option Connector) : Py (Site ω) Json := do
  if prior.truthy "_auto_asset_id" then deleteAutoAsset (prior.getD "_auto_asset_id" .null)
  else pure ()
  Py.modify fun s => s.log (.undo step (.obj prior))
  let result ← invokeUndo env rollbackConnector rollbackAction parameters prior connector
  removeTerminated rollbackAction parameters prior connector
  pure result

def undoFailure (e : Exc) : Json := .obj [("rolled_back",.bool false),("error",.str e.str)]

def undoStep (env : Env ω) (cr : ChangeRequest) (connectors : List Connector)
    (results : List (Json × Json)) (undo : PlanStep × String × String) :
    Py (Site ω) UndoRecord := do
  let step := undo.1
  let connector ← Py.ofExcept (undoConnector env cr connectors step undo.2.2)
  let rollbackConnector := actualType undo.2.2 connector
  let prior ← Py.ofExcept (priorResult results step.stepNumber).mapping
  let result ← Py.tryExcept
    (tryUndo env step rollbackConnector undo.2.1 (undoParameters cr step prior) prior connector)
    fun e => pure (undoFailure e)
  pure ⟨step.stepNumber,undo.2.1,result⟩

/-- `activity_execute_rollback` of a change with plan steps. -/
def undoSteps (env : Env ω) (cr : ChangeRequest) (connectors : List Connector)
    (results : List (Json × Json)) (steps : List PlanStep) : Py (Site ω) (List UndoRecord) :=
  session (Py.each (undoStep env cr connectors results) (plannedUndos steps))

end Nexplane
