import Nexplane.ConnectorService

set_option autoImplicit false

/-! The generic step loop of a change: each planned step in turn, with the results of earlier
steps carried into the parameters of later ones. -/

namespace Nexplane
open PyValue

variable {ω : Type}

/-- A text that a condition takes as true. -/
def truthyText (text : Option String) : Option String := text.filter (· ≠ "")

/-- The connector that a plan step is locked to, by its identifier. -/
def lockedConnector (env : Env ω) (connectors : List Connector) (connectorId : Option String) :
    Except Exc (Option Connector) :=
  match truthyText connectorId with
  | none => .ok none
  | some text => do
    let id ← parseUuid text
    (connectors.find? fun c => c.id = id).mapM (attachCredentials env)

/-- A connector of the step's type that is linked to the first target asset. -/
def assetScopedConnector (env : Env ω) (connectors : List Connector)
    (links : List (Uuid × Uuid)) (organizationId : Uuid) (connectorType : Option String)
    (assetIds : List Uuid) : Option Connector := do
  let connectorType ← truthyText connectorType
  let assetId ← assetIds.head?
  guard (env.isConnectorType connectorType)
  let asset ← (parseUuid assetId).toOption
  let connector ← connectors.find? fun c =>
    (asset,c.id) ∈ links && c.connectorType = connectorType && c.organizationId = organizationId
  (attachCredentials env connector).toOption

/-- The newest connector of a type in the organization. It is kept, without credentials, when
these cannot be read. -/
def fallbackConnector (env : Env ω) (connectors : List Connector) (organizationId : Uuid)
    (connectorType : String) : Option Connector := do
  guard (connectorType ≠ "" ∧ connectorType ≠ "unknown" ∧ env.isConnectorType connectorType)
  let connector ← connectors.reverse.find? fun c =>
    c.organizationId = organizationId && c.connectorType = connectorType
  match attachCredentials env connector with
  | .ok attached => some attached
  | .error _ => some connector

def stepConnector (env : Env ω) (cr : ChangeRequest) (connectors : List Connector)
    (links : List (Uuid × Uuid)) (step : PlanStep) : Except Exc (Option Connector) := do
  let locked ← lockedConnector env connectors step.connectorId
  pure ((locked.or (assetScopedConnector env connectors links cr.organizationId
    step.connectorType cr.targetAssetIds)).or
      (fallbackConnector env connectors cr.organizationId (step.connectorType.getD "")))

/-- The plan's parameters, filled up with carried values where the plan has none. -/
def stepParameters (cr : ChangeRequest) (carried : Dict) (step : PlanStep) : Dict :=
  let plan := step.parameters.getD []
  let merged := Dict.merge plan (carried.filter fun kv => !Dict.truthy plan kv.1)
  ((merged.setDefault "cr_id" (.str cr.id)).setDefault "step_id"
    (.str ("step_" ++ toString step.stepNumber))).setDefault "org_id" (.str cr.organizationId)

/-- The connector type stored in the plan, or that of the connector found when the plan has
none. -/
def actualType (connectorType : String) (connector : Option Connector) : String :=
  match connector with
  | some c => if connectorType = "" ∨ connectorType = "unknown" then c.connectorType else connectorType
  | none => connectorType

/-- One entry of the `steps` that a change's result records. -/
structure StepRecord where
  stepNumber : Int
  genericAction : Option String
  actionId : String
  connectorType : String
  connectorId : Option String
  result : Json
  deriving Repr

def textOrNull : Option String → Json
  | some text => .str text
  | none => .null

def StepRecord.toJson (r : StepRecord) : Json :=
  .obj [("step_number",.int r.stepNumber),("generic_action",textOrNull r.genericAction),
    ("action_id",.str r.actionId),("connector_type",.str r.connectorType),
    ("connector_id",textOrNull r.connectorId),("result",r.result)]

/-- `isinstance(v, (str, int, float, bool, list))`. -/
def isCarriedValue : Json → Bool
  | .str _ => true
  | .int _ => true
  | .float _ => true
  | .bool _ => true
  | .arr _ => true
  | _ => false

/-- `carried_context` after a step. -/
def carry (carried : Dict) (result : Json) : Dict :=
  match result with
  | .obj d =>
    if (Dict.get? d "error").isSome then carried
    else Dict.merge carried (d.filter fun kv =>
      kv.1 ≠ "action" && kv.1 ≠ "_auto_asset" && isCarriedValue kv.2)
  | _ => carried

/-- The loop stops early after a domain controller upgrade that reports its end. -/
def stopsLoop (r : StepRecord) : Bool :=
  match r.result with
  | .obj d =>
    r.actionId = "ad_dc_parallel_upgrade" &&
      ((Dict.getD d "status" .null).isStr "completed" ||
        (Dict.getD d "status" .null).isStr "completed_no_demotion")
  | _ => false

def runStep (env : Env ω) (cr : ChangeRequest) (connectors : List Connector) (carried : Dict)
    (step : PlanStep) : Py (Site ω) StepRecord := do
  let site ← Py.get
  let connector ← Py.ofExcept (stepConnector env cr connectors site.assetConnectors step)
  let connectorType := actualType (step.connectorType.getD "") connector
  let result ← executeAction env connectorType (step.actionId.getD "")
    (stepParameters cr carried step) cr.targetAssetIds
    (connector.map fun c => { c with currentCrId := some cr.id })
  Py.modify Site.commit
  pure ⟨step.stepNumber,step.genericAction,step.actionId.getD "",connectorType,
    (connector.map Connector.id).or step.connectorId,result⟩

def runSteps (env : Env ω) (cr : ChangeRequest) (connectors : List Connector) :
    Dict → List PlanStep → Py (Site ω) (List StepRecord)
  | _, [] => pure []
  | carried, step :: steps => do
    let r ← runStep env cr connectors carried step
    if stopsLoop r then pure [r]
    else do
      let rs ← runSteps env cr connectors (carry carried r.result) steps
      pure (r :: rs)

end Nexplane
