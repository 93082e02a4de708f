import Nexplane.RiskScore
import Nexplane.ConnectorService
import Mathlib.Data.List.Sort

set_option autoImplicit false

/-! Plan generation: each step of a change gets the option of the lowest execution tier that the
action catalog and the connectors of the targets offer. -/

namespace Nexplane
open PyValue

inductive PlanError where
  | blocked (blockingIssues : List String)
  | raised (exc : Exc)
  deriving DecidableEq, Repr

def raising {α : Type} : Except Exc α → Except PlanError α
  | .ok a => .ok a
  | .error e => .error (.raised e)

structure ActionOption where
  connectorType : String
  actionId : String
  actionDef : Dict
  executionTier : Int
  deriving Repr

/-- The attributes of an executor module that planning reads. -/
structure ExecutorFacts where
  hasExecute : Bool
  hasRollback : Bool
  rollbackCapability : Option String
  rollbackReason : Option String
  deriving Repr

structure Catalog where
  actions : String → List Dict
  genericIndex : String → List ActionOption
  getExecutor : String → String → Except Exc ExecutorFacts

def Catalog.getOptionsForAction (catalog : Catalog) (genericAction : String)
    (assetTypes : Option (List String)) : List ActionOption :=
  let options := catalog.genericIndex genericAction
  match assetTypes with
  | none => options
  | some types => options.filter fun o =>
      types.any (Dict.getD o.actionDef "applicable_asset_types" (.arr [])).strings.contains

def Catalog.getActionDef (catalog : Catalog) (connectorType actionId : Json) : Except Exc Dict :=
  let actions : Except Exc (List Dict) :=
    match connectorType with
    | .str t => .ok (catalog.actions t)
    | .arr _ => .error .typeError
    | .obj _ => .error .typeError
    | _ => .ok []
  do
    let found := (← actions).find? fun action => (Dict.getD action "action_id" .null).eq actionId
    match found with
    | some action => pure action
    | none => throw (.keyError ("Action '" ++ actionId.textOf ++ "' not found in connector '" ++
        connectorType.textOf ++ "'"))

/-- A target with the connectors attached to it. -/
structure TargetAsset where
  asset : Asset
  connectors : List Connector

/-- What the discovery at one identity connector has answered. -/
structure Discovery where
  connectorId : Uuid
  connectorType : String
  found : Json
  accountIdentifier : Json
  details : Json

/-- `parameters` are those that `_resolve_parameters` picks for an action, `changeTypeDef` the file
of a change type, and `discover` the accounts that the identity connectors find for an address. -/
structure Planner where
  catalog : Catalog
  changeTypeDef : String → Except Exc Dict
  parameters : String → Dict → Dict
  discover : Json → Uuid → List Discovery

/-- `text.title()`. -/
def titleChars (inWord : Bool) : List Char → List Char
  | [] => []
  | c :: cs => (if inWord then c.toLower else c.toUpper) :: titleChars c.isAlpha cs

/-- `text.replace("_", " ").title()`. -/
def titleOf (text : String) : String :=
  String.ofList (titleChars false (text.toList.map fun c => if c = '_' then ' ' else c))

def validateRollbackCapability (executor : ExecutorFacts) (connectorType actionId : String) :
    Except Exc (Option String) :=
  let name := "Executor " ++ connectorType ++ "." ++ actionId
  match executor.rollbackCapability with
  | none => .ok none
  | some capability =>
    if capability ≠ "full" ∧ capability ≠ "irreversible" then
      .error (.valueError (name ++ " declares ROLLBACK_CAPABILITY = '" ++ capability ++
        "' which is not a valid value. Valid values: 'full' or 'irreversible'. " ++
        "This is a code defect — fix the executor before this CR can be planned."))
    else if capability = "irreversible" then
      match executor.rollbackReason.filter (· ≠ "") with
      | none => .error (.valueError (name ++ " declares ROLLBACK_CAPABILITY = 'irreversible' " ++
          "but does not declare ROLLBACK_REASON. Both are required."))
      | some reason => .ok (some ("This step cannot be rolled back: " ++ reason))
    else .ok none

def validateExecutorContract (catalog : Catalog) (connectorType actionId : String) :
    Except PlanError (Option String) :=
  match catalog.getExecutor connectorType actionId with
  | .error (.importError exc) => .error (.blocked
      ["Executor module not found for " ++ connectorType ++ "." ++ actionId ++ ": " ++ exc])
  | .error e => .error (.raised e)
  | .ok executor =>
    if executor.hasExecute && executor.hasRollback then
      match validateRollbackCapability executor connectorType actionId with
      | .ok warning => .ok warning
      | .error e => .error (.blocked [e.str])
    else .error (.blocked ["Executor " ++ connectorType ++ "." ++ actionId ++
      " is missing required 'execute' and/or 'rollback' " ++
      "attributes — ExecutorProtocol contract violated"])

section Resolve

/-- The first connector of the type among those of the targets. -/
def connectorByType (assets : List TargetAsset) (connectorType : String) : Option Connector :=
  (assets.flatMap TargetAsset.connectors).find? fun c => c.connectorType = connectorType

/-- The options for a step, narrowed to the connectors at hand and the safest first. -/
def candidateOptions (catalog : Catalog) (genericAction : String) (desired : Dict)
    (assets : List TargetAsset) : List ActionOption :=
  let types := assets.map fun a => a.asset.assetType
  let options :=
    match catalog.getOptionsForAction genericAction (some types) with
    | [] => catalog.getOptionsForAction genericAction none
    | found => found
  let locked := Dict.getD desired "_locked_connector_type" .null
  let options :=
    if locked.truthy then options.filter fun o => locked.isStr o.connectorType
    else
      match options.filter fun o => (connectorByType assets o.connectorType).isSome with
      | [] => options
      | narrowed => narrowed
  options.insertionSort fun a b => a.executionTier ≤ b.executionTier

/-- The warning of a step; a module that is not there yet does not stop the planning. -/
def executorWarning (catalog : Catalog) (best : ActionOption) : Except Exc (Option String) :=
  match catalog.getExecutor best.connectorType best.actionId with
  | .error (.importError _) => .ok (some ("Executor module not found for " ++ best.connectorType ++
      "." ++ best.actionId ++ " — step cannot execute"))
  | .error e => .error e
  | .ok executor =>
    if executor.hasExecute && executor.hasRollback then
      validateRollbackCapability executor best.connectorType best.actionId
    else .error (.valueError ("Executor module for " ++ best.connectorType ++ "." ++
      best.actionId ++ " does not expose required 'execute' and 'rollback' attributes — " ++
      "ExecutorProtocol contract violated"))

def optionFields (o : ActionOption) : Json :=
  .obj [("connector_type",.str o.connectorType),("action_id",.str o.actionId),
    ("execution_tier",.int o.executionTier)]

variable (planner : Planner) (stepDef : Dict) (desired : Dict) (assets : List TargetAsset)

/-- `{**_resolve_parameters(…), **step_def.get("param_overrides", {})}`. -/
def resolvedParameters (genericAction : String) : Except Exc Json := do
  let overrides ← (Dict.getD stepDef "param_overrides" (.obj [])).mapping
  pure (.obj (Dict.merge (planner.parameters genericAction desired) overrides))

def resolveStep (stepNumber : Nat) : Except Exc Dict := do
  let genericAction ← Json.index (.obj stepDef) "generic_action" >>= asText
  match candidateOptions planner.catalog genericAction desired assets with
  | [] => do
    let parameters ← resolvedParameters planner stepDef desired genericAction
    pure [("step_number",.int stepNumber),("name",.str (titleOf genericAction)),
      ("description",.str ("No connector found for action '" ++ genericAction ++ "'")),
      ("generic_action",.str genericAction),("connector_type",.str "unknown"),
      ("action_id",.str genericAction),("execution_tier",.int 99),("connector_options",.arr []),
      ("parameters",parameters),("rollback_action",.null),("rollback_connector_type",.null),
      ("connector_id",.null),("estimated_duration_seconds",.int 30),("blast_radius_hint",.null)]
  | best :: others => do
    let warning ← executorWarning planner.catalog best
    let lockedId := Dict.getD desired "_locked_connector_id" .null
    let connectorId := if lockedId.truthy then lockedId
      else (connectorByType assets best.connectorType).elim .null fun c => .str c.id
    let rollbackAction := Dict.getD best.actionDef "rollback_action" .null
    let parameters ← resolvedParameters planner stepDef desired genericAction
    pure ([("step_number",.int stepNumber),
      ("name",Dict.getD best.actionDef "display_name" (.str (titleOf genericAction))),
      ("description",Dict.getD best.actionDef "description" (.str "")),
      ("generic_action",.str genericAction),("connector_type",.str best.connectorType),
      ("action_id",.str best.actionId),("execution_tier",.int best.executionTier),
      ("connector_options",.arr ((best :: others).map optionFields)),("parameters",parameters),
      ("rollback_action",rollbackAction),
      ("rollback_connector_type",
        if rollbackAction.truthy then .str best.connectorType else .null),
      ("connector_id",connectorId),
      ("estimated_duration_seconds",Dict.getD best.actionDef "estimated_duration_seconds" (.int 30)),
      ("blast_radius_hint",Dict.getD best.actionDef "blast_radius_hint" .null)] ++
      warning.elim [] fun text => [("rollback_warning",.str text)])

/-- The tier of the option that a step is given; 99 where there is none. -/
def chosenTier (catalog : Catalog) (genericAction : String) : Int :=
  ((candidateOptions catalog genericAction desired assets).head?.map
    ActionOption.executionTier).getD 99

theorem resolveStep_tier {stepNumber : Nat} {step : Dict}
    (h : resolveStep planner stepDef desired assets stepNumber = .ok step) :
    ∃ genericAction, Dict.get? stepDef "generic_action" = some (.str genericAction) ∧
      stepTier step = .ok (chosenTier desired assets planner.catalog genericAction) := by
  obtain ⟨genericAction,hget,h⟩ := Checks.bind_eq_ok.mp h
  obtain ⟨v,hv,htext⟩ := Checks.bind_eq_ok.mp hget
  refine ⟨genericAction,?_,?_⟩
  · cases hfound : Dict.get? stepDef "generic_action" with
    | none => simp [Json.index,hfound] at hv
    | some w =>
      obtain rfl : w = v := by simpa [Json.index,hfound] using hv
      cases w <;> simp [asText] at htext
      simp [htext]
  · rw [chosenTier]
    cases hoptions : candidateOptions planner.catalog genericAction desired assets with
    | nil =>
      rw [hoptions] at h
      obtain ⟨parameters,_,h⟩ := Checks.bind_eq_ok.mp h
      obtain rfl := Checks.pure_eq_ok.mp h
      rfl
    | cons best others =>
      rw [hoptions] at h
      obtain ⟨warning,_,h⟩ := Checks.bind_eq_ok.mp h
      obtain ⟨parameters,_,h⟩ := Checks.bind_eq_ok.mp h
      obtain rfl := Checks.pure_eq_ok.mp h
      rfl

end Resolve

structure ChangePlanData where
  generatedSteps : List Dict
  preflightChecks : List Dict
  blastRadius : Dict
  rollbackPlan : Dict
  verificationPlan : Dict
  deriving Repr

def calculateBlastRadius (assets : List TargetAsset) (safety : SafetyReviewResult)
    (steps : List Dict) : Dict :=
  let irreversible := steps.any fun s => (Dict.getD s "rollback_warning" .null).truthy
  let affected := assets.map fun a => Json.obj [("id",.str a.asset.id),("name",.str a.asset.name),
    ("type",.str a.asset.assetType),("env",.str a.asset.environment),
    ("criticality",.str a.asset.criticality)]
  [("affected_assets",.arr affected),
    ("affected_environments",
      .arr ((assets.map fun a => a.asset.environment).eraseDups.map Json.str)),
    ("estimated_impact",.str ("Risk level: " ++ safety.riskLevel.value ++ ". Score: " ++
      toString safety.riskScore ++ ".")),
    ("affected_services",.arr []),("recovery_time_estimate",.str "5-30 minutes"),
    ("rollback_available",.bool (!irreversible && safety.riskLevel ≠ .critical))]

def rollbackStrategies : List (String × String × Bool) :=
  [("dns_update","restore_previous_record",true),("snapshot_asset","rollback_unavailable",false),
    ("security_group_update","restore_rule_snapshot",true),
    ("key_rotation","cancel_revocation",true),("telemetry_agent_deploy","uninstall_agent",true),
    ("remote_command","manual",false),("microsegmentation_policy","remove_staged_policy",true),
    ("ec2_stop","start_instance",true),("ec2_start","stop_instance",true),
    ("ec2_reboot","none",false),("ec2_stop_start","stop_if_running",true),
    ("ec2_launch","terminate_instance",true),("ec2_terminate","manual",false)]

def generateRollbackPlan (changeType : ChangeType) : Dict :=
  let (strategy,automatic) := (rollbackStrategies.lookup changeType.value).getD ("manual",false)
  [("strategy",.str strategy),("description",.str ("Rollback via " ++ strategy)),
    ("estimated_duration_seconds",.int 30),("automatic",.bool automatic)]

def generatePreflightChecks (changeDef : Dict) : List Dict :=
  (Dict.getD changeDef "preflight_checks" (.arr [])).strings.map fun name =>
    [("name",.str name),("description",.str (titleOf name)),("check_type",.str "standard"),
      ("expected_result",.str "pass")]

def generateVerificationPlan (changeDef : Dict) : Dict :=
  let methods := (Dict.getD changeDef "verification_methods" (.arr [.str "api_check"])).strings
  [("checks",.arr (methods.map fun m => .obj [("name",.str m),
      ("description",.str ("Verify via " ++ m)),("method",.str m)])),
    ("success_criteria",.str "All verification checks must pass")]

section Validation

variable (desired : Dict)

def isList : Json → Bool
  | .arr _ => true
  | _ => false

/-- `_validate_credential_rotation_fanout_fields`. -/
def validateFanoutFields : Except Exc Unit := do
  let searchTerms := Dict.getD desired "search_terms" .null
  if !(searchTerms.truthy && isList searchTerms) then
    throw (.valueError "desired_outcome.search_terms must be a non-empty list")
  let scanScope := Dict.getD desired "scan_scope" .null
  if !(scanScope.truthy && isList scanScope) then
    throw (.valueError "desired_outcome.scan_scope must be a non-empty list")
  for scope in ← scanScope.iter do
    match scope with
    | .str s =>
      if s ∉ ["aws","kubernetes","nexplane_agent"] then
        throw (.valueError ("Invalid scan_scope entry: '" ++ s ++
          "'. Must be one of ['aws', 'kubernetes', 'nexplane_agent']"))
    | _ => throw .typeError
  if !(Dict.getD desired "rotate" .null).truthy && !(Dict.getD desired "new_value" .null).truthy then
    throw (.valueError "desired_outcome.new_value is required when rotate is not specified")

/-- `_validate_certificate_rotation_fields`. -/
def certificateFieldErrors : List String :=
  let reason := Dict.getD desired "trigger_reason" (.str "")
  (if (Dict.getD desired "subject" .null).truthy then []
    else ["certificate_rotation requires 'subject'"]) ++
  (if reason.isStr "scheduled" || reason.isStr "compromise" then []
    else ["trigger_reason must be 'scheduled' or 'compromise'"]) ++
  if (Dict.getD desired "scan_scope" .null).truthy then []
    else ["scan_scope must be a non-empty list"]

end Validation

/-- The definition of a catalog action, or the refusal of an unknown one. -/
def knownAction (catalog : Catalog) (connectorType actionId : Json) (message : String) :
    Except PlanError Dict :=
  match catalog.getActionDef connectorType actionId with
  | .error (.keyError _) =>
    .error (.blocked [message ++ connectorType.textOf ++ "." ++ actionId.textOf])
  | .error e => .error (.raised e)
  | .ok actionDef => .ok actionDef

/-- One step of a catalog action or workflow. -/
def catalogStep (stepNumber : Nat) (connectorType actionId parameters : Json) (actionDef : Dict) :
    Dict :=
  [("step_number",.int stepNumber),("connector_type",connectorType),("action_id",actionId),
    ("parameters",parameters),("purpose",.str "execute"),
    ("options",.arr [.obj [("connector_type",connectorType),("action_id",actionId),
      ("execution_tier",.int 0)]]),
    ("rollback_connector_type",Dict.getD actionDef "rollback_connector_type" .null),
    ("rollback_action_id",Dict.getD actionDef "rollback_action" .null)]

def withWarning (step : Dict) (warning : Option String) : Dict :=
  match warning.filter (· ≠ "") with
  | some text => step.set "rollback_warning" (.str text)
  | none => step

/-- `spec.get(key, default)` of an entry of `desired["steps"]`. -/
def specField (spec : Json) (key : String) (default : Json) : Except PlanError Json :=
  raising (spec.get key default)

/-- The steps that a workflow or a rotation asks for. -/
def specSteps (desired : Dict) (kind : String) : Except PlanError (List Json) :=
  let steps := Dict.getD desired "steps" (.arr [])
  if steps.truthy then raising steps.iter
  else .error (.blocked [kind ++ " requires at least one step"])

section Generate

variable (planner : Planner) (cr : ChangeRequest) (assets : List TargetAsset)
  (safety : SafetyReviewResult)

/-- The plan of the change types that need no more than their steps. -/
def planOf (steps : List Dict) : ChangePlanData :=
  ⟨steps,[],calculateBlastRadius assets safety steps,[],[]⟩

def planCatalogAction : Except PlanError ChangePlanData := do
  let desired := cr.desiredOutcome
  let connectorType := Dict.getD desired "connector_type" (.str "")
  let actionId := Dict.getD desired "action_id" (.str "")
  let parameters := (Dict.getD desired "params" (.obj [])).orElse (.obj [])
  let actionDef ← knownAction planner.catalog connectorType actionId "Unknown catalog action: "
  let warning ← validateExecutorContract planner.catalog connectorType.textOf actionId.textOf
  let step := withWarning (catalogStep 1 connectorType actionId parameters actionDef) warning
  pure (planOf assets safety [step])

def workflowStep (stepNumber : Nat) (spec : Json) : Except PlanError Dict := do
  let connectorType ← specField spec "connector_type" (.str "")
  let actionId ← specField spec "action_id" (.str "")
  let actionDef ← knownAction planner.catalog connectorType actionId
    ("Unknown catalog action at step " ++ toString stepNumber ++ ": ")
  let parameters ← specField spec "params" (.obj [])
  pure (catalogStep stepNumber connectorType actionId parameters actionDef)

/-- The warning of a step that names a connector type and an action. -/
def workflowWarning (step : Dict) : Except PlanError Dict := do
  let connectorType := Dict.getD step "connector_type" (.str "")
  let actionId := Dict.getD step "action_id" (.str "")
  if connectorType.truthy && actionId.truthy then do
    let warning ← validateExecutorContract planner.catalog connectorType.textOf actionId.textOf
    pure (withWarning step warning)
  else pure step

def planCatalogWorkflow : Except PlanError ChangePlanData := do
  let specs ← specSteps cr.desiredOutcome "catalog_workflow"
  let steps ← specs.zipIdx.mapM fun spec => workflowStep planner (spec.2 + 1) spec.1
  let steps ← steps.mapM (workflowWarning planner)
  pure (planOf assets safety steps)

def planCredentialRotation : Except PlanError ChangePlanData := do
  let specs ← specSteps cr.desiredOutcome "credential_rotation"
  let _ ← specs.zipIdx.mapM fun spec => do
    let connectorType ← specField spec.1 "connector_type" (.str "")
    let actionId ← specField spec.1 "action_id" (.str "")
    knownAction planner.catalog connectorType actionId
      ("Unknown catalog action at step " ++ toString (spec.2 + 1) ++ ": ")
  pure (planOf assets safety [])

def planCertificateRotation : Except PlanError ChangePlanData :=
  match certificateFieldErrors cr.desiredOutcome with
  | [] => .ok { planOf assets safety [] with preflightChecks := [
      [("name",.str "step_ca_connector_required"),
        ("description",.str "A step_ca connector must be configured for this organization"),
        ("check_type",.str "connector_exists"),("connector_type",.str "step_ca"),
        ("expected_result",.str "pass")]] }
  | errors => .error (.blocked errors)

def planCredentialFanout : Except PlanError ChangePlanData :=
  match validateFanoutFields cr.desiredOutcome with
  | .error (.valueError message) => .error (.blocked [message])
  | .error e => .error (.raised e)
  | .ok () => .ok { planOf assets safety [] with generatedSteps := [
      [("step_number",.int 1),("connector_type",.str "internal"),
        ("action_id",.str "credential_rotation_fanout"),("parameters",.obj cr.desiredOutcome),
        ("purpose",.str "orchestrate")]] }

/-- The plan of a cluster upgrade; the summary that it shows to the approvers is left out. -/
def planK8sClusterUpgrade : Except PlanError ChangePlanData :=
  let desired := cr.desiredOutcome
  let strategy := Dict.getD desired "node_pool_strategy" (.str "rolling")
  if !(Dict.getD desired "target_version" (.str "")).truthy then
    .error (.blocked ["k8s_cluster_upgrade requires 'target_version' in desired_outcome"])
  else if !(strategy.isStr "rolling" || strategy.isStr "blue_green") then
    .error (.blocked ["node_pool_strategy must be 'rolling' or 'blue_green', got: '" ++
      strategy.textOf ++ "'"])
  else .ok { planOf assets safety [] with
    preflightChecks := [
      [("name",.str "k8s_cluster_reachable"),
        ("description",
          .str "Kubernetes cluster must be reachable via the attached connector"),
        ("check_type",.str "connector_reachable"),("expected_result",.str "pass")]]
    rollbackPlan := [("rollback_capability",.str "partial"),
      ("note",.str "Node pools reversible; control plane irreversible")]
    verificationPlan := [("phase",.str "verify"),
      ("checks",.arr [.str "node_versions",.str "system_pods",.str "workload_health"])] }

/-- The steps of a change type that has a definition. -/
def resolveSteps (changeDef : Dict) : Except Exc (List Dict) := do
  let stepDefs ← Json.index (.obj changeDef) "steps" >>= Json.iter
  stepDefs.zipIdx.mapM fun stepDef => do
    resolveStep planner (← stepDef.1.mapping) cr.desiredOutcome assets (stepDef.2 + 1)

def planDefinedSteps : Except Exc ChangePlanData := do
  let changeDef ← planner.changeTypeDef cr.changeType.value
  let steps ← resolveSteps planner cr assets changeDef
  pure {
    generatedSteps := steps
    preflightChecks := generatePreflightChecks changeDef
    blastRadius := calculateBlastRadius assets safety steps
    rollbackPlan := generateRollbackPlan cr.changeType
    verificationPlan := generateVerificationPlan changeDef }

def generatePlan : Except PlanError ChangePlanData :=
  match cr.changeType with
  | .generic "catalog_action" => planCatalogAction planner cr assets safety
  | .generic "catalog_workflow" => planCatalogWorkflow planner cr assets safety
  | .credentialRotation => planCredentialRotation planner cr assets safety
  | .certificateRotation => planCertificateRotation cr assets safety
  | .credentialRotationFanout => planCredentialFanout cr assets safety
  | .k8sClusterUpgrade => planK8sClusterUpgrade cr assets safety
  | _ => raising (planDefinedSteps planner cr assets safety)

end Generate

end Nexplane
