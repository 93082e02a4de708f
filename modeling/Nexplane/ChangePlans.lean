import Nexplane.PlanningEngine

set_option autoImplicit false

/-! Planning a change request: its score, its plan and the risk level that is recorded. -/

namespace Nexplane
open PyValue

/-! The plan of an offboarding, from the accounts that were discovered. -/
namespace Offboard

def sessionRevokeTypes : List String := ["okta","entra_id","google_workspace"]

def accountDisableTypes : List String := ["active_directory","okta","entra_id","google_workspace"]

def removalTypes : List String := ["github","slack"]

def verifyTypes : List String :=
  ["active_directory","okta","entra_id","google_workspace","github","slack","crowdstrike"]

section Plan

variable (payload : Dict) (targetEmail : Json)

def revokeStep (c : Discovery) : Dict :=
  [("name",.str ("Revoke " ++ c.connectorType ++ " sessions")),
    ("action_id",.str ("revoke_" ++ c.connectorType ++ "_sessions")),
    ("connector_type",.str c.connectorType),("connector_id",.str c.connectorId),
    ("parameters",.obj [("target_email",targetEmail),("asset_id",.null)]),("phase",.int 1),
    ("rollback_action_id",.null),("status",.str "pending")]

def disableStep (c : Discovery) : Dict :=
  [("name",.str ("Disable " ++ c.connectorType ++ " account")),
    ("action_id",.str ("disable_" ++ c.connectorType ++ "_account")),
    ("connector_type",.str c.connectorType),("connector_id",.str c.connectorId),
    ("parameters",.obj [("target_email",targetEmail),("asset_id",.null)]),("phase",.int 2),
    ("rollback_action_id",.str ("enable_" ++ c.connectorType ++ "_account")),
    ("rollback_connector_type",.str c.connectorType),("status",.str "pending")]

def removeStep (c : Discovery) : Dict :=
  [("name",.str ("Remove from " ++ c.connectorType)),
    ("action_id",.str ("remove_" ++ c.connectorType ++ "_member")),
    ("connector_type",.str c.connectorType),("connector_id",.str c.connectorId),
    ("parameters",.obj [("target_email",targetEmail),("asset_id",.null)]),("phase",.int 3),
    ("rollback_action_id",.str ("reinstate_" ++ c.connectorType ++ "_member")),
    ("rollback_connector_type",.str c.connectorType),("status",.str "pending")]

def isolateStep (c : Discovery) : Dict :=
  [("name",.str "Isolate CrowdStrike-managed endpoints"),
    ("action_id",.str "isolate_crowdstrike_endpoints"),("connector_type",.str "crowdstrike"),
    ("connector_id",.str c.connectorId),("parameters",.obj [("target_email",targetEmail)]),
    ("phase",.int 4),("rollback_action_id",.str "lift_crowdstrike_isolation"),
    ("rollback_connector_type",.str "crowdstrike"),("status",.str "pending")]

def verifyStep (c : Discovery) : Dict :=
  [("name",.str ("Verify " ++ c.connectorType ++ " account disabled")),
    ("action_id",.str ("verify_" ++ c.connectorType ++ "_disabled")),
    ("connector_type",.str c.connectorType),("connector_id",.str c.connectorId),
    ("parameters",.obj [("target_email",targetEmail),("connector_type",.str c.connectorType),
      ("account_identifier",c.accountIdentifier)]),("phase",.int 5),
    ("rollback_action_id",.null),("status",.str "pending")]

def reportStep : Dict :=
  [("name",.str "Generate offboarding report"),("action_id",.str "generate_offboarding_report"),
    ("connector_type",.str "offboard_user"),("connector_id",.null),
    ("parameters",.obj [("target_email",targetEmail),("reason",Dict.getD payload "reason" .null),
      ("notify_manager",Dict.getD payload "notify_manager" (.bool true)),
      ("manager_email",Dict.getD payload "manager_email" .null),
      ("discovery_manifest",Dict.getD payload "_discovery_manifest" (.arr []))]),
    ("phase",.int 6),("rollback_action_id",.null),("status",.str "pending")]

/-- The connectors to verify, each once. -/
def toVerify (seen : List Uuid) : List Discovery → List Discovery
  | [] => []
  | c :: cs =>
    if c.connectorId ∈ seen ∨ c.connectorType ∉ verifyTypes then toVerify seen cs
    else c :: toVerify (c.connectorId :: seen) cs

def buildPlan (connectors : List Discovery) : List Dict :=
  let ofTypes := fun types => connectors.filter fun c => c.connectorType ∈ types
  let disabled := ofTypes accountDisableTypes
  let removed := ofTypes removalTypes
  let isolated := if (Dict.getD payload "isolate_endpoints" .null).truthy then
    ofTypes ["crowdstrike"] else []
  let steps := (ofTypes sessionRevokeTypes).map (revokeStep targetEmail) ++
    disabled.map (disableStep targetEmail) ++ removed.map (removeStep targetEmail) ++
    isolated.map (isolateStep targetEmail) ++
    (toVerify [] (disabled ++ removed ++ isolated)).map (verifyStep targetEmail) ++
    [reportStep payload targetEmail]
  steps.zipIdx.map fun step => step.1 ++ [("step_number",.int (step.2 + 1))]

theorem buildPlan_untiered (connectors : List Discovery) :
    ∀ step ∈ buildPlan payload targetEmail connectors, stepTier step = .ok 1 := by
  intro step hstep
  obtain ⟨⟨fields,n⟩,hfields,rfl⟩ := List.mem_map.mp hstep
  have hmem := List.fst_mem_of_mem_zipIdx hfields
  simp only [List.mem_append,List.mem_map,List.mem_singleton] at hmem
  rcases hmem with ((((⟨c,_,rfl⟩ | ⟨c,_,rfl⟩) | ⟨c,_,rfl⟩) | ⟨c,_,rfl⟩) | ⟨c,_,rfl⟩) | rfl <;> rfl

end Plan

end Offboard

def Discovery.toJson (d : Discovery) : Json :=
  .obj [("connector_id",.str d.connectorId),("connector_type",.str d.connectorType),
    ("found",d.found),("account_identifier",d.accountIdentifier),("details",d.details)]

/-- A planned change request: its row, its plan and what `plan_cr` returns beside them. -/
structure PlannedChange where
  cr : ChangeRequest
  plan : ChangePlanData
  riskLevel : RiskLevel
  riskScore : Nat
  riskFactors : List String
  warnings : List String

namespace Planner

variable (planner : Planner) (inventory : List TargetAsset) (cr : ChangeRequest)

/-- The assets that a change names. -/
def targets : Except Exc (List TargetAsset) := do
  let ids ← (cr.targetAssetIds.filter (· ≠ "None")).mapM parseUuid
  pure (inventory.filter fun a => a.asset.id ∈ ids)

def planOffboarding (assets : List TargetAsset) (safety : SafetyReviewResult) :
    Except PlanError ChangePlanData :=
  let targetEmail := Dict.getD cr.desiredOutcome "target_email" .null
  let manifest := planner.discover targetEmail cr.organizationId
  let discovered := manifest.filter fun d => d.found.truthy
  if !targetEmail.truthy then
    .error (.blocked ["offboard_user requires 'target_email' in desired_outcome"])
  else if discovered.isEmpty then
    .error (.blocked ["No accounts found for " ++ targetEmail.textOf ++ " across " ++
      toString manifest.length ++ " connected system(s). " ++
      "Ensure identity connectors are configured and credentials are valid."])
  else
    let payload :=
      cr.desiredOutcome.set "_discovery_manifest" (.arr (manifest.map Discovery.toJson))
    .ok { planOf assets safety (Offboard.buildPlan payload targetEmail discovered) with
      rollbackPlan := [("rollback_capability",.str "full"),
        ("filo_order",.str "phases 4→3→2→1; phases 5 and 6 have no rollback")]
      verificationPlan := [("phase",.int 5),
        ("checks",.arr [.obj [("name",.str "account_disabled_per_connector"),
          ("description",
            .str "Verify account is disabled across all connected identity systems")]])] }

def planData (assets : List TargetAsset) (safety : SafetyReviewResult) :
    Except PlanError ChangePlanData :=
  if cr.changeType = .generic "offboard_user" then planner.planOffboarding cr assets safety
  else generatePlan planner cr assets safety

/-- `plan_cr`. The stored plan is replaced or created. -/
def planCr : Except PlanError PlannedChange := do
  let assets ← raising (targets inventory cr)
  let safety ← raising (scoreChangeRequest cr (assets.map TargetAsset.asset))
  if safety.isBlocked then .error (.blocked safety.blockingIssues)
  else do
    let plan ← planner.planData cr assets safety
    pure {
      cr := { cr with riskLevel := some safety.riskLevel, status := .planned }
      plan := plan
      riskLevel := safety.riskLevel
      riskScore := safety.riskScore
      riskFactors := safety.riskFactors.map RiskFactor.name
      warnings := safety.warnings }

end Planner

/-- The recorded level is the one that `adjust_for_execution_plan` gives the score and the plan. -/
def PlannedChange.PricedByTier (planned : PlannedChange) (score : SafetyReviewResult) : Prop :=
  ∃ adjusted, adjustForExecutionPlan score planned.plan.generatedSteps = .ok adjusted ∧
    planned.cr.riskLevel = some adjusted.riskLevel

/-- The change types that are planned step by step from their definition. -/
def ChangeType.isDefined (changeType : ChangeType) : Bool :=
  !([.generic "offboard_user",.generic "catalog_action",.generic "catalog_workflow",
    .credentialRotation,.certificateRotation,.credentialRotationFanout,
    .k8sClusterUpgrade].contains changeType)

/-- The safest option for some step of the change is raw remote execution, or there is none. -/
def Planner.UsesRawExecution (planner : Planner) (cr : ChangeRequest)
    (assets : List TargetAsset) : Prop :=
  cr.changeType.isDefined = true ∧ ∃ changeDef stepDefs stepDef genericAction,
    planner.changeTypeDef cr.changeType.value = .ok changeDef ∧
    (Json.index (.obj changeDef) "steps" >>= Json.iter) = .ok stepDefs ∧
    .obj stepDef ∈ stepDefs ∧
    Dict.get? stepDef "generic_action" = some (.str genericAction) ∧
    5 ≤ chosenTier cr.desiredOutcome assets planner.catalog genericAction

section Tiers

variable {planner : Planner} {inventory : List TargetAsset} {cr : ChangeRequest}
  {planned : PlannedChange} {assets : List TargetAsset} {safety score : SafetyReviewResult}
  {plan : ChangePlanData} {steps : List Dict} {tiers : List Int}

@[simp] theorem raising_eq_ok {α : Type} {x : Except Exc α} {a : α} :
    raising x = .ok a ↔ x = .ok a := by
  cases x <;> simp [raising]

theorem adjust_level (hscore : score.riskLevel = scoreToLevel score.riskScore)
    (htiers : steps.mapM stepTier = .ok tiers) :
    ∃ adjusted, adjustForExecutionPlan score steps = .ok adjusted ∧ adjusted.riskLevel =
      if 5 ≤ maxTier tiers then scoreToLevel (score.riskScore + tierPenalty)
      else scoreToLevel score.riskScore := by
  rw [adjustForExecutionPlan,htiers,Checks.ok_bind]
  by_cases hraw : 5 ≤ maxTier tiers
  · rw [if_neg (by omega),if_pos hraw]
    exact ⟨_,rfl,rfl⟩
  · rw [if_pos (by omega),if_neg hraw]
    exact ⟨_,rfl,hscore⟩

/-- The recorded level is right when no tier is raw, or when the penalty does not matter. -/
theorem pricedByTier_iff (hscore : score.riskLevel = scoreToLevel score.riskScore)
    (hlevel : planned.cr.riskLevel = some score.riskLevel)
    (htiers : planned.plan.generatedSteps.mapM stepTier = .ok tiers) :
    planned.PricedByTier score ↔ ¬5 ≤ maxTier tiers ∨ PenaltyAbsorbed score.riskScore := by
  obtain ⟨adjusted,hadjusted,hadjustedLevel⟩ := adjust_level hscore htiers
  have hiff : planned.PricedByTier score ↔ score.riskLevel = adjusted.riskLevel := by
    constructor
    · rintro ⟨adjusted',h,hrecorded⟩
      obtain rfl := Except.ok.inj (hadjusted.symm.trans h)
      exact Option.some.inj (hlevel.symm.trans hrecorded)
    · exact fun h => ⟨adjusted,hadjusted,h ▸ hlevel⟩
  rw [hiff,hadjustedLevel,hscore,penaltyAbsorbed_iff]
  split
  · simp [*,eq_comm]
  · simp [*]

/-- Steps whose tiers can be read have a raw one among them if the greatest is. -/
theorem mapM_stepTier (h : ∀ step ∈ steps, ∃ n, stepTier step = .ok n) :
    ∃ tiers, steps.mapM stepTier = .ok tiers ∧
      (5 ≤ maxTier tiers ↔ ∃ step ∈ steps, ∃ n, stepTier step = .ok n ∧ 5 ≤ n) := by
  have htier : ∀ step ∈ steps, stepTier step = .ok ((stepTier step).toOption.getD 1) := by
    intro step hstep
    obtain ⟨n,hn⟩ := h step hstep
    rw [hn]
    rfl
  refine ⟨_,Checks.mapM_eq_ok htier,?_⟩
  rw [five_le_maxTier]
  constructor
  · rintro ⟨n,hn,hraw⟩
    obtain ⟨step,hstep,rfl⟩ := List.mem_map.mp hn
    exact ⟨step,hstep,_,htier step hstep,hraw⟩
  · rintro ⟨step,hstep,n,hn,hraw⟩
    refine ⟨n,List.mem_map.mpr ⟨step,hstep,?_⟩,hraw⟩
    rw [hn]
    rfl

theorem untiered_tiers (h : ∀ step ∈ steps, stepTier step = .ok 1) :
    ∃ tiers, steps.mapM stepTier = .ok tiers ∧ ¬5 ≤ maxTier tiers := by
  obtain ⟨tiers,htiers,hraw⟩ := mapM_stepTier fun step hstep => ⟨1,h step hstep⟩
  refine ⟨tiers,htiers,hraw.not.mpr ?_⟩
  rintro ⟨step,hstep,n,hn,hfive⟩
  obtain rfl : 1 = n := Except.ok.inj ((h step hstep).symm.trans hn)
  omega

theorem stepTier_withWarning (step : Dict) (warning : Option String) :
    stepTier (withWarning step warning) = stepTier step := by
  rw [withWarning]
  split
  · rw [stepTier,Dict.getD,Dict.get?_set_of_ne (by simp)]
    rfl
  · rfl

theorem workflowWarning_tier {step step' : Dict} (h : workflowWarning planner step = .ok step') :
    stepTier step' = stepTier step := by
  unfold workflowWarning at h
  dsimp only at h
  split at h
  · obtain ⟨warning,_,h⟩ := Checks.bind_eq_ok.mp h
    obtain rfl := Checks.pure_eq_ok.mp h
    exact stepTier_withWarning step warning
  · obtain rfl := Checks.pure_eq_ok.mp h
    rfl

theorem workflowStep_tier {spec : Json} {n : Nat} {step : Dict}
    (h : workflowStep planner n spec = .ok step) : stepTier step = .ok 1 := by
  obtain ⟨connectorType,_,h⟩ := Checks.bind_eq_ok.mp h
  obtain ⟨actionId,_,h⟩ := Checks.bind_eq_ok.mp h
  obtain ⟨actionDef,_,h⟩ := Checks.bind_eq_ok.mp h
  obtain ⟨parameters,_,h⟩ := Checks.bind_eq_ok.mp h
  obtain rfl := Checks.pure_eq_ok.mp h
  rfl

/-- The steps of the other change types have no execution tier. -/
theorem generatePlan_untiered (hdefined : cr.changeType.isDefined = false)
    (hoffboard : cr.changeType ≠ .generic "offboard_user")
    (h : generatePlan planner cr assets safety = .ok plan) :
    ∀ step ∈ plan.generatedSteps, stepTier step = .ok 1 := by
  unfold generatePlan at h
  split at h
  · obtain ⟨actionDef,_,h⟩ := Checks.bind_eq_ok.mp h
    obtain ⟨warning,_,h⟩ := Checks.bind_eq_ok.mp h
    obtain rfl := Checks.pure_eq_ok.mp h
    intro step hstep
    obtain rfl := List.mem_singleton.mp hstep
    exact stepTier_withWarning _ _
  · obtain ⟨specs,_,h⟩ := Checks.bind_eq_ok.mp h
    obtain ⟨steps,hsteps,h⟩ := Checks.bind_eq_ok.mp h
    obtain ⟨warned,hwarned,h⟩ := Checks.bind_eq_ok.mp h
    obtain rfl := Checks.pure_eq_ok.mp h
    intro step hstep
    obtain ⟨step₀,hstep₀,hwarning⟩ := Checks.mapM_mem hwarned step hstep
    obtain ⟨spec,_,hspec⟩ := Checks.mapM_mem hsteps step₀ hstep₀
    rw [workflowWarning_tier hwarning,workflowStep_tier hspec]
  · obtain ⟨specs,_,h⟩ := Checks.bind_eq_ok.mp h
    obtain ⟨actionDefs,_,h⟩ := Checks.bind_eq_ok.mp h
    obtain rfl := Checks.pure_eq_ok.mp h
    simp [planOf]
  · unfold planCertificateRotation at h
    split at h
    · obtain rfl := Except.ok.inj h
      simp [planOf]
    · cases h
  · unfold planCredentialFanout at h
    split at h
    · cases h
    · cases h
    · obtain rfl := Except.ok.inj h
      intro step hstep
      obtain rfl := List.mem_singleton.mp hstep
      rfl
  · unfold planK8sClusterUpgrade at h
    simp only at h
    split at h
    · cases h
    split at h
    · cases h
    · obtain rfl := Except.ok.inj h
      simp [planOf]
  · simp_all [ChangeType.isDefined]

/-- The steps resolved from a definition are the options chosen for its entries. -/
theorem resolveSteps_tiers {changeDef : Dict}
    (h : resolveSteps planner cr assets changeDef = .ok steps) :
    (∀ step ∈ steps, ∃ n, stepTier step = .ok n) ∧
      ((∃ step ∈ steps, ∃ n, stepTier step = .ok n ∧ 5 ≤ n) ↔
        ∃ stepDefs stepDef genericAction,
          (Json.index (.obj changeDef) "steps" >>= Json.iter) = .ok stepDefs ∧
          .obj stepDef ∈ stepDefs ∧
          Dict.get? stepDef "generic_action" = some (.str genericAction) ∧
          5 ≤ chosenTier cr.desiredOutcome assets planner.catalog genericAction) := by
  obtain ⟨stepDefs,hstepDefs,h⟩ := Checks.bind_eq_ok.mp h
  have hpair := Checks.mapM_forall₂ h
  have hresolved : ∀ step ∈ steps, ∃ stepDef genericAction, .obj stepDef ∈ stepDefs ∧
      Dict.get? stepDef "generic_action" = some (.str genericAction) ∧ stepTier step =
        .ok (chosenTier cr.desiredOutcome assets planner.catalog genericAction) := by
    intro step hstep
    obtain ⟨⟨entry,n⟩,hentry,hstep⟩ := Lists.forall₂_mem_right hpair step hstep
    obtain ⟨stepDef,hmapping,hstep⟩ := Checks.bind_eq_ok.mp hstep
    obtain rfl : entry = .obj stepDef := by
      cases entry <;> simp [Json.mapping] at hmapping
      rw [hmapping]
    obtain ⟨genericAction,hgeneric,htier⟩ := resolveStep_tier _ _ _ _ hstep
    exact ⟨stepDef,genericAction,List.fst_mem_of_mem_zipIdx hentry,hgeneric,htier⟩
  refine ⟨fun step hstep => ?_,?_,?_⟩
  · obtain ⟨_,_,_,_,htier⟩ := hresolved step hstep
    exact ⟨_,htier⟩
  · rintro ⟨step,hstep,n,hn,hraw⟩
    obtain ⟨stepDef,genericAction,hmem,hgeneric,htier⟩ := hresolved step hstep
    obtain rfl := Except.ok.inj (htier.symm.trans hn)
    exact ⟨stepDefs,stepDef,genericAction,hstepDefs,hmem,hgeneric,hraw⟩
  · rintro ⟨stepDefs',stepDef,genericAction,hstepDefs',hmem,hgeneric,hraw⟩
    obtain rfl := Except.ok.inj (hstepDefs.symm.trans hstepDefs')
    obtain ⟨n,hn,hget⟩ := List.mem_iff_getElem.mp hmem
    have hentry : (.obj stepDef,n) ∈ stepDefs.zipIdx := by
      rw [List.mem_zipIdx_iff_getElem?,List.getElem?_eq_getElem hn,hget]
    obtain ⟨step,hstep,hresolve⟩ := Lists.forall₂_mem_left hpair _ hentry
    obtain ⟨genericAction',hgeneric',htier⟩ := resolveStep_tier _ _ _ _ hresolve
    obtain rfl : genericAction = genericAction' := by
      simpa using hgeneric.symm.trans hgeneric'
    exact ⟨step,hstep,_,htier,hraw⟩

theorem generatePlan_defined (hdefined : cr.changeType.isDefined = true) :
    generatePlan planner cr assets safety = raising (planDefinedSteps planner cr assets safety) := by
  unfold generatePlan
  split <;> simp_all [ChangeType.isDefined]

/-- A plan is raw exactly when its change uses raw execution. -/
theorem planData_tiers (h : planner.planData cr assets safety = .ok plan) :
    ∃ tiers, plan.generatedSteps.mapM stepTier = .ok tiers ∧
      (5 ≤ maxTier tiers ↔ planner.UsesRawExecution cr assets) := by
  have huntiered : (∀ step ∈ plan.generatedSteps, stepTier step = .ok 1) →
      cr.changeType.isDefined = false → ∃ tiers, plan.generatedSteps.mapM stepTier = .ok tiers ∧
        (5 ≤ maxTier tiers ↔ planner.UsesRawExecution cr assets) := by
    intro hsteps hdefined
    obtain ⟨tiers,htiers,hraw⟩ := untiered_tiers hsteps
    exact ⟨tiers,htiers,iff_of_false hraw (by simp [Planner.UsesRawExecution,hdefined])⟩
  unfold Planner.planData at h
  split at h
  · rename_i hoffboard
    refine huntiered ?_ (by rw [hoffboard]; decide)
    unfold Planner.planOffboarding at h
    dsimp only at h
    split at h
    · cases h
    split at h
    · cases h
    · obtain rfl := Except.ok.inj h
      exact Offboard.buildPlan_untiered _ _ _
  · rename_i hoffboard
    cases hdefined : cr.changeType.isDefined with
    | false => exact huntiered (generatePlan_untiered hdefined hoffboard h) hdefined
    | true =>
      rw [generatePlan_defined hdefined,raising_eq_ok] at h
      obtain ⟨changeDef,hdef,h⟩ := Checks.bind_eq_ok.mp h
      obtain ⟨steps,hsteps,h⟩ := Checks.bind_eq_ok.mp h
      obtain rfl := Checks.pure_eq_ok.mp h
      obtain ⟨hread,hraw⟩ := resolveSteps_tiers hsteps
      obtain ⟨tiers,htiers,hfive⟩ := mapM_stepTier hread
      refine ⟨tiers,htiers,hfive.trans (hraw.trans ?_)⟩
      constructor
      · rintro ⟨stepDefs,stepDef,genericAction,hstepDefs,hmem,hgeneric,htier⟩
        exact ⟨hdefined,changeDef,stepDefs,stepDef,genericAction,hdef,hstepDefs,hmem,hgeneric,htier⟩
      · rintro ⟨_,changeDef',stepDefs,stepDef,genericAction,hdef',hrest⟩
        obtain rfl := Except.ok.inj (hdef.symm.trans hdef')
        exact ⟨stepDefs,stepDef,genericAction,hrest⟩

end Tiers

/-- The recorded risk level reflects the tiers of the plan exactly when the change needs no raw
execution, or its score has room for the penalty. -/
theorem risk_level_reflects_tiers {planner : Planner} {inventory : List TargetAsset}
    {cr : ChangeRequest} {planned : PlannedChange}
    (h : planner.planCr inventory cr = .ok planned) :
    ∃ assets score, Planner.targets inventory cr = .ok assets ∧
      scoreChangeRequest cr (assets.map TargetAsset.asset) = .ok score ∧
      (planned.PricedByTier score ↔
        ¬planner.UsesRawExecution cr assets ∨ PenaltyAbsorbed score.riskScore) := by
  obtain ⟨assets,hassets,h⟩ := Checks.bind_eq_ok.mp h
  obtain ⟨score,hscore,h⟩ := Checks.bind_eq_ok.mp h
  rw [raising_eq_ok] at hassets hscore
  refine ⟨assets,score,hassets,hscore,?_⟩
  split at h
  · cases h
  obtain ⟨plan,hplan,h⟩ := Checks.bind_eq_ok.mp h
  obtain rfl := Checks.pure_eq_ok.mp h
  obtain ⟨tiers,htiers,hraw⟩ := planData_tiers hplan
  rw [pricedByTier_iff (scoreChangeRequest_level hscore) rfl htiers,hraw]

def sshOption (action : String) : ActionOption where
  connectorType := "ssh"
  actionId := action
  actionDef := [("action_id",.str action),("generic_action",.str action),("execution_tier",.int 5),
    ("applicable_asset_types",.arr [.str "server"])]
  executionTier := 5

/-- The part of the catalog that remote commands use: each of their actions runs over SSH. -/
def sshCatalog : Catalog where
  actions := fun t => if t = "ssh" then
    ["validate_template","execute_template","collect_output"].map fun a => (sshOption a).actionDef
    else []
  genericIndex := fun a => if a ∈ ["validate_template","execute_template","collect_output"] then
    [sshOption a] else []
  getExecutor := fun _ _ => .ok ⟨true,true,some "full",none⟩

def sshPlanner : Planner where
  catalog := sshCatalog
  changeTypeDef := fun _ => .ok [("steps",.arr (["validate_template","execute_template",
    "collect_output"].map fun a => .obj [("generic_action",.str a)]))]
  parameters := fun _ desired => [("template_id",Dict.getD desired "template_id" (.str ""))]
  discover := fun _ _ => []

def webServer : TargetAsset where
  asset := ⟨"a0000000-0000-0000-0000-000000000001","org-1",none,"web","server","dev","low",.null,[]⟩
  connectors := [{ id := "c-1", organizationId := "org-1", connectorType := "ssh" }]

def restartNginx : ChangeRequest where
  id := "cr-1"
  organizationId := "org-1"
  requesterId := "user-1"
  changeType := .generic "remote_command"
  targetAssetIds := ["a0000000-0000-0000-0000-000000000001"]
  desiredOutcome := [("template_id",.str "restart_service"),("rollback_strategy",.str "manual")]
  status := .draft
  riskLevel := none
  changePlan := none
  applicationSequence := none

/-- A command over SSH is recorded with a low risk, although the penalty makes it a medium one. -/
theorem ssh_command_keeps_low_risk : ∃ planned score adjusted,
    sshPlanner.planCr [webServer] restartNginx = .ok planned ∧
      (∃ step ∈ planned.plan.generatedSteps, stepTier step = .ok 5) ∧
      scoreChangeRequest restartNginx [webServer.asset] = .ok score ∧
      adjustForExecutionPlan score planned.plan.generatedSteps = .ok adjusted ∧
      adjusted.riskLevel = .medium ∧ planned.cr.riskLevel = some .low :=
  ⟨_,_,_,rfl,⟨_,List.mem_cons_self,rfl⟩,rfl,rfl,rfl,rfl⟩

/-- The criterion at this change. -/
theorem ssh_command_reflects_tiers : ∃ planned assets score,
    sshPlanner.planCr [webServer] restartNginx = .ok planned ∧
      Planner.targets [webServer] restartNginx = .ok assets ∧
      scoreChangeRequest restartNginx (assets.map TargetAsset.asset) = .ok score ∧
      (planned.PricedByTier score ↔
        ¬sshPlanner.UsesRawExecution restartNginx assets ∨ PenaltyAbsorbed score.riskScore) := by
  obtain ⟨planned,h⟩ : ∃ planned, sshPlanner.planCr [webServer] restartNginx = .ok planned :=
    ⟨_,rfl⟩
  obtain ⟨assets,score,hassets,hscore,hiff⟩ := risk_level_reflects_tiers h
  exact ⟨planned,assets,score,h,hassets,hscore,hiff⟩

end Nexplane
