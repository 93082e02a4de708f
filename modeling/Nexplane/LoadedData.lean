import Nexplane.Lib.Py
import Nexplane.RiskScore

set_option autoImplicit false

/-! What `load_change_request_and_plan` hands to the workflow, and what the workflow reads of it. -/

namespace Nexplane
open PyValue

/-- The columns of a plan that the loader reads, which hold JSON. -/
structure PlanRow where
  id : Uuid
  generatedSteps : Json
  preflightChecks : Json
  rollbackPlan : Json
  verificationPlan : Json

/-- A change request with its plan and its latest run. -/
structure StoredChange where
  id : Uuid
  organizationId : Uuid
  changeType : ChangeType
  desiredOutcome : Json
  targetAssetIds : List Json
  riskLevel : RiskLevel
  source : Option String
  snapshotBefore : Bool
  verificationChecks : List Json
  changePlan : Option PlanRow
  latestRun : Option Uuid

/-- `load_change_request_and_plan`. -/
def loadedData (cr : StoredChange) : Dict :=
  [("change_request_id",.str cr.id),("organization_id",.str cr.organizationId),
    ("change_type",.str cr.changeType.value),("desired_outcome",cr.desiredOutcome),
    ("target_asset_ids",.arr cr.targetAssetIds),("risk_level",.str cr.riskLevel.value),
    ("plan_id",(cr.changePlan.map PlanRow.id).elim .null .str),
    ("generated_steps",cr.changePlan.elim (.arr []) PlanRow.generatedSteps),
    ("preflight_checks",cr.changePlan.elim (.arr []) PlanRow.preflightChecks),
    ("rollback_plan",cr.changePlan.elim (.obj []) PlanRow.rollbackPlan),
    ("verification_plan",cr.changePlan.elim (.obj []) PlanRow.verificationPlan),
    ("execution_run_id",cr.latestRun.elim .null .str)]

/-- What the workflow does outside, in its order; `record` stands for the statuses and the audit
events of a stage. -/
inductive WorkflowAct where
  | record (stage : String)
  | preflight (checks : Json)
  | snapshot (assetId : Json)
  | execute (steps targetAssetIds : Json)
  | postHook (targetAssetIds : Json)
  | verification (plan : Json)
  | discovery
  | driftAnchor
  | verificationChecks (checks targetAssetIds : Json)
  | closeFindings
  | backupTarget
  | rollback (steps : Json)

/-- How the calls end: which of them raise, and what the checks and the execution report. -/
structure CallOutcomes where
  raises : WorkflowAct → Bool
  preflightPassed : Bool
  failedSoftly : Bool
  verificationPassed : Bool

/-- The change types without a snapshot. -/
def unsnapshotted : List String := ["create_ebs_snapshot","agent_appdiscovery"]

/-- The change types whose outcome is recorded without a verification. -/
def unverified : List String :=
  ["credential_rotation","certificate_rotation","credential_rotation_fanout",
    "k8s_cluster_upgrade","ad_dc_parallel_upgrade"]

def hookedTypes : List String :=
  ["agent_appdiscovery","agent_containerize_build","agent_containerize_retire","change_ip",
    "migrate_ip","k8s_workload_deploy"]

section Reads

variable (data : Dict)

/-- `data.get("snapshot_before")`, read as a condition. -/
def readSnapshotBefore : Bool := Dict.truthy data "snapshot_before"

def readChangeType : Json := data.getD "change_type" .null

/-- `data.get("target_asset_ids") or []`. -/
def readTargets : Json := (data.getD "target_asset_ids" .null).orElse (.arr [])

/-- `data.get("verification_checks") or []`. -/
def readVerificationChecks : Json := (data.getD "verification_checks" .null).orElse (.arr [])

def readSource : Json := data.getD "source" .null

end Reads

section Workflow

variable (o : CallOutcomes)

/-- The call is made, and it may raise. -/
def perform (act : WorkflowAct) : Py (List WorkflowAct) Unit := do
  Py.modify (· ++ [act])
  if o.raises act then Py.raise (.other "") else pure ()

/-- `try: x except Exception: log`. -/
def logged (x : Py (List WorkflowAct) Unit) : Py (List WorkflowAct) Unit :=
  Py.tryExcept x fun _ => pure ()

/-- `if c: x`. -/
def whenever (c : Bool) (x : Py (List WorkflowAct) Unit) : Py (List WorkflowAct) Unit :=
  if c then x else pure ()

def isOneOf (v : Json) (texts : List String) : Bool := texts.any fun text => v.isStr text

/-- The snapshots before the change; the first one that raises ends them. -/
def takeSnapshots (data : Dict) : Py (List WorkflowAct) Unit :=
  whenever (readSnapshotBefore data && !isOneOf (readChangeType data) unsnapshotted) (logged (do
    let targets ← Py.ofExcept (readTargets data).iter
    let _ ← Py.each (fun assetId => perform o (.snapshot assetId)) targets
    pure ()))

/-- What a completed change sets off. -/
def afterCompletion (data : Dict) : Py (List WorkflowAct) Unit := do
  perform o .discovery
  logged (perform o .driftAnchor)
  whenever (readVerificationChecks data).truthy
    (logged (perform o (.verificationChecks (readVerificationChecks data) (readTargets data))))
  logged (perform o .closeFindings)
  whenever ((readSource data).isStr "recurring_job") (logged (perform o .backupTarget))

def afterExecution (data : Dict) : Py (List WorkflowAct) Unit :=
  if isOneOf (readChangeType data) unverified then perform o (.record "outcome")
  else if o.failedSoftly then perform o (.record "execution.failed")
  else do
    whenever (isOneOf (readChangeType data) hookedTypes)
      (perform o (.postHook (data.getD "target_asset_ids" .null)))
    perform o (.record "verifying")
    perform o (.verification (data.getD "verification_plan" .null))
    if o.verificationPassed then do
      perform o (.record "completed")
      afterCompletion o data
    else perform o (.rollback (data.getD "generated_steps" .null))

/-- `execute_change_workflow` on the loaded data. -/
def runWorkflow (data : Dict) : Py (List WorkflowAct) Unit := do
  perform o (.record "workflow.started")
  perform o (.preflight (data.getD "preflight_checks" .null))
  if o.preflightPassed then do
    perform o (.record "preflight.passed")
    takeSnapshots o data
    perform o (.record "execution.started")
    let outcome ← Py.attempt (perform o (.execute (data.getD "generated_steps" .null)
      (data.getD "target_asset_ids" .null)))
    match outcome with
    | .error _ => perform o (.record "execution.failed")
    | .ok _ => afterExecution o data
  else perform o (.record "preflight.failed")

def StoredChange.acts (cr : StoredChange) : List WorkflowAct := (runWorkflow o (loadedData cr) []).2

end Workflow

/-- Every target has its snapshot before the change is executed. -/
def SnapshotsFirst (cr : StoredChange) (acts : List WorkflowAct) : Prop :=
  ∀ before steps targets after, acts = before ++ .execute steps targets :: after →
    ∀ assetId ∈ cr.targetAssetIds, .snapshot assetId ∈ before

/-- What the change request asks for reaches the workflow. -/
structure ReachesWorkflow (o : CallOutcomes) (cr : StoredChange) : Prop where
  snapshots : cr.snapshotBefore = true → cr.changeType.value ∉ unsnapshotted →
    SnapshotsFirst cr (cr.acts o)
  snapshotBefore : readSnapshotBefore (loadedData cr) = cr.snapshotBefore
  changeType : readChangeType (loadedData cr) = .str cr.changeType.value
  targets : readTargets (loadedData cr) = .arr cr.targetAssetIds
  verificationChecks : readVerificationChecks (loadedData cr) = .arr cr.verificationChecks
  source : readSource (loadedData cr) = cr.source.elim .null .str

section Omitted

variable {o : CallOutcomes} {cr : StoredChange} {data : Dict} {act : WorkflowAct}

/-- The acts that the workflow only takes for a field that the loader leaves out. -/
def ForOmitted : WorkflowAct → Prop
  | .snapshot _ | .verificationChecks _ _ | .backupTarget => True
  | _ => False

/-- No act so far is one of them. -/
def NoneForOmitted (acts : List WorkflowAct) : Prop := ∀ act ∈ acts, ¬ForOmitted act

theorem loadedData_reads (cr : StoredChange) : readSnapshotBefore (loadedData cr) = false ∧
    readVerificationChecks (loadedData cr) = .arr [] ∧ readSource (loadedData cr) = .null :=
  ⟨rfl,rfl,rfl⟩

theorem perform_keeps (h : ¬ForOmitted act) : Py.Keeps NoneForOmitted (perform o act) := by
  unfold perform
  refine (Py.Keeps.modify fun acts hacts => ?_).bind fun _ => ?_
  · intro act' hact'
    rcases List.mem_append.mp hact' with hold | hnew
    · exact hacts act' hold
    · exact List.mem_singleton.mp hnew ▸ h
  · exact .ite (.raise _) (.pure _)

theorem logged_keeps {x : Py (List WorkflowAct) Unit} (h : Py.Keeps NoneForOmitted x) :
    Py.Keeps NoneForOmitted (logged x) := h.tryExcept fun _ => .pure _

theorem whenever_keeps {c : Bool} {x : Py (List WorkflowAct) Unit}
    (h : c = true → Py.Keeps NoneForOmitted x) : Py.Keeps NoneForOmitted (whenever c x) := by
  cases c with
  | true => exact h rfl
  | false => exact .pure _

theorem takeSnapshots_keeps : Py.Keeps NoneForOmitted (takeSnapshots o (loadedData cr)) := by
  refine whenever_keeps fun h => ?_
  simp [(loadedData_reads cr).1] at h

theorem afterCompletion_keeps : Py.Keeps NoneForOmitted (afterCompletion o (loadedData cr)) := by
  obtain ⟨_,hchecks,hsource⟩ := loadedData_reads cr
  unfold afterCompletion
  refine (perform_keeps (by simp [ForOmitted])).bind fun _ => ?_
  refine (logged_keeps (perform_keeps (by simp [ForOmitted]))).bind fun _ => ?_
  refine (whenever_keeps fun h => ?_).bind fun _ => ?_
  · simp [hchecks,Json.truthy] at h
  refine (logged_keeps (perform_keeps (by simp [ForOmitted]))).bind fun _ => ?_
  refine whenever_keeps fun h => ?_
  simp [hsource,Json.isStr] at h

theorem afterExecution_keeps : Py.Keeps NoneForOmitted (afterExecution o (loadedData cr)) := by
  unfold afterExecution
  refine .ite (perform_keeps (by simp [ForOmitted])) ?_
  refine .ite (perform_keeps (by simp [ForOmitted])) ?_
  refine (whenever_keeps fun _ => perform_keeps (by simp [ForOmitted])).bind fun _ => ?_
  refine (perform_keeps (by simp [ForOmitted])).bind fun _ => ?_
  refine (perform_keeps (by simp [ForOmitted])).bind fun _ => ?_
  refine .ite ?_ (perform_keeps (by simp [ForOmitted]))
  exact (perform_keeps (by simp [ForOmitted])).bind fun _ => afterCompletion_keeps

/-- No run takes a snapshot, runs the checks of the change or updates a backup target. -/
theorem acts_none_for_omitted (o : CallOutcomes) (cr : StoredChange) :
    NoneForOmitted (cr.acts o) := by
  have hstart : NoneForOmitted [] := by simp [NoneForOmitted]
  refine (?_ : Py.Keeps NoneForOmitted (runWorkflow o (loadedData cr))) [] hstart
  unfold runWorkflow
  refine (perform_keeps (by simp [ForOmitted])).bind fun _ => ?_
  refine (perform_keeps (by simp [ForOmitted])).bind fun _ => ?_
  refine .ite ?_ (perform_keeps (by simp [ForOmitted]))
  refine (perform_keeps (by simp [ForOmitted])).bind fun _ => takeSnapshots_keeps.bind fun _ => ?_
  refine (perform_keeps (by simp [ForOmitted])).bind fun _ => ?_
  refine (Py.Keeps.attempt (perform_keeps (by simp [ForOmitted]))).bind fun outcome => ?_
  cases outcome with
  | error e => exact perform_keeps (by simp [ForOmitted])
  | ok u => exact afterExecution_keeps

/-- What is asked for reaches the workflow exactly when nothing is asked for in the fields that
the loader leaves out. -/
theorem reaches_iff_nothing_omitted (o : CallOutcomes) (cr : StoredChange) :
    ReachesWorkflow o cr ↔
      cr.snapshotBefore = false ∧ cr.verificationChecks = [] ∧ cr.source = none := by
  obtain ⟨hsnapshot,hchecks,hsource⟩ := loadedData_reads cr
  constructor
  · intro h
    refine ⟨h.snapshotBefore.symm.trans hsnapshot,?_,?_⟩
    · exact (Json.arr.inj (hchecks.symm.trans h.verificationChecks)).symm
    · have hread := hsource.symm.trans h.source
      cases hcr : cr.source with
      | none => rfl
      | some text => simp [hcr] at hread
  · rintro ⟨hbefore,hnone,hmanual⟩
    refine ⟨?_,?_,rfl,?_,?_,?_⟩
    · rw [hbefore]
      exact nofun
    · rw [hsnapshot,hbefore]
    · cases htargets : cr.targetAssetIds with
      | nil => simp [readTargets,loadedData,htargets,Dict.getD,Dict.get?,List.lookup_cons,Json.orElse,
          Json.truthy]
      | cons assetId rest => simp [readTargets,loadedData,htargets,Dict.getD,Dict.get?,
          List.lookup_cons,Json.orElse,Json.truthy]
    · rw [hchecks,hnone]
    · rw [hsource,hmanual]
      rfl

def calmCalls : CallOutcomes := ⟨fun _ => false,true,false,true⟩

def snapshotChange : StoredChange where
  id := "cr"
  organizationId := "org"
  changeType := .generic "patch"
  desiredOutcome := .obj []
  targetAssetIds := [.str "asset"]
  riskLevel := .low
  source := none
  snapshotBefore := true
  verificationChecks := []
  changePlan := none
  latestRun := none

/-- The change asks for a snapshot, and is executed without one. -/
theorem snapshot_not_taken : ¬ ∀ o cr, ReachesWorkflow o cr := by
  intro hall
  have hacts : snapshotChange.acts calmCalls = [.record "workflow.started",.preflight (.arr []),
      .record "preflight.passed",.record "execution.started"] ++
        .execute (.arr []) (.arr [.str "asset"]) :: _ := rfl
  have hfirst := (hall calmCalls snapshotChange).snapshots rfl (by decide) _ _ _ _ hacts
    (.str "asset") (by simp [snapshotChange])
  simp at hfirst

end Omitted

end Nexplane
