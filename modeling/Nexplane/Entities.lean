import Nexplane.Lib.PyValue

set_option autoImplicit false

/-! The rows of the control plane's database and the enumerations stored in them. -/

namespace Nexplane
open PyValue

/-- The canonical text of a UUID. -/
abbrev Uuid := String

instance lawfulBEq_uuids : LawfulBEq (Uuid × Uuid) := inferInstance

inductive UserRole where
  | admin
  | securityOperator
  | approver
  | auditor
  deriving DecidableEq, Repr

def UserRole.value : UserRole → String
  | .admin => "admin"
  | .securityOperator => "security_operator"
  | .approver => "approver"
  | .auditor => "auditor"

structure User where
  id : Uuid
  organizationId : Uuid
  role : UserRole
  deriving DecidableEq, Repr

inductive RiskLevel where
  | low
  | medium
  | high
  | critical
  deriving DecidableEq, Repr

inductive ChangeRequestStatus where
  | draft
  | planned
  | safetyReview
  | awaitingApproval
  | approved
  | executing
  | verifying
  | completed
  | failed
  | rolledBack
  | rollbackPartial
  | rollbackFailed
  | manualRecoveryRequired
  | rejected
  | cancelled
  | queuedForMaintenance
  | preflightRunning
  | preflightFailed
  | batchRunning
  | batchAborted
  | completedWithErrors
  | paused
  | rolledBackWithWarnings
  deriving DecidableEq, Repr

def ChangeRequestStatus.value : ChangeRequestStatus → String
  | .draft => "draft"
  | .planned => "planned"
  | .safetyReview => "safety_review"
  | .awaitingApproval => "awaiting_approval"
  | .approved => "approved"
  | .executing => "executing"
  | .verifying => "verifying"
  | .completed => "completed"
  | .failed => "failed"
  | .rolledBack => "rolled_back"
  | .rollbackPartial => "rollback_partial"
  | .rollbackFailed => "rollback_failed"
  | .manualRecoveryRequired => "manual_recovery_required"
  | .rejected => "rejected"
  | .cancelled => "cancelled"
  | .queuedForMaintenance => "queued_for_maintenance"
  | .preflightRunning => "preflight_running"
  | .preflightFailed => "preflight_failed"
  | .batchRunning => "batch_running"
  | .batchAborted => "batch_aborted"
  | .completedWithErrors => "completed_with_errors"
  | .paused => "paused"
  | .rolledBackWithWarnings => "rolled_back_with_warnings"

/-- `str(status)` of a member that also derives from `str`: the qualified member name. -/
def ChangeRequestStatus.str (status : ChangeRequestStatus) : String :=
  "ChangeRequestStatus." ++ status.value

inductive ApprovalDecision where
  | approved
  | rejected
  deriving DecidableEq, Repr

def ApprovalDecision.value : ApprovalDecision → String
  | .approved => "approved"
  | .rejected => "rejected"

structure Approval where
  changeRequestId : Uuid
  approverId : Uuid
  decision : ApprovalDecision
  deriving DecidableEq, Repr

/-- The change types that some modelled code tells apart; `generic` is every other member of the
enumeration, by its value. -/
inductive ChangeType where
  | credentialRotation
  | certificateRotation
  | credentialRotationFanout
  | k8sClusterUpgrade
  | emergencyUserLockout
  | userSuspension
  | userScopeReduction
  | enforceMfa
  | scanForReferences
  | containerImageTransfer
  | adDcParallelUpgrade
  | agentAppdiscovery
  | agentContainerizeBuild
  | agentContainerizeRetire
  | changeIp
  | migrateIp
  | k8sWorkloadDeploy
  | generic (value : String)
  deriving DecidableEq, Repr

def ChangeType.value : ChangeType → String
  | .credentialRotation => "credential_rotation"
  | .certificateRotation => "certificate_rotation"
  | .credentialRotationFanout => "credential_rotation_fanout"
  | .k8sClusterUpgrade => "k8s_cluster_upgrade"
  | .emergencyUserLockout => "emergency_user_lockout"
  | .userSuspension => "user_suspension"
  | .userScopeReduction => "user_scope_reduction"
  | .enforceMfa => "enforce_mfa"
  | .scanForReferences => "scan_for_references"
  | .containerImageTransfer => "container_image_transfer"
  | .adDcParallelUpgrade => "ad_dc_parallel_upgrade"
  | .agentAppdiscovery => "agent_appdiscovery"
  | .agentContainerizeBuild => "agent_containerize_build"
  | .agentContainerizeRetire => "agent_containerize_retire"
  | .changeIp => "change_ip"
  | .migrateIp => "migrate_ip"
  | .k8sWorkloadDeploy => "k8s_workload_deploy"
  | .generic value => value

/-- `str(change_type)`: the qualified member name; the names are the values. -/
def ChangeType.str (changeType : ChangeType) : String := "ChangeType." ++ changeType.value

/-- One entry of `ChangePlan.generated_steps`; an absent key is `none`. -/
structure PlanStep where
  stepNumber : Int
  genericAction : Option String
  actionId : Option String
  connectorType : Option String
  connectorId : Option String
  parameters : Option Dict
  rollbackAction : Option String
  rollbackActionId : Option String
  rollbackConnectorType : Option String
  deriving Repr

/-- One entry of `verification_plan["checks"]`. -/
structure VerificationCheck where
  name : String
  description : String
  deriving Repr

/-- `preflightChecks` are the names in `preflight_checks`. -/
structure ChangePlan where
  generatedSteps : List PlanStep
  preflightChecks : List String := []
  verificationChecks : List VerificationCheck := []
  successCriteria : String := ""
  deriving Repr

structure ChangeRequest where
  id : Uuid
  organizationId : Uuid
  requesterId : Uuid
  changeType : ChangeType
  targetAssetIds : List Uuid
  desiredOutcome : Dict
  status : ChangeRequestStatus
  riskLevel : Option RiskLevel
  changePlan : Option ChangePlan
  applicationSequence : Option Nat
  deriving Repr

/-- Why a request was turned down: an HTTP error, an `{"error": …}` answer of an agent tool, or
an exception that no handler catches. In each case the session is closed without a commit. -/
inductive Refusal where
  | http (status : Nat) (detail : String)
  | tool (error : String)
  | unhandled (exc : String)
  deriving DecidableEq, Repr

end Nexplane
