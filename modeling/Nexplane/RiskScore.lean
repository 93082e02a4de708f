import Nexplane.SafetyEngine
import Nexplane.World
import Nexplane.Lib.Checks
import Mathlib.Algebra.GroupWithZero.Nat

set_option autoImplicit false

/-! The safety score of a change request and the penalty for raw remote execution. -/

namespace Nexplane
open PyValue

def RiskLevel.value : RiskLevel → String
  | .low => "low"
  | .medium => "medium"
  | .high => "high"
  | .critical => "critical"

/-- The identifiers of the approved command templates. -/
def approvedCommandTemplates : List String :=
  ["restart_service","check_disk_usage","rotate_log","flush_dns_cache","collect_support_bundle"]

/-- The values of the change types whose reverse operation is known. -/
def implicitRollbackTypes : List String :=
  ["ec2_stop","ec2_start","ec2_reboot","ec2_stop_start","ec2_launch","ssm_command",
    "key_pair_create","tailscale_join","tailscale_remove","tailscale_generate_auth_key",
    "deploy_nexplane_agent","terraform_local_apply","ansible_local_playbook","snapshot_asset",
    "security_group_update","iam_user_create","s3_bucket_create","s3_bucket_delete",
    "s3_lifecycle_configure","route53_zone_create","route53_record_upsert",
    "route53_record_delete","cloudwatch_alarm_create","cloudwatch_alarm_delete",
    "rds_instance_create","rds_instance_delete","rds_snapshot_create","promote_db_replica",
    "verify_backup","block_s3_public_access","restore_s3_public_access","capture_instance_state",
    "attach_iam_policy","detach_iam_policy","disable_iam_user","enable_iam_user","rotate_iam_key",
    "put_bucket_policy","tag_resource","remove_nexplane_agent","dr_dns_failover_route53",
    "rds_replica_create","gcp_firewall_create","gcp_firewall_delete",
    "gcp_block_public_bucket_access","gcp_disable_service_account",
    "gcp_rotate_service_account_key","azure_update_nsg_rule","azure_restore_nsg_rule",
    "azure_disable_public_blob_access","azure_enable_public_blob_access",
    "azure_rotate_storage_key","gce_instance_create","gce_instance_delete","gce_stop","gce_start",
    "gce_instance_reboot","gce_disk_snapshot","azure_vm_create","azure_vm_delete","azure_vm_stop",
    "azure_vm_start","azure_vm_reboot","azure_vm_snapshot","azure_vnet_create",
    "azure_vnet_delete","azure_role_assignment_create","azure_role_assignment_delete",
    "azure_blob_container_create","azure_blob_container_delete","azure_dns_zone_create",
    "azure_dns_zone_delete","azure_dns_record_create","azure_dns_record_delete",
    "azure_managed_identity_create","azure_managed_identity_delete","azure_metric_alert_create",
    "azure_metric_alert_delete","azure_sql_server_create","azure_sql_server_delete",
    "azure_sql_database_create","azure_sql_database_delete","azure_storage_account_create",
    "azure_storage_account_delete","oci_instance_create","oci_instance_stop","oci_instance_start",
    "oci_instance_reboot","oci_instance_delete","oci_block_volume_snapshot","oci_vcn_create",
    "oci_subnet_create","oci_bucket_create","oci_bucket_delete","oci_bucket_lifecycle_set",
    "oci_bucket_block_public","oci_block_volume_create","oci_block_volume_attach",
    "oci_block_volume_detach","oci_block_volume_delete","oci_block_volume_backup",
    "oci_security_list_add_rule","oci_security_list_remove_rule","oci_nsg_create",
    "oci_nsg_delete","oci_nsg_rule_add","oci_nsg_rule_remove","oci_load_balancer_create",
    "oci_load_balancer_delete","oci_backend_set_create","oci_listener_create",
    "oci_dns_zone_create","oci_dns_record_upsert","oci_iam_user_create","oci_iam_user_delete",
    "oci_iam_user_disable","oci_iam_user_enable","oci_iam_group_create","oci_iam_group_delete",
    "oci_iam_policy_create","oci_iam_policy_delete","oci_vault_secret_create",
    "oci_vault_secret_delete","oci_compartment_create","oci_compartment_delete",
    "agent_linux_patch","agent_ossecurity","agent_linuxauth","agent_crossplatform",
    "agent_compliance","agent_forensics","agent_fleet","agent_backup","agent_reboot",
    "agent_credrotation","agent_iac","agent_linuxupgrade","agent_win_patch","agent_winharden",
    "alb_create","alb_delete","target_group_create","target_group_delete","listener_create",
    "listener_modify","listener_delete","register_targets","deregister_targets",
    "agent_appdiscovery","agent_containerize_build","k8s_workload_deploy",
    "agent_containerize_retire","agent_containerize_auto","ssh_containerize_workload",
    "agent_os_upgrade","oci_adb_create","oci_adb_stop","oci_adb_start","oci_adb_delete",
    "oci_adb_backup","oci_mysql_create","oci_mysql_stop","oci_mysql_start","oci_mysql_delete",
    "oci_alarm_create","oci_alarm_delete","oci_logging_enable","configure_seccomp",
    "configure_apparmor","configure_selinux","configure_ebpf_network","configure_ebpf_lsm",
    "promote_ebpf_policy","apply_sysctl_hardening","deploy_auditd_rules",
    "setup_file_integrity_monitoring","discover_applications","deep_discover","collect_forensics",
    "harden_ssh","configure_ntp","config_syslog","estimate_size","audit_software_inventory",
    "audit_cis_compliance","db_major_version_upgrade","k8s_cluster_upgrade","windows_os_upgrade",
    "elasticsearch_upgrade","opensearch_upgrade","kafka_zk_to_kraft_bridge","rabbitmq_upgrade",
    "java_runtime_upgrade","python_runtime_upgrade","ad_dc_parallel_upgrade",
    "linux_parallel_upgrade","windows_parallel_migration","ecs_rolling_deploy",
    "aws_account_baseline_monitoring","gcp_account_baseline_monitoring",
    "azure_account_baseline_monitoring","oci_account_baseline_monitoring"]

structure RiskFactor where
  name : String
  description : String
  score : Nat
  deriving DecidableEq, Repr

structure SafetyReviewResult where
  riskLevel : RiskLevel
  riskScore : Nat
  riskFactors : List RiskFactor
  blockingIssues : List String
  warnings : List String
  deriving DecidableEq, Repr

def SafetyReviewResult.isBlocked (r : SafetyReviewResult) : Bool := r.blockingIssues.length > 0

def scoreToLevel (score : Nat) : RiskLevel :=
  if score ≥ 90 then .critical
  else if score ≥ 60 then .high
  else if score ≥ 30 then .medium
  else .low

section Score

variable (assets : List Asset)

def prodAssets : List Asset := assets.filter fun a => a.environment = "prod"

def assetsOf (criticality : String) : List Asset :=
  assets.filter fun a => a.criticality = criticality

/-- One factor for all assets of a kind, none if there are none. -/
def assetFactor (name : String) (describe : Nat → String) (weight : Nat) (found : List Asset) :
    List RiskFactor :=
  if found.isEmpty then []
  else [⟨name,describe found.length,weight * found.length⟩]

def assetFactors : List RiskFactor :=
  let critical := assetsOf assets "critical"
  assetFactor "production_environment" (fun n => toString n ++ " production asset(s) targeted") 30
      (prodAssets assets) ++
    if critical.isEmpty then
      assetFactor "high_criticality_asset"
        (fun n => toString n ++ " high-criticality asset(s) targeted") 20 (assetsOf assets "high")
    else assetFactor "critical_asset" (fun n => toString n ++ " critical asset(s) targeted") 35
      critical

end Score

/-- The factors and the blocking issues of a change that runs a command. -/
def commandReview (cr : ChangeRequest) : Except Exc (List RiskFactor × List String) :=
  let desired := cr.desiredOutcome
  if cr.changeType.value = "remote_command" then
    let unapproved := "Remote command requests must use an approved command template. " ++
      "Available templates: " ++ ", ".intercalate approvedCommandTemplates
    match Dict.getD desired "template_id" .null with
    -- A list or a dictionary cannot be looked up in the table of templates.
    | .arr (_ :: _) => .error .typeError
    | .obj (_ :: _) => .error .typeError
    | .str id =>
      if id = "" ∨ id ∉ approvedCommandTemplates then .ok ([],[unapproved])
      else if (Dict.getD desired "freeform_command" .null).truthy then
        .ok ([],["Freeform shell commands are not permitted. Use a parameterized template."])
      else .ok ([⟨"remote_command_execution","Remote command using template '" ++ id ++ "'",25⟩],[])
    | _ => .ok ([],[unapproved])
  else if cr.changeType.value = "ssm_command" then
    .ok ([⟨"ssm_command_execution","SSM command execution via AWS Systems Manager (IAM-gated)",20⟩],
      [])
  else .ok ([],[])

def segmentationFactors (cr : ChangeRequest) : List RiskFactor :=
  if cr.changeType.value = "microsegmentation_policy" then
    ⟨"microsegmentation_policy","Policy change affects network segmentation",20⟩ ::
      if cr.targetAssetIds.length > 10 then
        [⟨"large_blast_radius",toString cr.targetAssetIds.length ++ " assets targeted (>10)",25⟩]
      else []
  else []

def safetyWarnings (cr : ChangeRequest) (assets : List Asset) : List String :=
  (if cr.changeType.value = "security_group_update" ∧ prodAssets assets ≠ [] then
    ["Security group changes in production require careful verification of " ++
      "inbound/outbound rules."] else []) ++
  if cr.changeType.value = "key_rotation" then
    ["Ensure all consumers of the rotated key are updated before revoking the old key."] else []

/-- No rollback strategy is given, and the change type has none of its own. -/
def lacksRollback (cr : ChangeRequest) : Bool :=
  !(Dict.getD cr.desiredOutcome "rollback_strategy" .null).truthy &&
    !(implicitRollbackTypes.contains cr.changeType.value)

def scoreChangeRequest (cr : ChangeRequest) (assets : List Asset) :
    Except Exc SafetyReviewResult := do
  let command ← commandReview cr
  let lacking := lacksRollback cr
  let factors := assetFactors assets ++ command.1 ++ segmentationFactors cr ++
    if lacking then
      [⟨"no_rollback_strategy","No rollback strategy specified in desired outcome",30⟩] else []
  let issues := command.2 ++
    if lacking ∧ (prodAssets assets ≠ [] ∨ assetsOf assets "critical" ≠ []) then
      ["A rollback strategy is required for changes targeting production or critical assets."]
    else []
  let total := (factors.map RiskFactor.score).sum
  let score := if assets.isEmpty then total - 20 else total
  pure {
    riskLevel := scoreToLevel score
    riskScore := score
    riskFactors := factors
    blockingIssues := issues
    warnings := safetyWarnings cr assets }

/-- `step.get("execution_tier", 1)`, an integer. -/
def stepTier (step : Dict) : Except Exc Int :=
  match Dict.getD step "execution_tier" (.int 1) with
  | .int n => .ok n
  | _ => .error .typeError

def maxTier : List Int → Int
  | [] => 1
  | tier :: tiers => tiers.foldl max tier

def tierPenalty : Nat := 25

def adjustForExecutionPlan (result : SafetyReviewResult) (generatedSteps : List Dict) :
    Except Exc SafetyReviewResult := do
  let tiers ← generatedSteps.mapM stepTier
  if maxTier tiers < 5 then pure result
  else
    let score := result.riskScore + tierPenalty
    pure { result with
      riskScore := score
      riskLevel := scoreToLevel score
      riskFactors := result.riskFactors ++ [⟨"raw_remote_command_tier",
        "One or more steps use raw remote command execution (tier 5)",tierPenalty⟩] }

/-- The level is that of the score. -/
theorem scoreChangeRequest_level {cr : ChangeRequest} {assets : List Asset}
    {result : SafetyReviewResult} (h : scoreChangeRequest cr assets = .ok result) :
    result.riskLevel = scoreToLevel result.riskScore := by
  obtain ⟨command,_,h⟩ := Checks.bind_eq_ok.mp h
  obtain rfl := Checks.pure_eq_ok.mp h
  rfl

theorem five_le_maxTier {tiers : List Int} : 5 ≤ maxTier tiers ↔ ∃ tier ∈ tiers, 5 ≤ tier := by
  cases tiers with
  | nil => simp [maxTier]
  | cons tier tiers =>
    simp only [maxTier,List.mem_cons,exists_eq_or_imp]
    induction tiers generalizing tier with
    | nil => simp
    | cons t tiers ih =>
      have hmax : 5 ≤ max tier t ↔ 5 ≤ tier ∨ 5 ≤ t := by omega
      rw [List.foldl_cons,ih (max tier t),hmax]
      simp [or_assoc]

/-- The scores that the penalty leaves at their level. -/
def PenaltyAbsorbed (score : Nat) : Prop :=
  score < 5 ∨ 30 ≤ score ∧ score < 35 ∨ 60 ≤ score ∧ score < 65 ∨ 90 ≤ score

theorem penaltyAbsorbed_iff {score : Nat} :
    PenaltyAbsorbed score ↔ scoreToLevel (score + tierPenalty) = scoreToLevel score := by
  unfold PenaltyAbsorbed scoreToLevel tierPenalty
  split_ifs <;> simp <;> omega

end Nexplane
