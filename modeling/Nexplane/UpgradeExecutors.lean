import Nexplane.DriftNormalization
import Nexplane.KernelUpgrade
import Nexplane.Lib.Py

set_option autoImplicit false

/-! The executor of kernel upgrades: a snapshot, the upgrade on the host, its verification, and the
rollback to the snapshot. -/

namespace Nexplane
open PyValue Text

/-- What `_take_snapshot` reports; what the cloud names is not empty. -/
structure EbsSnapshot where
  snapshotId : String
  rootVolumeId : String
  rootDeviceName : String
  availabilityZone : String
  region : String
  instanceId : String
  named : snapshotId ≠ "" ∧ rootVolumeId ≠ "" ∧ availabilityZone ≠ "" ∧ instanceId ≠ ""

def EbsSnapshot.meta (snap : EbsSnapshot) : Dict :=
  [("snapshot_id",.str snap.snapshotId),("root_volume_id",.str snap.rootVolumeId),
    ("root_device_name",.str snap.rootDeviceName),
    ("availability_zone",.str snap.availabilityZone),("region",.str snap.region),
    ("instance_id",.str snap.instanceId)]

/-- A call of `_restore_snapshot`. -/
structure RestoreCall where
  assetId : Json
  snapshotId : Json
  snapshotMeta : Dict

/-- The answers from outside: of the agent's jobs, the assets' metadata, the cloud, and the
heartbeats. `toInt` is `int(v)`, `otherSnapshot` and `otherRollback` are the database strategies
that do not use the cloud's volumes. -/
structure UpgradeEnv where
  dispatch : String → Dict → Json → Except Exc Dict
  asset : String → Except Exc (Option Json)
  awsCreds : Except Exc Dict
  takeSnapshot : Json → Except Exc EbsSnapshot
  restore : RestoreCall → Except Exc (String × Bool)
  waitForAgent : Bool
  httpGet : Nat → Option Int
  toInt : Json → Except Exc Int
  otherSnapshot : String → Dict → Except Exc Dict
  otherRollback : Json → Dict → Dict → Except Exc Dict
  printable : Char → Bool
  now : String

/-- The snapshots that were taken and the restores that were called. -/
structure UpgradeLog where
  snapshots : List EbsSnapshot := []
  restores : List RestoreCall := []

/-- The keys of a snapshot in a result, null where there is none. -/
def snapKey (snapshot : Option EbsSnapshot) (key : String) : Json :=
  Dict.getD (snapshot.elim [] EbsSnapshot.meta) key .null

/-- `verify_kernel_upgrade` on the host: `current` is what `uname -r` prints. -/
def verifyKernelOS (now : String) (parameters : Dict) (current : String) : Dict :=
  let targetKernel := (parameters.getD "target_kernel" .null).textOf
  [("verified",.bool (versionMatch targetKernel current)),("running_kernel",.str current),
    ("target_kernel",.str targetKernel),("verified_at",.str now)]

section Executors

variable (env : UpgradeEnv)

def dispatchAgentJob (command : String) (parameters : Dict) (assetId : Json) :
    Py UpgradeLog Dict :=
  Py.ofExcept (env.dispatch command parameters assetId)

def ebsTake (instanceId : Json) : Py UpgradeLog EbsSnapshot := do
  let snap ← Py.ofExcept (env.takeSnapshot instanceId)
  Py.modify fun log => { log with snapshots := log.snapshots ++ [snap] }
  pure snap

/-- The instance, the volume and the zone are there. -/
def RestoreCall.complete (call : RestoreCall) : Bool :=
  (call.snapshotMeta.getD "instance_id" .null).truthy &&
    (call.snapshotMeta.getD "root_volume_id" .null).truthy &&
    (call.snapshotMeta.getD "availability_zone" .null).truthy

def ebsRestore (call : RestoreCall) : Py UpgradeLog Dict := do
  Py.modify fun log => { log with restores := log.restores ++ [call] }
  if call.complete then
    let (newVolumeId,agentRecovered) ← Py.ofExcept (env.restore call)
    pure [("restored",.bool true),("new_volume_id",.str newVolumeId),
      ("old_volume_id",call.snapshotMeta.getD "root_volume_id" .null),
      ("instance_id",call.snapshotMeta.getD "instance_id" .null),
      ("agent_recovered",.bool agentRecovered)]
  else
    Py.raise (.runtimeError ("Incomplete snapshot_meta for restore: " ++
      pyStr env.printable (.obj call.snapshotMeta)))

/-- `asset.asset_metadata or {}`, empty without an asset. -/
def metadataOf (asset : Option Json) : Json :=
  asset.elim (.obj []) fun metadata => metadata.orElse (.obj [])

/-- A value whose keys are read with `.get`. -/
def dictOf : Json → Except Exc Dict
  | .obj d => .ok d
  | _ => .error .attributeError

/-- `d.get("snapshot_meta") or {}` with its keys read. -/
def subDict (d : Dict) (key : String) : Except Exc Dict :=
  dictOf ((d.getD key .null).orElse (.obj []))

/-- `(parameters.get("asset_ids") or [None])[0]`. -/
def firstAssetId (parameters : Dict) : Except Exc Json :=
  match (parameters.getD "asset_ids" .null).orElse (.arr [.null]) with
  | .arr (v :: _) => .ok v
  | _ => .error (.keyError "0")

def manualSteps (snapshotId : Json) (detach attach : String) : Json :=
  .arr [.str "1. Stop the EC2 instance",
    .str ("2. aws ec2 create-volume --snapshot-id " ++ pyStr env.printable snapshotId ++
      " --availability-zone <az>"),
    .str detach,.str attach,.str "5. Start instance"]

section KernelUpgrade

/-- `parameters.get("desired_outcome") or parameters`. -/
def upgradeParams (parameters : Dict) : Except Exc Dict :=
  dictOf ((parameters.getD "desired_outcome" .null).orElse (.obj parameters))

def resolveInstanceId (assetId : String) : Json :=
  match env.asset assetId with
  | .ok (some metadata) => ((metadata.orElse (.obj [])).get "instance_id" .null).toOption.getD .null
  | _ => .null

/-- No exception of the snapshot stops a kernel upgrade. -/
def kernelTakeSnapshot (assetId : String) : Py UpgradeLog (Option EbsSnapshot) :=
  Py.tryExcept (do
    let creds ← Py.ofExcept env.awsCreds
    if (creds.getD "access_key_id" .null).truthy && (resolveInstanceId env assetId).truthy then
      let snap ← ebsTake env (resolveInstanceId env assetId)
      pure (some snap)
    else pure none)
  fun _ => pure none

def grubRollback (assetId previousKernel : Json) : Py UpgradeLog Dict := do
  if !previousKernel.truthy then
    pure [("strategy",.str "none"),("rolled_back",.bool false),
      ("reason",.str "No previous_kernel and no snapshot")]
  else
    let answer ← Py.attempt (dispatchAgentJob env "rollback_kernel_upgrade"
      [("previous_kernel",previousKernel)] assetId)
    match answer with
    | .error e =>
      pure [("strategy",.str "grub_fallback"),("rolled_back",.bool false),("error",.str e.str)]
    | .ok rb =>
      let rolledBack := rb.getD "rolled_back" (.bool false)
      pure [("strategy",.str "grub_fallback"),
        ("rolled_back",if rolledBack.truthy then .bool env.waitForAgent else rolledBack),
        ("reboot_result",.obj rb),("agent_recovered",.bool env.waitForAgent)]

/-- `_do_rollback`: the volume where there is a snapshot, else, or if that fails, the boot entry. -/
def kernelRollback (assetId previousKernel : Json) (snapResult : Dict) : Py UpgradeLog Dict := do
  if (snapResult.getD "snapshot_id" .null).truthy then
    let answer ← Py.attempt
      (ebsRestore env ⟨assetId,snapResult.getD "snapshot_id" .null,snapResult⟩)
    match answer with
    | .ok restore =>
      pure (Dict.merge [("strategy",.str "ebs_restore"),("rolled_back",.bool true)] restore)
    | .error _ => grubRollback env assetId previousKernel
  else grubRollback env assetId previousKernel

/-- The keys of a snapshot that a later rollback reads, besides its id. -/
def snapKeys (snapshot : Option EbsSnapshot) : Dict :=
  [("instance_id",snapKey snapshot "instance_id"),
    ("root_volume_id",snapKey snapshot "root_volume_id"),
    ("root_device_name",snapKey snapshot "root_device_name"),
    ("availability_zone",snapKey snapshot "availability_zone"),
    ("region",snapKey snapshot "region")]

/-- `restartFailed` is set in the second pass, which starts what is down. -/
def verifyServices (assetId : String) (pf : Dict) (restartFailed : Bool) : Py UpgradeLog Dict :=
  dispatchAgentJob env "verify_services_post_kernel_upgrade"
    [("expected_services",pf.getD "running_services" (.arr [])),
      ("expected_containers",pf.getD "running_containers" (.arr [])),
      ("restart_failed",.bool restartFailed)] (.str assetId)

def healthy (check : Dict) : Bool := check.truthy "services_healthy"

/-- The last step: `check` is what the services are found to be. -/
def kernelFinish (assetId : String) (target previousKernel : Json) (pf : Dict)
    (snapshot : Option EbsSnapshot) (verify check : Dict) : Py UpgradeLog Dict := do
  if !healthy check then
    let rollback ← kernelRollback env (.str assetId) previousKernel
      (snapshot.elim [] EbsSnapshot.meta)
    pure [("status",.str "service_health_failed"),("phase",.str "verify_services"),
      ("running_kernel",verify.getD "running_kernel" .null),
      ("failed_services",check.getD "failed_services" .null),
      ("failed_containers",check.getD "failed_containers" .null),
      ("previous_kernel",previousKernel),("snapshot_id",snapKey snapshot "snapshot_id"),
      ("rollback",.obj rollback),("asset_id",.str assetId)]
  else
    pure ([("status",.str "completed"),("new_kernel",verify.getD "running_kernel" .null),
      ("previous_kernel",previousKernel),("target_kernel",target),
      ("snapshot_id",snapKey snapshot "snapshot_id")] ++ snapKeys snapshot ++
      [("services_verified",check.getD "services_healthy" .null),
      ("preflight_warnings",pf.getD "warnings" (.arr [])),("asset_id",.str assetId),
      ("upgraded_at",.str env.now)])

/-- The steps after the reboot: the running kernel, then the services. -/
def kernelVerify (assetId : String) (target previousKernel : Json) (pf : Dict)
    (snapshot : Option EbsSnapshot) : Py UpgradeLog Dict := do
  let verify ← dispatchAgentJob env "verify_kernel_upgrade" [("target_kernel",target)]
    (.str assetId)
  if !verify.truthy "verified" then
    let rollback ← kernelRollback env (.str assetId) previousKernel
      (snapshot.elim [] EbsSnapshot.meta)
    pure [("status",.str "verify_failed"),("phase",.str "verify_kernel"),
      ("running_kernel",verify.getD "running_kernel" .null),("target_kernel",target),
      ("previous_kernel",previousKernel),("snapshot_id",snapKey snapshot "snapshot_id"),
      ("rollback",.obj rollback),("asset_id",.str assetId)]
  else
    let first ← verifyServices env assetId pf false
    let check ← if healthy first then pure first else verifyServices env assetId pf true
    kernelFinish env assetId target previousKernel pf snapshot verify check

/-- The result of the installation says that it failed. -/
def installFailed (result : Dict) : Bool :=
  result.truthy "error" || (result.getD "status" .null).isStr "error"

/-- The installation and the reboot. -/
def kernelInstall (assetId : String) (target : Json) (pf : Dict)
    (snapshot : Option EbsSnapshot) : Py UpgradeLog Dict := do
  let result ← dispatchAgentJob env "execute_kernel_upgrade"
    [("target_kernel",target),("already_installed",pf.getD "already_installed" (.bool false))]
    (.str assetId)
  let currentKernel := pf.getD "current_kernel" (.str "")
  let previousKernel := result.getD "previous_kernel" currentKernel
  if installFailed result then
    pure [("status",.str "failed"),("phase",.str "execute_kernel_upgrade"),
      ("reason",(result.getD "error" .null).orElse
        (result.getD "message" (.str "kernel install failed"))),
      ("target_kernel",target),("previous_kernel",currentKernel),
      ("snapshot_id",snapKey snapshot "snapshot_id"),("asset_id",.str assetId)]
  else if !env.waitForAgent then
    pure ([("status",.str "failed"),("phase",.str "reboot_wait"),
      ("reason",.str "Agent did not re-register within 1800s after reboot"),
      ("target_kernel",target),("previous_kernel",previousKernel),
      ("snapshot_id",snapKey snapshot "snapshot_id")] ++ snapKeys snapshot ++
      [("asset_id",.str assetId),
      ("data_loss_warning",.str ("System did not come back after kernel upgrade reboot. " ++
        "If this is a cloud instance, restore the pre-upgrade EBS snapshot. " ++
        "If bare-metal, manually set old kernel as GRUB default and reboot."))])
  else kernelVerify env assetId target previousKernel pf snapshot

/-- The steps after the snapshot; a dry run ends with it. -/
def kernelFromSnapshot (p : Dict) (assetId : String) (target : Json) (pf : Dict)
    (snapshot : Option EbsSnapshot) : Py UpgradeLog Dict :=
  if (p.getD "dry_run" (.bool false)).truthy then
    pure [("status",.str "dry_run"),("preflight",.obj pf),
      ("snapshot_id",snapKey snapshot "snapshot_id"),("target_kernel",target),
      ("asset_id",.str assetId)]
  else kernelInstall env assetId target pf snapshot

def kernelExecute (parameters : Dict) : List String → Py UpgradeLog Dict
  | [] => Py.raise (.valueError "asset_ids required")
  | assetId :: _ => do
    let p ← Py.ofExcept (upgradeParams parameters)
    let target := p.getD "target_kernel" (.str "")
    if !target.truthy then
      Py.raise (.valueError ("target_kernel required (e.g. '6.1.0-21-generic' or " ++
        "'6.1.0-21.21.amzn2.x86_64')"))
    else
      let pf ← dispatchAgentJob env "preflight_kernel_upgrade" [("target_kernel",target)]
        (.str assetId)
      if (pf.getD "status" .null).isStr "blocked" then
        pure [("status",.str "failed"),("phase",.str "preflight"),
          ("reason",pf.getD "reason" .null),("current_kernel",pf.getD "current_kernel" .null),
          ("target_kernel",target),("asset_id",.str assetId)]
      else
        let _ ← Py.ofExcept (pf.getD "warnings" (.arr [])).iter
        let snapshot ←
          if (p.getD "skip_snapshot" (.bool false)).truthy then pure none
          else kernelTakeSnapshot env assetId
        kernelFromSnapshot env p assetId target pf snapshot

def kernelRollbackModule (parameters executionResult : Dict) : Py UpgradeLog Dict := do
  let given := executionResult.getD "asset_id" .null
  let first ← if given.truthy then pure .null else Py.ofExcept (firstAssetId parameters)
  let assetId := given.orElse (.str (pyStr env.printable (first.orElse (.str ""))))
  if !assetId.truthy then
    pure [("rolled_back",.bool false),
      ("reason",.str "No asset_id in execution_result — cannot determine target host"),
      ("data_loss_warning",.str ("Manual intervention required: identify the host and boot " ++
        "the previous kernel by editing GRUB or restoring the pre-upgrade EBS snapshot."))]
  else
    let result ← kernelRollback env assetId (executionResult.getD "previous_kernel" (.str ""))
      (["snapshot_id", "instance_id", "root_volume_id", "root_device_name", "availability_zone",
        "region"].map fun key => (key,executionResult.getD key .null))
    pure (Dict.set result "data_loss_warning" (.str ("Kernel was reverted to the previous " ++
      "version. Any kernel-specific configuration or DKMS module changes made for the new " ++
      "kernel are still on disk but inactive. Verify system services after rollback.")))

end KernelUpgrade

end Executors

end Nexplane
