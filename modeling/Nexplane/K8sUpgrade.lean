import Nexplane.CertificateRollback
import Nexplane.StepLoop

set_option autoImplicit false

/-! The executor of cluster upgrades (pre-flight, control plane, node pools, verify), and the
rollback of its node pools. -/

namespace Nexplane
open PyValue

variable {ω : Type}

def rollbackNote : String :=
  "Control plane upgrade is irreversible. " ++
    "Node pools can be restored to prior image version via FILO rollback."

def buildInitialResult (currentVersion : String) (targetVersion : Json) (provider : String)
    (clusterName clusterId : Json) : Dict :=
  [("current_version",.str currentVersion),("target_version",targetVersion),
    ("provider",.str provider),("cluster_name",clusterName),("cluster_id",clusterId),
    ("phase",.str "preflight"),
    ("preflight",.obj [("version_valid",.bool false),("deprecated_apis",.arr []),
      ("headroom_ok",.bool true),("headroom_detail",.obj [])]),
    ("control_plane",.null),("node_pools",.arr []),("verify",.null),
    ("rollback_capability",.str "partial"),("rollback_note",.str rollbackNote)]

def detectProvider (connector : Connector) : String :=
  if connector.connectorType = "aws" then "eks"
  else if connector.connectorType = "gcp" then "gke"
  else if connector.connectorType = "azure" then "aks"
  else "self_hosted"

/-- `_persist_result`: the newest run, whatever its status. -/
def persistResult (result : Dict) : Py (World ω) Unit := do
  let w ← Py.get
  persistRun (latestRun (fun _ => true) w.runs) result

def upgradeFailure (error : String) : Json := .obj [("error",.str error),("failed",.bool true)]

/-- The result so far, stored and returned. -/
def endUpgrade (result : Dict) : Py (World ω) Json := do
  persistResult result
  pure (.obj result)

def pauseUpgrade (result : Dict) : Py (World ω) Json := do
  let result := result.set "paused" (.bool true)
  persistResult result
  Py.modify fun w => w.setStatus .paused
  pure (.obj result)

def initialPool (startedAt : String) (clusterName : Json) (currentVersion targetPatch : String)
    (nodes : Nat) : Dict :=
  [("index",.int 0),("pool_name",.str "default-workers"),("provider_id",clusterName),
    ("prior_image",.str currentVersion),("target_image",.str targetPatch),
    ("nodes_total",.int nodes),("nodes_upgraded",.int 0),("nodes_failed",.int 0),
    ("started_at",.str startedAt),("completed_at",.null),("result",.str "pending"),
    ("pdb_violations",.arr []),("rollback_result",.null)]

section Phases

variable (env : Env ω) (desired : Dict) (creds : Dict)

/-- Phase 4. -/
def verifyUpgrade (targetPatch : String) (result : Dict) : Py (World ω) Json := do
  let result := result.set "phase" (.str "verify")
  persistResult result
  let verify ← onOutside (env.k8s.runVerifyPhase creds targetPatch desired)
  let result := result.set "verify" (.obj verify)
  if verify.truthy "passed" then endUpgrade (result.set "phase" (.str "complete"))
  else pauseUpgrade result

/-- Phase 3. -/
def upgradePools (provider currentVersion targetPatch : String) (clusterName : Json)
    (result : Dict) : Py (World ω) Json := do
  let result := result.set "phase" (.str "node_pools")
  persistResult result
  let nodes ← onOutside (env.k8s.workerNodes creds)
  let w ← Py.get
  let pool ← onOutside (env.k8s.upgradeNodeRolling creds nodes targetPatch desired
    (initialPool (env.k8s.now w.site.outside) clusterName currentVersion targetPatch nodes.length) provider)
  let result := result.set "node_pools" (.arr [.obj pool])
  if (pool.getD "result" .null).isStr "paused" then pauseUpgrade result
  else verifyUpgrade env desired creds targetPatch result

/-- Phases 1 and 2. -/
def upgradeCluster (connector : Connector) (currentVersion : String) : Py (World ω) Json := do
  let targetVersion := desired.getD "target_version" (.str "")
  let provider := detectProvider connector
  let clusterName := creds.getD "cluster_name" (creds.getD "name" (.str "unknown"))
  let clusterId := creds.getD "cluster_id" clusterName
  let result := buildInitialResult currentVersion targetVersion provider clusterName clusterId
  let (preflight,targetPatch,failed) ← onOutside
    (env.k8s.runPreflightPhase creds currentVersion targetVersion desired)
  let result := result.set "preflight" preflight
  if failed then endUpgrade ((result.set "phase" (.str "preflight")).set "failed" (.bool true))
  else do
    let result := result.set "target_version" (.str targetPatch)
    if desired.truthy "dry_run" then
      endUpgrade ((result.set "phase" (.str "preflight")).set "dry_run" (.bool true))
    else do
      let result := result.set "phase" (.str "control_plane")
      persistResult result
      let controlPlane ← onOutside
        (env.k8s.runControlPlanePhase provider clusterName targetPatch creds connector)
      let result := result.set "control_plane" (.obj controlPlane)
      if (controlPlane.getD "result" .null).isStr "success" then
        upgradePools env desired creds provider currentVersion targetPatch clusterName result
      else endUpgrade (result.set "failed" (.bool true))

end Phases

def executeK8sClusterUpgrade (env : Env ω) : Py (World ω) Json := do
  let w ← Py.get
  let desired := w.cr.desiredOutcome
  let connectorId := desired.getD "connector_id" .null
  if connectorId.truthy = false then
    pure (upgradeFailure "desired_outcome.connector_id is required for k8s_cluster_upgrade")
  else
    match parseUuid connectorId.textOf with
    | .error e => pure (upgradeFailure ("Invalid connector_id: " ++ e.str))
    | .ok id =>
      match w.connectors.find? fun c => c.id = id with
      | none => pure (upgradeFailure ("Connector " ++ id ++ " not found"))
      | some row => do
        let connector ← Py.ofExcept (attachCredentials env row)
        let creds := connector.credentials
        match env.k8s.buildClients creds with
        | .error e => pure (upgradeFailure ("Failed to build k8s clients: " ++ e.str))
        | .ok _ => do
          let version ← Py.attempt (onOutside (env.k8s.clusterVersion creds))
          match version with
          | .error e => pure (upgradeFailure ("Failed to discover cluster version: " ++ e.str))
          | .ok current => upgradeCluster env desired creds connector current

/-- The node pools a rollback works on: the ones that succeeded or paused. -/
def rollbackPools (executionResult : Json) : Except Exc (List Json) := do
  let pools ← executionResult.get "node_pools" (.arr []) >>= Json.iter
  let done ← pools.filterM fun pool => do
    let result ← pool.get "result" .null
    pure (result.isStr "success" || result.isStr "paused")
  byDecreasingIndex (fun pool => do
    match ← pool.get "index" (.int 0) with
    | .int n => pure n
    | _ => .error .typeError) done

/-- The rollback of one pool: its entry, and whether it is a warning. -/
def undoPool (env : Env ω) (creds : Dict) (provider : Json) (pool : Json) :
    Py (Site ω) (Json × Bool) := do
  Py.modify fun s => s.log (.record pool)
  let name ← Py.ofExcept (pool.get "pool_name" (.str "unknown"))
  let prior ← Py.ofExcept (pool.get "prior_image" (.str ""))
  let pausedNode ← Py.ofExcept (pool.get "paused_at_node" .null)
  if pausedNode.truthy then do
    let outcome ← Py.attempt (outside (env.k8s.uncordon creds pausedNode))
    match outcome with
    | .ok _ => pure (.obj [("pool",name),("uncordoned",pausedNode)],false)
    | .error e => pure (.obj [("pool",name),("uncordon_error",.str e.str)],true)
  else
    let entry : Dict := [("pool",name),("prior_image",prior),("rolled_back",.bool true),
      ("note",.str ("Node image rollback is provider-specific; nodes left at current version " ++
        "if cloud provider does not support downgrade"))]
    if provider.isStr "gke" || provider.isStr "aks" then
      pure (.obj (entry.set "warning" (.str (provider.textOf.toUpper ++
        " may reject downgrade to prior version " ++ prior.textOf))),true)
    else pure (.obj entry,false)

/-- The credentials of the cluster's connector, none when anything fails. -/
def clusterCredentials (env : Env ω) (connectors : List Connector) (connectorId : Json) : Dict :=
  match lockedConnector env connectors (some connectorId.textOf) with
  | .ok (some c) => c.credentials
  | _ => []

def executeK8sClusterUpgradeRollback (env : Env ω) (executionResult : Json) :
    Py (World ω) Json := do
  let w ← Py.get
  let pools ← Py.ofExcept (rollbackPools executionResult)
  if pools.isEmpty then
    pure (.obj [("rollback_note",.str rollbackNote),("pools_rolled_back",.arr []),
      ("has_warnings",.bool false)])
  else do
    let recorded ← Py.ofExcept (executionResult.get "connector_id" .null)
    let creds := clusterCredentials env w.connectors
      ((w.cr.desiredOutcome.getD "connector_id" .null).orElse recorded)
    match env.k8s.buildClients creds with
    | .error e => pure (.obj [("error",.str ("Could not build k8s clients for rollback: " ++ e.str)),
        ("has_warnings",.bool true)])
    | .ok _ => do
      let provider ← Py.ofExcept (executionResult.get "provider" (.str "unknown"))
      let entries ← onSite (Py.each (undoPool env creds provider) pools)
      pure (.obj [("rollback_note",.str rollbackNote),
        ("pools_rolled_back",.arr (entries.map Prod.fst)),
        ("has_warnings",.bool (entries.any Prod.snd))])

section Frame

variable {env : Env ω} {desired creds : Dict} {I : World ω → Prop}

theorem persistResult_keeps (hI : ResultWrites I) (result : Dict) :
    Py.Keeps I (persistResult result) :=
  .bind .get fun _ => persistRun_keeps hI _

theorem endUpgrade_keeps (hI : ResultWrites I) (result : Dict) :
    Py.Keeps I (endUpgrade result) :=
  .bind (persistResult_keeps hI _) fun _ => .pure _

variable (hI : RowWrites I)

include hI

theorem pauseUpgrade_keeps (result : Dict) : Py.Keeps I (pauseUpgrade result) :=
  .bind (persistResult_keeps hI.results _) fun _ => .bind (.modify fun w h => hI.status w _ h)
    fun _ => .pure _

theorem verifyUpgrade_keeps (targetPatch : String) (result : Dict) :
    Py.Keeps I (verifyUpgrade env desired creds targetPatch result) := by
  refine .bind (persistResult_keeps hI.results _) fun _ =>
    .bind (onOutside_keeps hI.results _) fun _ => ?_
  exact .ite (endUpgrade_keeps hI.results _) (pauseUpgrade_keeps hI _)

theorem upgradePools_keeps (provider currentVersion targetPatch : String) (clusterName : Json)
    (result : Dict) : Py.Keeps I
      (upgradePools env desired creds provider currentVersion targetPatch clusterName result) := by
  refine .bind (persistResult_keeps hI.results _) fun _ =>
    .bind (onOutside_keeps hI.results _) fun _ =>
    .bind .get fun _ => .bind (onOutside_keeps hI.results _) fun _ => ?_
  exact .ite (pauseUpgrade_keeps hI _) (verifyUpgrade_keeps hI _ _)

theorem upgradeCluster_keeps (connector : Connector) (currentVersion : String) :
    Py.Keeps I (upgradeCluster env desired creds connector currentVersion) := by
  refine .bind (onOutside_keeps hI.results _) fun preflight => ?_
  obtain ⟨preflight,targetPatch,failed⟩ := preflight
  refine .ite (endUpgrade_keeps hI.results _) ?_
  refine .ite (endUpgrade_keeps hI.results _) ?_
  refine .bind (persistResult_keeps hI.results _) fun _ =>
    .bind (onOutside_keeps hI.results _) fun _ => ?_
  exact .ite (upgradePools_keeps hI _ _ _ _ _) (endUpgrade_keeps hI.results _)

theorem executeK8sClusterUpgrade_keeps : Py.Keeps I (executeK8sClusterUpgrade env) := by
  refine .bind .get fun w => ?_
  refine .ite (.pure _) ?_
  split
  · exact .pure _
  · split
    · exact .pure _
    · refine .bind (.ofExcept _) fun connector => ?_
      dsimp only
      split
      · exact .pure _
      · refine .bind (.attempt (onOutside_keeps hI.results _)) fun version => ?_
        cases version with
        | error e => exact .pure _
        | ok current => exact upgradeCluster_keeps hI _ _

end Frame

end Nexplane
