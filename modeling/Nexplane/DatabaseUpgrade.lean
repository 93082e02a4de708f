import Nexplane.UpgradeExecutors

set_option autoImplicit false

/-! The executor of a major version upgrade of a database. -/

namespace Nexplane
open PyValue Text

/-- The port and the user of an engine, absent for an engine that is not supported. -/
def engineDefaults : Json → Option (Int × String)
  | .str "postgres" => some (5432,"postgres")
  | .str "mysql" => some (3306,"root")
  | .str "mongodb" => some (27017,"admin")
  | _ => none

def resolveDbParams (parameters : Dict) (engine : Json) (defaults : Int × String) :
    Except Exc Dict := do
  let target ← (Json.obj parameters).index "target_version"
  return [("engine",engine),("source_version",parameters.getD "source_version" .null),
    ("target_version",target),("strategy",parameters.getD "strategy" (.str "dump_restore")),
    ("db_host",parameters.getD "db_host" (.str "localhost")),
    ("db_port",parameters.getD "db_port" (.int defaults.1)),
    ("db_name",parameters.getD "db_name" .null),
    ("db_user",parameters.getD "db_user" (.str defaults.2)),
    ("db_password",parameters.getD "db_password" .null),
    ("rds_instance_id",parameters.getD "rds_instance_id" .null),
    ("snapshot_s3_bucket",parameters.getD "snapshot_s3_bucket" .null),
    ("health_check_url",parameters.getD "health_check_url" .null),
    ("dry_run",.bool (parameters.truthy "dry_run")),
    ("skip_snapshot",.bool (parameters.truthy "skip_snapshot")),
    ("mongo_fcv_chain",parameters.getD "mongo_fcv_chain" .null)]

/-- `SELECT version();` and its like, by engine. -/
def smokeCommand (engine : Json) : Json :=
  match engine with
  | .str "postgres" => .str "SELECT version();"
  | .str "mysql" => .str "SELECT @@version;"
  | _ => .str "db.version()"

section Database

variable (env : UpgradeEnv)

/-- No database dump: a volume is what is left. -/
def usesEbs (p : Dict) : Bool :=
  !p.truthy "rds_instance_id" && !((p.getD "strategy" .null).isStr "dump_restore" &&
    (!p.truthy "snapshot_s3_bucket" || (p.getD "engine" .null).isStr "postgres"))

def dbTakeSnapshot (assetId : String) (p : Dict) : Py UpgradeLog Dict := do
  if usesEbs p then
    let asset ← Py.ofExcept (env.asset assetId)
    let instanceId ← Py.ofExcept ((metadataOf asset).get "instance_id" .null)
    if !instanceId.truthy then
      Py.raise (.runtimeError ("Cannot take EBS snapshot: no instance_id in asset metadata for " ++
        assetId ++ ". Set rds_instance_id or snapshot_s3_bucket for non-EBS deployments."))
    else
      let snap ← ebsTake env instanceId
      pure [("snapshot_type",.str "ebs_snapshot"),("snapshot_id",.str snap.snapshotId),
        ("snapshot_meta",.obj snap.meta),("snapshot_completed_at",.str env.now)]
  else Py.ofExcept (env.otherSnapshot assetId p)

def dbUpgrade (assetId : String) (p : Dict) : Py UpgradeLog Dict := do
  let engine := p.getD "engine" .null
  let strategy := p.getD "strategy" .null
  let command :=
    if engine.isStr "postgres" then
      if strategy.isStr "dump_restore" then "db_upgrade_postgres_dump_restore"
      else "db_upgrade_postgres_in_place"
    else if engine.isStr "mysql" then "db_upgrade_mysql"
    else "db_upgrade_mongo_dump_restore"
  let result ← dispatchAgentJob env command p (.str assetId)
  pure ([("upgrade_status",.str "completed"),("engine",engine)] ++
    (if engine.isStr "postgres" then [("strategy",strategy)] else []) ++
    [("agent_result",.obj result),("upgraded_at",.str env.now)])

/-- The port of the upgraded server; after a restored dump it is the one the agent names, else the
next one. -/
def verifyPort (p upgradeResult : Dict) : Except Exc Json :=
  let dbPort := p.getD "db_port" .null
  if (p.getD "strategy" .null).isStr "dump_restore" then do
    let targetPort ← (upgradeResult.getD "agent_result" (.obj [])).get "target_port" .null
    if targetPort.truthy then pure targetPort
    else if dbPort.truthy then do
      let port ← env.toInt dbPort
      pure (.int (port + 1))
    else pure dbPort
  else .ok dbPort

/-- `target_version in stdout`, with the text that is stripped afterwards. -/
def smokeOk (target stdout : Json) : Except Exc (Bool × List Char) :=
  match target,stdout with
  | .str target, .str stdout => .ok (hasText target stdout,stdout.toList)
  | _, .str _ => .error .typeError
  | _, _ => .error .attributeError

/-- A status that a health check accepts. -/
def isSuccess (status : Option Int) : Bool := status.any fun s => 200 ≤ s ∧ s < 300

/-- The attempts from `attempt` on, `left` of them: the status read last and their number. -/
def healthCheck : Nat → Nat → Option Int → Option Int × Nat
  | 0, attempt, status => (status,attempt)
  | left + 1, attempt, status =>
    let status := (env.httpGet attempt).or status
    if isSuccess (env.httpGet attempt) then (status,attempt + 1)
    else healthCheck left (attempt + 1) status

def dbVerify (assetId : String) (p upgradeResult : Dict) : Py UpgradeLog Dict := do
  let engine := p.getD "engine" .null
  let port ← Py.ofExcept (verifyPort env p upgradeResult)
  let result ← dispatchAgentJob env "db_version_query"
    [("engine",engine),("query",smokeCommand engine),("db_user",p.getD "db_user" .null),
      ("db_password",p.getD "db_password" .null),("db_port",port),
      ("db_host",p.getD "db_host" (.str "localhost"))] (.str assetId)
  let (smoke,stdout) ← Py.ofExcept
    (smokeOk (p.getD "target_version" .null) (result.getD "stdout" (.str "")))
  let url := p.getD "health_check_url" .null
  let health := healthCheck env 3 0 none
  let passed := smoke && (!url.truthy || isSuccess health.1)
  pure ([("verify_status",.str (if passed then "passed" else "failed")),
    ("db_version_confirmed",.str (String.ofList ((strip stdout).take 200))),
    ("smoke_query_ok",.bool smoke)] ++
    if url.truthy then
      [("health_check_url",url),("health_check_status",health.1.elim .null .int),
        ("health_check_attempts",.int health.2)]
    else [])

/-- From the upgrade on. -/
def dbFromUpgrade (assetId : String) (p snapshotResult : Dict) : Py UpgradeLog Dict := do
  let answer ← Py.attempt (dbUpgrade env assetId p)
  match answer with
  | .error e =>
    pure [("status",.str "upgrade_failed"),("error",.str e.str),
      ("snapshot_result",.obj snapshotResult),("upgrade_result",.null)]
  | .ok upgradeResult =>
    let verifyResult ← dbVerify env assetId p upgradeResult
    let passed := (verifyResult.getD "verify_status" (.str "failed")).isStr "passed"
    pure [("status",.str (if passed then "completed" else "verify_failed")),
      ("engine",p.getD "engine" .null),("source_version",p.getD "source_version" .null),
      ("target_version",p.getD "target_version" .null),("snapshot_result",.obj snapshotResult),
      ("upgrade_result",.obj upgradeResult),("verify_result",.obj verifyResult),
      ("asset_id",.str assetId),("completed_at",.str env.now)]

/-- Production assets are not upgraded without a snapshot. -/
def requireSnapshot (assetId : String) (p : Dict) : Except Exc Unit :=
  if p.truthy "skip_snapshot" then do
    let asset ← env.asset assetId
    let environment ← (metadataOf asset).get "environment" .null
    if environment.isStr "prod" then
      .error (.runtimeError ("skip_snapshot=True is not permitted on prod assets. " ++
        "Remove skip_snapshot or override environment tag."))
    else pure ()
  else .ok ()

def dbExecute (parameters : Dict) : List String → Py UpgradeLog Dict
  | [] => Py.raise (.valueError "asset_ids required")
  | assetId :: _ =>
    let engine := parameters.getD "engine" .null
    match engineDefaults engine with
    | none => Py.raise (.valueError ("engine must be one of ['postgres', 'mysql', 'mongodb'] — got "
        ++ String.ofList (reprJson env.printable engine)))
    | some defaults => do
      let p ← Py.ofExcept (resolveDbParams parameters engine defaults)
      Py.ofExcept (requireSnapshot env assetId p)
      let preflight ← dispatchAgentJob env "db_preflight" p (.str assetId)
      if (preflight.getD "status" .null).isStr "preflight_blocked" || p.truthy "dry_run" then
        pure preflight
      else
        let snapshotResult ←
          if p.truthy "skip_snapshot" then
            pure [("snapshot_type",.str "skipped"),("snapshot_id",.null)]
          else dbTakeSnapshot env assetId p
        dbFromUpgrade env assetId p snapshotResult

/-- `_rollback_ebs`. -/
def dbRollbackEbs (assetId : Json) (snapshotResult : Dict) : Py UpgradeLog Dict := do
  let snapshotId ← Py.ofExcept ((Json.obj snapshotResult).index "snapshot_id")
  let snapshotMeta ← Py.ofExcept (dictOf (snapshotResult.getD "snapshot_meta" (.obj [])))
  if !Dict.truthy snapshotMeta "instance_id" then
    pure [("rolled_back",.bool false),
      ("reason",.str "snapshot_meta missing instance_id — cannot perform automated EBS restore"),
      ("snapshot_id",snapshotId),
      ("manual_steps",manualSteps env snapshotId "3. Detach current data volume"
        "4. Attach restored volume at original device name")]
  else
    let result ← ebsRestore env ⟨assetId,snapshotId,snapshotMeta⟩
    pure [("rolled_back",result.getD "agent_recovered" (.bool false)),
      ("strategy",.str "ebs_volume_swap"),("snapshot_id",snapshotId),
      ("new_volume_id",result.getD "new_volume_id" .null),
      ("old_volume_id",result.getD "old_volume_id" .null),
      ("agent_recovered",result.getD "agent_recovered" .null),
      ("notes",.str "Old volume tagged nexplane-rollback-orphan for operator cleanup")]

def dbRollback (parameters executionResult : Dict) : Py UpgradeLog Dict := do
  let snapshotResult ← Py.ofExcept (subDict executionResult "snapshot_result")
  let snapshotType := snapshotResult.getD "snapshot_type" .null
  if !snapshotType.truthy || snapshotType.isStr "skipped" ||
      !snapshotResult.truthy "snapshot_id" then
    pure [("rolled_back",.bool false),("reason",.str "no_snapshot_available")]
  else
    let given := executionResult.getD "asset_id" .null
    let first ← if given.truthy then pure .null else Py.ofExcept (firstAssetId parameters)
    let assetId := given.orElse (.str (pyStr env.printable first))
    let other := ["rds_snapshot", "s3_dump", "local_dump", "fcv_reversible"].any fun kind =>
      snapshotType.isStr kind
    Py.tryExcept
      (if other then Py.ofExcept (env.otherRollback assetId snapshotResult parameters)
        else dbRollbackEbs env assetId snapshotResult)
      fun e => pure [("rolled_back",.bool false),("reason",.str e.str),
        ("snapshot_result",.obj snapshotResult)]

end Database

end Nexplane
