import Nexplane.CertificateRotation

set_option autoImplicit false

/-! The rollback of a certificate rotation: every dependent, by decreasing index, gets its snapshot
back or a freshly issued certificate. -/

namespace Nexplane
open PyValue

variable {ω : Type}

/-- A host whose snapshot can be restored. -/
def restorable (env : Env ω) (dep : Json) : Except Exc Bool := do
  let kind ← dep.index "type"
  let snapshot ← dep.get "snapshot" .null
  let fingerprint ← dep.get "snapshot_fingerprint" .null
  pure (kind.isStr "host" && snapshot.truthy && fingerprint.truthy &&
    env.certificate.certHas24hRemaining snapshot)

/-- The search for a restorable host stops at the first one. -/
def anyRestorable (env : Env ω) : List Json → Except Exc Bool
  | [] => pure false
  | dep :: dependents => do
    let found ← restorable env dep
    if found then pure true else anyRestorable env dependents

def globalStrategy (env : Env ω) (desired : Dict) (dependents : List Json) :
    Except Exc String := do
  if (desired.getD "trigger_reason" (.str "scheduled")).isStr "compromise" then pure "reissue"
  else do
    let found ← anyRestorable env dependents
    pure (if found then "restore" else "reissue")

section Undo

variable (env : Env ω) (cr : ChangeRequest) (connectors : List Connector)

/-- A new certificate, pushed to one dependent; its update result. -/
def reissue (dep : Json) : Py ω Json := do
  let connector ← Py.ofExcept (loadStepCaConnector env connectors cr.organizationId)
  let rotation ← rotateCertificate env cr.desiredOutcome connector
  let fresh ← updateDependent env connectors rotation dep
  Py.ofExcept (fresh.get "update_result" .null)

/-- The outcome fields of a re-issue that succeeded or not. -/
def reissued (result : Json) (ok : Json) (failure : String) : Except Exc Dict :=
  if ok.truthy then .ok [("rollback_result",result),("rolled_back",ok)]
  else do
    let error ← (result.orElse (.obj [])).get "error" (.str failure)
    pure [("rollback_result",result),("rolled_back",ok),("error",error)]

def restored (result : Json) : Dict := [("rollback_result",result),("rolled_back",.bool true)]

/-- What restoring or re-issuing sets on the rollback step. -/
def undoCertificate (strategy : String) (connector : Option Connector) (dep : Json) :
    Py ω Dict := do
  let snapshot ← Py.ofExcept (dep.get "snapshot" .null)
  if strategy = "restore" ∧ snapshot.truthy = true then do
    let fields ← Py.ofExcept dep.mapping
    let kind ← Py.ofExcept (dep.index "type")
    if kind.isStr "host" then
      if fields.truthy "snapshot_key" then do
        let result ← runExecutor env "nexplane_agent" "manage_tls_certificates"
          [("cert_pem",snapshot),("key_pem",fields.getD "snapshot_key" .null),
            ("reload_command",fields.getD "reload_command" (.str "nginx -s reload"))]
          [Json.textOf (fields.getD "asset_id" (.str ""))] connector
        pure (restored result)
      else do
        -- A probe never yields the private key, so a host falls back to a re-issue.
        let result ← reissue env cr connectors dep
        let ok ← Py.ofExcept (updateSucceeded (result.orElse (.obj [])))
        Py.ofExcept (reissued result (.bool ok) "Re-issue fallback failed (no snapshot_key)")
    else if kind.isStr "k8s_secret" then do
      let client ← Py.ofExcept
        (if connector.isSome then env.certificate.hasK8sClient connector else .ok false)
      if client then do
        let name ← Py.ofExcept (dep.index "name")
        env.certificate.patchNamespacedSecret connector name
          (fields.getD "namespace" (.str "default")) snapshot
        pure (restored (.obj [("success",.bool true)]))
      else pure [("error",.str "No K8s client for rollback"),("rolled_back",.bool true)]
    else if kind.isStr "aws_secret" then do
      let secretId ← Py.ofExcept (dep.index "secret_id")
      let result ← runExecutor env "aws" "rotate_secrets_manager_secret"
        [("secret_id",secretId),("new_value",snapshot)] [] connector
      pure (restored result)
    else pure [("error",.str ("Cannot restore unknown type: " ++ Json.textOf kind))]
  else do
    let result ← reissue env cr connectors dep
    let ok ← Py.ofExcept ((result.orElse (.obj [])).get "success" (.bool false))
    Py.ofExcept (reissued result ok "Re-issue failed")

/-- The strategy a step reports: a host without its private key is re-issued. -/
def reportedStrategy (strategy : String) (dep : Json) : String :=
  match dep with
  | .obj d =>
    if strategy = "restore" ∧ Dict.truthy d "snapshot" = true ∧
        (Dict.getD d "type" .null).isStr "host" = true ∧ Dict.truthy d "snapshot_key" = false
    then "reissue" else strategy
  | _ => strategy

/-- The rollback step of one dependent. -/
def undoDependent (strategy : String) (dep : Json) : Py (Site ω) Json := do
  Py.modify fun s => s.log (.record dep)
  let index ← Py.ofExcept (dep.index "index")
  let step : Dict := [("index",index),("strategy",.str strategy),("rolled_back",.bool false),
    ("error",.null)]
  let loaded ← Py.attempt (Py.ofExcept (do
    let connectorType ← dep.index "connector_type"
    let connectorId ← dep.get "connector_id" .null
    loadConnector env connectors connectorType connectorId none))
  match loaded with
  | .error e => pure (.obj (step.set "error" (.str e.str)))
  | .ok connector => do
    let step := step.set "strategy" (.str (reportedStrategy strategy dep))
    let outcome ← Py.attempt (outside (undoCertificate env cr connectors strategy connector dep))
    match outcome with
    | .ok fields => pure (.obj (step.merge fields))
    | .error e => pure (.obj (step.set "error" (.str e.str)))

end Undo

/-- `sorted(dependents, key=index, reverse=True)`, which keeps the order of equal indexes. -/
def byDecreasingIndex (key : Json → Except Exc Int) (items : List Json) :
    Except Exc (List Json) := do
  let keyed ← items.mapM fun item => do
    let n ← key item
    pure (n,item)
  pure ((keyed.mergeSort fun a b => b.1 ≤ a.1).map Prod.snd)

def stepRolledBack (step : Json) : Bool :=
  match step with
  | .obj d => Dict.truthy d "rolled_back"
  | _ => false

def executeCertificateRollback (env : Env ω) (executionResult : Json) : Py (World ω) Json := do
  let w ← Py.get
  let dependents ← Py.ofExcept (executionResult.get "dependents" (.arr []) >>= Json.iter)
  let strategy ← Py.ofExcept (globalStrategy env w.cr.desiredOutcome dependents)
  let ordered ← Py.ofExcept (byDecreasingIndex indexOf dependents)
  let steps ← onSite (Py.each (undoDependent env w.cr w.connectors strategy) ordered)
  let all := steps.all stepRolledBack
  pure (.obj [("rollback_steps",.arr steps),("all_rolled_back",.bool all),
    ("has_warnings",.bool !all),("rollback_strategy",.str strategy)])

section Frame

variable {env : Env ω} {cr : ChangeRequest} {connectors : List Connector} {J : Site ω → Prop}
  (hJ : ∀ (s : Site ω) o, J s → J { s with outside := o })

include hJ

/-- Once its record is logged, the rollback of a dependent only calls the outside. -/
theorem undoDependent_frame (strategy : String) (dep : Json) (s : Site ω)
    (hs : J (s.log (.record dep))) : J (undoDependent env cr connectors strategy dep s).2 := by
  refine (Py.Keeps.bind (.ofExcept _) fun index => .bind (.attempt (.ofExcept _)) fun loaded => ?_ :
    Py.Keeps J _) (s.log (.record dep)) hs
  cases loaded with
  | error e => exact .pure _
  | ok connector =>
    refine .bind (.attempt (outside_keeps hJ _)) fun outcome => ?_
    cases outcome with
    | ok fields => exact .pure _
    | error e => exact .pure _

end Frame

end Nexplane
