import Nexplane.CredentialRotation
import Mathlib.Data.List.Sort

set_option autoImplicit false

/-! The five phases of a certificate rotation (scan, snapshot, rotate, update, verify), each
skipped for what an earlier run has done, and the rollback over its dependents. -/

namespace Nexplane
open PyValue

variable {ω : Type}

/-- `text.strip()`. -/
def stripText (text : String) : String :=
  String.ofList (((text.toList.dropWhile Char.isWhitespace).reverse.dropWhile
    Char.isWhitespace).reverse)

def loadConnector (env : Env ω) (connectors : List Connector) (connectorType connectorId : Json)
    (organizationId : Option Uuid) : Except Exc (Option Connector) := do
  let byId : Option Connector :=
    if connectorId.truthy then
      match asText connectorId >>= parseUuid with
      | .ok id => connectors.find? fun c => c.id = id
      | .error _ => none
    else none
  let connector ←
    if byId.isNone ∧ connectorType.truthy = true then do
      let text ← asText connectorType
      if env.isConnectorType text then
        pure (connectors.find? fun c => c.connectorType = text &&
          organizationId.all fun org => c.organizationId = org)
      else .error (.valueError ("'" ++ text ++ "' is not a valid ConnectorType"))
    else pure byId
  connector.mapM (attachCredentials env)

def loadStepCaConnector (env : Env ω) (connectors : List Connector) (organizationId : Uuid) :
    Except Exc (Option Connector) :=
  (connectors.find? fun c => c.organizationId = organizationId && c.connectorType = "step_ca").mapM
    (attachCredentials env)

/-- The `execute` of an executor module, with no target assets but the given ones. -/
def runExecutor (env : Env ω) (connectorType actionId : String) (parameters : Dict)
    (assetIds : List String) (connector : Option Connector) : Py ω Json := do
  let module ← Py.ofExcept (env.getExecutor connectorType actionId)
  module.execute parameters assetIds connector

section Phases

variable (env : Env ω) (connectors : List Connector)

/-- `result.get("secret_string") or result.get("value", default)`. -/
def secretValue (result : Json) (default : Json) : Except Exc Json := do
  let secret ← result.get "secret_string" .null
  let value ← result.get "value" default
  pure (secret.orElse value)

/-- The snapshot of one dependent, inside the `try`. -/
def takeSnapshot (organizationId : Uuid) (dep : Dict) : Py ω Dict := do
  let kind ← Py.ofExcept (Json.index (.obj dep) "type")
  if kind.isStr "host" then do
    let host ← Py.ofExcept (Json.index (.obj dep) "host")
    let o ← Py.get
    match (env.certificate.tlsProbePem host (dep.getD "port" (.int 443)) o).filter (· ≠ "") with
    | some pem => pure ((dep.set "snapshot" (.str pem)).set "snapshot_fingerprint"
        (.str (env.certificate.pemFingerprint pem)))
    | none => pure (dep.set "snapshot" .null)
  else if kind.isStr "k8s_secret" then do
    let connectorType ← Py.ofExcept (Json.index (.obj dep) "connector_type")
    let connector ← Py.ofExcept (loadConnector env connectors connectorType
      (dep.getD "connector_id" .null) (some organizationId))
    match connector with
    | none => pure (dep.set "snapshot" .null)
    | some c => do
      let client ← Py.ofExcept (env.certificate.hasK8sClient (some c))
      if client then do
        let name ← Py.ofExcept (Json.index (.obj dep) "name")
        let data ← env.certificate.readNamespacedSecret c name
          (dep.getD "namespace" (.str "default"))
        pure (dep.set "snapshot" (.obj data))
      else pure (dep.set "snapshot" .null)
  else if kind.isStr "aws_secret" then do
    let connectorType ← Py.ofExcept (Json.index (.obj dep) "connector_type")
    let connector ← Py.ofExcept (loadConnector env connectors connectorType
      (dep.getD "connector_id" .null) (some organizationId))
    match connector with
    | none => pure (dep.set "snapshot" .null)
    | some c => do
      let secretId ← Py.ofExcept (Json.index (.obj dep) "secret_id")
      let result ← runExecutor env "aws" "get_secret_value" [("secret_id",secretId)] [] (some c)
      let snapshot ← Py.ofExcept (secretValue result .null)
      pure (dep.set "snapshot" snapshot)
  else pure dep

def snapshotDependent (organizationId : Uuid) (dep : Json) : Py ω Json := do
  let dep ← Py.ofExcept dep.mapping
  let taken ← Py.tryExcept (takeSnapshot env connectors organizationId dep)
    fun _ => pure (dep.set "snapshot" .null)
  pure (.obj taken)

def rotateCertificate (desired : Dict) (connector : Option Connector) : Py ω Json := do
  let subject ← Py.ofExcept (Json.index (.obj desired) "subject")
  let san := (desired.getD "san" .null).orElse (.arr [subject])
  let pems ← env.certificate.issueCertificate connector subject san
    (desired.getD "not_after" (.str "720h"))
  let o ← Py.get
  pure (.obj [("subject",subject),("fingerprint",.str (env.certificate.pemFingerprint pems.1)),
    ("cert_pem",.str pems.1),("key_pem",.str pems.2),("issued_at",.str (env.certificate.now o))])

/-- What pushing the new certificate to one dependent answers, inside the `try`. -/
def pushCertificate (rotation : Json) (dep : Dict) : Py ω Json := do
  let connectorType ← Py.ofExcept (Json.index (.obj dep) "connector_type")
  let connector ← Py.ofExcept (loadConnector env connectors connectorType
    (dep.getD "connector_id" .null) none)
  let kind ← Py.ofExcept (Json.index (.obj dep) "type")
  if kind.isStr "host" then
    if connectorType.isStr "nexplane_agent" then do
      let certPem ← Py.ofExcept (rotation.index "cert_pem")
      let keyPem ← Py.ofExcept (rotation.index "key_pem")
      runExecutor env "nexplane_agent" "manage_tls_certificates"
        [("cert_pem",certPem),("key_pem",keyPem),
          ("reload_command",dep.getD "reload_command" (.str "nginx -s reload"))]
        [Json.textOf (dep.getD "asset_id" (.str ""))] connector
    else do
      let subject ← Py.ofExcept (rotation.index "subject")
      runExecutor env "step_ca" "rotate_certificate"
        [("subject",subject),("deploy_via_ssm",.bool true),
          ("instance_id",dep.getD "asset_id" (.str ""))] [] connector
  else if kind.isStr "k8s_secret" then do
    let client ← Py.ofExcept (env.certificate.hasK8sClient connector)
    if client then do
      let certPem ← Py.ofExcept (rotation.index "cert_pem" >>= asText)
      let keyPem ← Py.ofExcept (rotation.index "key_pem" >>= asText)
      let name ← Py.ofExcept (Json.index (.obj dep) "name")
      env.certificate.patchNamespacedSecret connector name
        (dep.getD "namespace" (.str "default"))
        (.obj [("tls.crt",.str (env.certificate.base64 certPem)),
          ("tls.key",.str (env.certificate.base64 keyPem))])
      pure (.obj [("success",.bool true)])
    else pure (.obj [("success",.bool false),("error",.str "No kubeconfig available")])
  else if kind.isStr "aws_secret" then do
    let secretId ← Py.ofExcept (Json.index (.obj dep) "secret_id")
    let certPem ← Py.ofExcept (rotation.index "cert_pem")
    runExecutor env "aws" "rotate_secrets_manager_secret"
      [("secret_id",secretId),("new_value",certPem)] [] connector
  else pure (.obj [("success",.bool false),
    ("error",.str ("Unknown dependent type: " ++ Json.textOf kind))])

def updateDependent (rotation : Json) (dep : Json) : Py ω Json := do
  let dep ← Py.ofExcept dep.mapping
  let result ← Py.tryExcept (pushCertificate env connectors rotation dep)
    fun e => pure (.obj [("success",.bool false),("error",.str e.str)])
  pure (.obj (dep.set "update_result" result))

def verifyOk (fingerprint : Json) : Json :=
  .obj [("success",.bool true),("fingerprint",fingerprint),("error",.null)]

def verifyFailed (fingerprint : Json) (error : String) : Json :=
  .obj [("success",.bool false),("fingerprint",fingerprint),("error",.str error)]

/-- The verdict on a stored secret: it holds the new certificate. -/
def verifyStored (rotation : Json) (stored mismatch : String) : Except Exc Json := do
  let certPem ← rotation.index "cert_pem" >>= asText
  if hasText (stripText certPem) (stripText stored) then pure (verifyOk .null)
  else pure (verifyFailed .null mismatch)

/-- What probing one dependent finds, inside the `try`. -/
def probeDependent (rotation : Json) (dep : Dict) : Py ω Json := do
  let kind ← Py.ofExcept (Json.index (.obj dep) "type")
  if kind.isStr "host" then do
    let host ← Py.ofExcept (Json.index (.obj dep) "host")
    let o ← Py.get
    match (env.certificate.tlsProbePem host (dep.getD "port" (.int 443)) o).filter (· ≠ "") with
    | some pem => do
      let served := env.certificate.pemFingerprint pem
      let expected ← Py.ofExcept (rotation.index "fingerprint")
      if expected.isStr served then pure (verifyOk (.str served))
      else pure (verifyFailed (.str served) ("Fingerprint mismatch: got " ++ served ++
        ", expected " ++ Json.textOf expected))
    | none => pure (verifyFailed .null "TLS probe returned no cert")
  else if kind.isStr "k8s_secret" then do
    let connectorType ← Py.ofExcept (Json.index (.obj dep) "connector_type")
    let connector ← Py.ofExcept (loadConnector env connectors connectorType
      (dep.getD "connector_id" .null) none)
    match connector with
    | none => pure (verifyFailed .null "No K8s client")
    | some c => do
      let client ← Py.ofExcept (env.certificate.hasK8sClient (some c))
      if client then do
        let name ← Py.ofExcept (Json.index (.obj dep) "name")
        let data ← env.certificate.readNamespacedSecret c name
          (dep.getD "namespace" (.str "default"))
        let raw := data.getD "tls.crt" (.str "")
        let stored ← Py.ofExcept
          (if raw.truthy then env.certificate.base64Decode raw else .ok "")
        Py.ofExcept (verifyStored rotation stored "Secret tls.crt does not match new cert PEM")
      else pure (verifyFailed .null "No K8s client")
  else if kind.isStr "aws_secret" then do
    let connectorType ← Py.ofExcept (Json.index (.obj dep) "connector_type")
    let connector ← Py.ofExcept (loadConnector env connectors connectorType
      (dep.getD "connector_id" .null) none)
    let secretId ← Py.ofExcept (Json.index (.obj dep) "secret_id")
    let result ← runExecutor env "aws" "get_secret_value" [("secret_id",secretId)] [] connector
    let stored ← Py.ofExcept (secretValue result (.str "") >>= fun v => asText (v.orElse (.str "")))
    Py.ofExcept (verifyStored rotation stored "Secret value does not match new cert PEM")
  else pure (verifyFailed .null ("Unknown type: " ++ Json.textOf kind))

def verifyDependent (rotation : Json) (dep : Json) : Py ω Json := do
  let dep ← Py.ofExcept dep.mapping
  let result ← Py.tryExcept (probeDependent env connectors rotation dep)
    fun e => pure (verifyFailed .null e.str)
  pure (.obj (dep.set "verify_result" result))

end Phases

def updateSucceeded (result : Json) : Except Exc Bool :=
  match result with
  | .null => .ok false
  | .obj d =>
    match Dict.get? d "success", Dict.get? d "applied" with
    | some success, _ => .ok success.truthy
    | none, some applied => .ok applied.truthy
    | none, none => .ok true
  | other => do
    let success ← other.contains "success"
    let applied ← other.contains "applied"
    if success || applied then .error .typeError else pure true

/-- The index of a dependent, an integer. -/
def indexOf (dep : Json) : Except Exc Int := do
  match ← dep.index "index" with
  | .int n => pure n
  | _ => .error .typeError

/-- `merged[index] = dep`. -/
def putIndexed : List (Int × Json) → Int → Json → List (Int × Json)
  | [], n, dep => [(n,dep)]
  | (m,d) :: merged, n, dep =>
    if m = n then (n,dep) :: merged else (m,d) :: putIndexed merged n dep

def mergeByIndex (existing newItems : List Json) : Except Exc (List Json) := do
  let entries ← (existing ++ newItems).mapM fun dep => do
    let n ← indexOf dep
    pure (n,dep)
  let merged := entries.foldl (fun m e => putIndexed m e.1 e.2) []
  pure ((merged.mergeSort fun a b => a.1 ≤ b.1).map Prod.snd)

/-- `bool(d.get(k))` of a dependent. -/
def hasField (k : String) (dep : Json) : Except Exc Bool := do
  let value ← dep.get k .null
  pure value.truthy

def verifySucceeded (dep : Json) : Except Exc Bool := do
  let verify ← dep.get "verify_result" .null
  let success ← (verify.orElse (.obj [])).get "success" .null
  pure success.truthy

def verifyWarns (dep : Json) : Except Exc Bool := do
  let verify ← dep.get "verify_result" .null
  if verify.truthy then do
    let success ← verify.get "success" .null
    pure !success.truthy
  else pure false

/-- `_build_result`. -/
def buildCertificateResult (dependents : List Json) (rotation : Json) (phase : String)
    (paused : Bool) : Except Exc Json := do
  let warns ← dependents.mapM verifyWarns
  pure (.obj [("phase",.str phase),("dependents",.arr dependents),("rotation_result",rotation),
    ("rollback_strategy",.null),("has_warnings",.bool (warns.any id)),("paused",.bool paused)])

def phaseState (phase : String) (dependents : List Json) (rotation : Json) : Dict :=
  [("phase",.str phase),("dependents",.arr dependents),("rotation_result",rotation)]

/-- `_persist` and the commit. -/
def persistRun (run : Option Nat) (result : Dict) : Py (World ω) Unit :=
  match run with
  | some i => Py.modify fun w => w.setRun i fun r => { r with result := result }
  | none => pure ()

def updateFailed (dep : Json) : Except Exc Bool := do
  let result ← dep.get "update_result" .null
  if result.truthy then do
    let ok ← updateSucceeded result
    pure !ok
  else pure false

def onOutside {α : Type} (x : Py ω α) : Py (World ω) α := onSite (outside x)

section Orchestrator

variable (env : Env ω) (cr : ChangeRequest) (connectors : List Connector) (run : Option Nat)

/-- Phase 1, unless the run already lists dependents. -/
def scanOnce (stored : Json) : Py (World ω) (List Json) :=
  if stored.truthy then Py.ofExcept stored.iter
  else do
    let found ← onOutside (env.certificate.scanDependents cr.desiredOutcome cr.organizationId)
    persistRun run (phaseState "scan" found .null)
    pure found

def lacksSnapshot (dep : Json) : Except Exc Bool := do
  let snapshot ← dep.get "snapshot" .null
  pure (snapshot matches .null)

/-- Phase 2, unless some dependent has a snapshot. -/
def snapshotOnce (rotation : Json) (dependents : List Json) : Py (World ω) (List Json) := do
  let lacking ← Py.ofExcept (dependents.mapM lacksSnapshot)
  if dependents.isEmpty = false ∧ lacking.all id = true then do
    let snapshotted ← onOutside
      (Py.each (snapshotDependent env connectors cr.organizationId) dependents)
    persistRun run (phaseState "snapshot" snapshotted rotation)
    pure snapshotted
  else pure dependents

/-- Phase 3, unless the run already has a new certificate. The inventory entry that it writes
for the expiry worker is left out. -/
def rotateOnce (dependents : List Json) (rotation : Json) : Py (World ω) Json :=
  if rotation.truthy then pure rotation
  else do
    let connector ← Py.ofExcept (loadStepCaConnector env connectors cr.organizationId)
    let rotated ← onOutside (rotateCertificate env cr.desiredOutcome connector)
    persistRun run (phaseState "rotate" dependents rotated)
    pure rotated

/-- Runs a phase on the dependents that lack its result and merges them with the others. -/
def completePhase (field phase : String) (rotation : Json) (work : Json → Py ω Json)
    (dependents : List Json) : Py (World ω) (List Json) := do
  let already ← Py.ofExcept (dependents.filterM (hasField field))
  let pending ← Py.ofExcept (dependents.filterM fun d => do
    let has ← hasField field d
    pure !has)
  if pending.isEmpty then pure dependents
  else do
    let worked ← onOutside (Py.each work pending)
    let merged ← Py.ofExcept (mergeByIndex already worked)
    persistRun run (phaseState phase merged rotation)
    pure merged

/-- `execute_certificate_rotation` from its third phase on. -/
def rotateAndVerify (dependents : List Json) (rotation : Json) : Py (World ω) Json := do
  let rotation ← rotateOnce env cr connectors run dependents rotation
  let dependents ← completePhase run "update_result" "update" rotation
    (updateDependent env connectors rotation) dependents
  let updates ← Py.ofExcept (dependents.mapM updateFailed)
  if updates.any id then
    Py.ofExcept (buildCertificateResult dependents rotation "update" true)
  else do
    let dependents ← completePhase run "verify_result" "verify" rotation
      (verifyDependent env connectors rotation) dependents
    let verified ← Py.ofExcept (dependents.mapM verifySucceeded)
    let paused := !verified.all id
    let result ← Py.ofExcept (buildCertificateResult dependents rotation "verify" paused)
    if paused = false then do
      let stored ← Py.ofExcept result.mapping
      Py.modify fun w => w.setStatus .completed
      match run with
      | some i => Py.modify fun w =>
          w.setRun i fun r => { r with status := .completed, result := stored }
      | none => pure ()
      pure result
    else pure result

end Orchestrator

def executeCertificateRotation (env : Env ω) : Py (World ω) Json := do
  let w ← Py.get
  let run := currentRun w.runs
  let existing := w.runResult run
  let rotation := Dict.getD existing "rotation_result" .null
  let dependents ← scanOnce env w.cr run (Dict.getD existing "dependents" (.arr []))
  let dependents ← snapshotOnce env w.cr w.connectors run rotation dependents
  rotateAndVerify env w.cr w.connectors run dependents rotation

section Frame

variable {env : Env ω} {cr : ChangeRequest} {connectors : List Connector} {run : Option Nat}
  {I : World ω → Prop}

section Results

variable (hI : ResultWrites I)

include hI

theorem onOutside_keeps {α : Type} (x : Py ω α) : Py.Keeps I (onOutside x) :=
  fun w h => hI.outside w _ h

theorem persistRun_keeps (result : Dict) : Py.Keeps I (persistRun run result) := by
  cases run with
  | some i => exact .modify fun w h => hI.result w _ _ h
  | none => exact .pure _

theorem scanOnce_keeps (stored : Json) : Py.Keeps I (scanOnce env cr run stored) := by
  refine .ite (.ofExcept _) ?_
  exact .bind (onOutside_keeps hI _) fun _ => .bind (persistRun_keeps hI _) fun _ => .pure _

theorem snapshotOnce_keeps (rotation : Json) (dependents : List Json) :
    Py.Keeps I (snapshotOnce env cr connectors run rotation dependents) := by
  refine .bind (.ofExcept _) fun lacking => ?_
  refine .ite ?_ (.pure _)
  exact .bind (onOutside_keeps hI _) fun _ => .bind (persistRun_keeps hI _) fun _ => .pure _

theorem rotateOnce_keeps (dependents : List Json) (rotation : Json) :
    Py.Keeps I (rotateOnce env cr connectors run dependents rotation) := by
  refine .ite (.pure _) ?_
  exact .bind (.ofExcept _) fun _ => .bind (onOutside_keeps hI _) fun _ =>
    .bind (persistRun_keeps hI _) fun _ => .pure _

theorem completePhase_keeps (field phase : String) (rotation : Json) (work : Json → Py ω Json)
    (dependents : List Json) :
    Py.Keeps I (completePhase run field phase rotation work dependents) := by
  refine .bind (.ofExcept _) fun already => .bind (.ofExcept _) fun pending => ?_
  refine .ite (.pure _) ?_
  exact .bind (onOutside_keeps hI _) fun _ => .bind (.ofExcept _) fun _ =>
    .bind (persistRun_keeps hI _) fun _ => .pure _

end Results

variable (hI : RowWrites I)

include hI

theorem rotateAndVerify_keeps (dependents : List Json) (rotation : Json) :
    Py.Keeps I (rotateAndVerify env cr connectors run dependents rotation) := by
  refine .bind (rotateOnce_keeps hI.results _ _) fun rotation =>
    .bind (completePhase_keeps hI.results _ _ _ _ _) fun dependents => .bind (.ofExcept _)
    fun updates => ?_
  refine .ite (.ofExcept _) ?_
  refine .bind (completePhase_keeps hI.results _ _ _ _ _) fun dependents => .bind (.ofExcept _)
    fun verified => .bind (.ofExcept _) fun result => ?_
  refine .ite ?_ (.pure _)
  refine .bind (.ofExcept _) fun stored => .bind (.modify fun w h => hI.status w _ h) fun _ => ?_
  cases run with
  | some i => exact .bind (.modify fun w h => hI.run w _ _ h) fun _ => .pure _
  | none => exact .pure _

theorem executeCertificateRotation_keeps : Py.Keeps I (executeCertificateRotation env) :=
  .bind .get fun _ => .bind (scanOnce_keeps hI.results _) fun _ =>
    .bind (snapshotOnce_keeps hI.results _ _) fun _ => rotateAndVerify_keeps hI _ _

end Frame

end Nexplane
