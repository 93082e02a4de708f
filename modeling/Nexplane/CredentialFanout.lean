import Nexplane.CertificateRotation
import Nexplane.Lib.Checks

set_option autoImplicit false

/-! The executor of credential fan-outs (rotate, scan, update, verify), which keeps its own
execution run, and its rollback. -/

namespace Nexplane
open PyValue

variable {ω : Type}

/-- `_load_connector_by_type`: the first connector with credentials, else the first. -/
def preferCredentials : List Connector → Option Connector
  | [] => none
  | c :: cs => if c.credentials.isEmpty then
      some ((cs.find? fun d => !d.credentials.isEmpty).getD c) else some c

def loadConnectorByType (env : Env ω) (connectors : List Connector) (connectorType : String)
    (organizationId : Uuid) : Except Exc (Option Connector) := do
  if env.isConnectorType connectorType then do
    let attached ← (connectors.filter fun c => c.organizationId = organizationId &&
      c.connectorType = connectorType).mapM (attachCredentials env)
    pure (preferCredentials attached)
  else .error (.valueError ("'" ++ connectorType ++ "' is not a valid ConnectorType"))

section Surfaces

variable (env : Env ω) (connectors : List Connector)

/-- One scan function's hits, none when it fails. -/
def scanHits (connector : Connector) (proxy : Json) (scan : Json → Connector → Py ω Json) :
    Py ω (List Json) :=
  Py.tryExcept
    (do
      let found ← scan proxy connector
      Py.ofExcept (found.get "hits" (.arr []) >>= Json.iter))
    fun _ => pure []

def runScanForScope (organizationId : Uuid) (searchTerms scope : Json) : Py ω (List Json) := do
  let text ← Py.ofExcept (asText scope)
  let connector ← Py.ofExcept (loadConnectorByType env connectors text organizationId)
  match connector with
  | none => pure []
  | some c => do
    let hits ← Py.each (scanHits c (.obj [("search_terms",searchTerms)]))
      (env.fanout.scanFunctions text)
    pure hits.flatten

def runScans (organizationId : Uuid) (searchTerms scanScope : Json) : Py ω (List Json) := do
  let scopes ← Py.ofExcept scanScope.iter
  let hits ← Py.each (runScanForScope env connectors organizationId searchTerms) scopes
  pure hits.flatten

def awsScanSurfaces : List String :=
  ["aws_lambda_env", "aws_ecs_task_def_env", "aws_ssm_parameter"]

def surfaceConnectorType (surface : String) : String :=
  if surface ∈ awsScanSurfaces then "aws" else "kubernetes"

/-- `params[to] = params.pop(from)` when only `from` is there. -/
def renameKey (params : Dict) (source target : String) : Dict :=
  match params.get? source, params.get? target with
  | some v, none => (params.erase source).set target v
  | _, _ => params

def surfaceParams (surface : String) (params : Dict) : Dict :=
  if surface = "k8s_configmap" then
    renameKey (renameKey params "name" "configmap_name") "data_key" "key"
  else if surface = "k8s_deployment_env" ∨ surface = "k8s_deployment_spec" then
    renameKey params "name" "deployment_name"
  else params

def errorStatus (message : String) : Json :=
  .obj [("status",.str "error"),("error",.str message)]

def updateConsumer (newValue consumer : Json) : Py ω Json := do
  let surface ← Py.ofExcept (consumer.index "surface")
  let metadata ← Py.ofExcept (consumer.get "surface_metadata" (.obj []))
  let oldValue ← Py.ofExcept (consumer.index "matched_term")
  let organizationId ← Py.ofExcept (consumer.index "_org_id" >>= asText)
  let surface := surface.textOf
  let connectorType := surfaceConnectorType surface
  let connector ← Py.ofExcept (loadConnectorByType env connectors connectorType organizationId)
  match connector with
  | none => pure (errorStatus ("No " ++ connectorType ++ " connector found"))
  | some c => do
    let base ← Py.ofExcept metadata.mapping
    let params := surfaceParams surface ((base.set "old_value" oldValue).set "new_value" newValue)
    match env.fanout.updateSurface surface with
    | none => pure (.obj [("status",.str "skipped"),
        ("reason",.str ("unknown surface: " ++ surface))])
    | some update => Py.tryExcept (update params c) fun e => pure (errorStatus e.str)

/-- `rolled_back` read off the status when a rollback function does not say. -/
def normalizeRollback (result : Json) : Json :=
  match result with
  | .obj d =>
    if (Dict.get? d "rolled_back").isSome then result
    else
      let status := Dict.getD d "status" (.str "")
      .obj (Dict.set d "rolled_back" (.bool (status.isStr "rolled_back" || status.isStr "success")))
  | other => other

def rollbackConsumer (consumer : Json) : Py ω Json := do
  let surface ← Py.ofExcept (consumer.index "surface")
  let updateResult ← Py.ofExcept (consumer.get "update_result" (.obj []))
  let rollbackData ← Py.ofExcept (updateResult.get "rollback_data" (.obj []))
  if rollbackData.truthy = false then
    pure (.obj [("rolled_back",.bool false),("reason",.str "no rollback_data")])
  else do
    let organizationId ← Py.ofExcept (consumer.index "_org_id" >>= asText)
    let surface := surface.textOf
    let connectorType := surfaceConnectorType surface
    let connector ← Py.ofExcept (loadConnectorByType env connectors connectorType organizationId)
    match connector with
    | none => pure (.obj [("rolled_back",.bool false),
        ("error",.str ("No " ++ connectorType ++ " connector found"))])
    | some c => do
      let params ← Py.ofExcept (consumer.get "update_params" (.obj []))
      match env.fanout.rollbackSurface surface with
      | none => pure (.obj [("rolled_back",.bool false),
          ("reason",.str ("unknown surface: " ++ surface))])
      | some rollback => do
        let result ← Py.tryExcept (rollback params rollbackData c) fun e =>
          pure (.obj [("rolled_back",.bool false),("error",.str e.str)])
        pure (normalizeRollback result)

end Surfaces

def updateStatus (consumer : Json) : Except Exc Json := do
  let result ← consumer.get "update_result" .null
  (result.orElse (.obj [])).get "status" .null

def consumerWarns (consumer : Json) : Except Exc Bool := do
  let status ← updateStatus consumer
  pure !(status matches .null || status.isStr "updated" || status.isStr "skipped")

/-- `_build_result`. -/
def buildFanoutResult (consumers : List Json) (rotation : Json) (phase : Json) (paused : Bool) :
    Except Exc Dict := do
  let warns ← consumers.mapM consumerWarns
  pure [("phase",phase),("rotation_result",rotation),("consumers",.arr consumers),
    ("paused",.bool paused),("has_warnings",.bool (warns.any id))]

/-- `_persist` and the commit, with which a run added in this session gets its row. -/
def persistFanout (cr : ChangeRequest) (run : Option Nat) (result : Dict) :
    Py (World ω) Nat := fun w =>
  match run with
  | some i => (.ok i,w.setRun i fun r => { r with result := result })
  | none => (.ok w.runs.length,
      { w with runs := w.runs ++ [⟨"cred-fanout-" ++ cr.id,.running,result⟩] })

/-- One scan hit as a consumer. -/
def consumerOf (organizationId : Uuid) (i : Nat) (hit : Json) : Except Exc Json := do
  let surface ← hit.get "surface" (.str "")
  let location ← hit.get "location" (.str "")
  let matched ← hit.get "matched_term" (.str "")
  let identity ← hit.get "consumer_identity" (.obj [])
  let metadata ← identity.get "surface_metadata" (.obj [])
  pure (.obj [("index",.int i),("surface",surface),("location",location),
    ("matched_term",matched),("surface_metadata",metadata),("_org_id",.str organizationId),
    ("update_result",.null),("verify_result",.null),("rollback_result",.null)])

section Executor

variable (env : Env ω) (cr : ChangeRequest) (connectors : List Connector)

/-- Phase 1, the rotate action: its result, and the new value it hands out, if any. -/
def rotateCredential (rotateSpec : Json) : Py (World ω) (Json × Option Json) := do
  let connectorType ← Py.ofExcept (rotateSpec.index "connector_type" >>= asText)
  let connector ← Py.ofExcept
    (loadConnectorByType env connectors connectorType cr.organizationId)
  Py.tryExcept
    (do
      let actionId ← Py.ofExcept (rotateSpec.index "action_id" >>= asText)
      let params ← Py.ofExcept (rotateSpec.get "params" (.obj []) >>= Json.mapping)
      let result ← onSite (executeAction env connectorType actionId params [] connector)
      let newValue ← Py.ofExcept (result.get "new_value" .null)
      pure (result,if newValue.truthy then some newValue else none))
    fun e => pure (.obj [("error",.str e.str),("success",.bool false)],none)

/-- The loop of phase 3 over the consumers that have no update result. -/
def updateConsumers (newValue : Json) (consumers : List Json) : Py ω (List Json) :=
  Py.each
    (fun consumer => do
      let done ← Py.ofExcept (hasField "update_result" consumer)
      if done then pure consumer
      else do
        let result ← updateConsumer env connectors newValue consumer
        let metadata ← Py.ofExcept (consumer.get "surface_metadata" (.obj []) >>= Json.mapping)
        let matched ← Py.ofExcept (consumer.index "matched_term")
        let fields ← Py.ofExcept consumer.mapping
        pure (.obj ((fields.set "update_result" result).set "update_params"
          (.obj ((metadata.set "old_value" matched).set "new_value" newValue)))))
    consumers

def updateErred (consumer : Json) : Except Exc Bool := do
  let result ← consumer.get "update_result" (.obj [])
  let status ← result.get "status" .null
  pure (status.isStr "error")

/-- The verdict of phase 4 on one consumer, unless it has one. -/
def judgeConsumer (remaining : List Json) (consumer : Json) : Except Exc Json := do
  let verdict ← consumer.get "verify_result" .null
  match verdict with
  | .null => do
    let location ← consumer.index "location"
    let fields ← consumer.mapping
    let present := remaining.any (Json.eq location)
    pure (.obj (fields.set "verify_result"
      (.obj [("success",.bool !present),("still_present",.bool present)])))
  | _ => pure consumer

def verifyErred (consumer : Json) : Except Exc Bool := do
  let verdict ← consumer.get "verify_result" (.obj [])
  let success ← verdict.get "success" (.bool true)
  pure !success.truthy

/-- The end of a phase that found failures: the run is stored as paused, and so is the change. -/
def pauseFanout (run : Option Nat) (consumers : List Json) (rotation : Json) (phase : String) :
    Py (World ω) Json := do
  let result ← Py.ofExcept (buildFanoutResult consumers rotation (.str phase) true)
  let _ ← persistFanout cr run result
  Py.modify fun w => w.setStatus .paused
  pure (.obj result)

/-- Phase 4. -/
def verifyConsumers (run : Option Nat) (searchTerms scanScope : Json) (consumers : List Json)
    (rotation : Json) : Py (World ω) Json := do
  let hits ← onOutside (runScans env connectors cr.organizationId searchTerms scanScope)
  let remaining ← Py.ofExcept (hits.mapM fun h => h.get "location" (.str ""))
  let judged ← Py.ofExcept (consumers.mapM (judgeConsumer remaining))
  let failed ← Py.ofExcept (judged.mapM verifyErred)
  if failed.any id then pauseFanout cr run judged rotation "verify"
  else do
    let result ← Py.ofExcept (buildFanoutResult judged rotation (.str "completed") false)
    let i ← persistFanout cr run result
    Py.modify fun w => w.setRun i fun r => { r with status := .completed }
    pure (.obj result)

/-- Phase 2: the consumers found by a scan, stored with the run. -/
def scanConsumers (run : Option Nat) (searchTerms scanScope rotation : Json) :
    Py (World ω) (Option Nat × List Json) := do
  let hits ← onOutside (runScans env connectors cr.organizationId searchTerms scanScope)
  let consumers ← Py.ofExcept
    (hits.zipIdx.mapM fun entry => consumerOf cr.organizationId entry.2 entry.1)
  let result ← Py.ofExcept (buildFanoutResult consumers rotation (.str "update") false)
  let i ← persistFanout cr run result
  pure (some i,consumers)

/-- Phase 3: `none` when some consumer could not be updated and the run was paused. -/
def updatePhase (run : Option Nat) (newValue rotation : Json) (consumers : List Json) :
    Py (World ω) (Json ⊕ (Option Nat × List Json)) := do
  let updated ← onOutside (updateConsumers env connectors newValue consumers)
  let failed ← Py.ofExcept (updated.mapM updateErred)
  if failed.any id then do
    let result ← pauseFanout cr run updated rotation "update"
    pure (.inl result)
  else do
    let result ← Py.ofExcept (buildFanoutResult updated rotation (.str "verify") false)
    let i ← persistFanout cr run result
    pure (.inr (some i,updated))

/-- Where a fan-out goes on after its first phase. -/
structure FanoutProgress where
  run : Option Nat
  rotation : Json
  newValue : Json
  phase : Json

/-- The desired outcome takes over a new value that the rotate action handed out. -/
def adoptNewValue (newValue : Option Json) : Py (World ω) Unit :=
  match newValue with
  | some v => Py.modify fun w =>
      { w with cr := { w.cr with desiredOutcome := w.cr.desiredOutcome.set "new_value" v } }
  | none => pure ()

/-- Phase 1: the rotate action, where there is one and the run is not past it. -/
def rotatePhase (progress : FanoutProgress) (rotateSpec : Json) (consumers : List Json) :
    Py (World ω) FanoutProgress :=
  let phase := progress.phase
  if rotateSpec.truthy && !(phase.isStr "scan" || phase.isStr "update" || phase.isStr "verify") then
    do
      let outcome ← rotateCredential env cr connectors rotateSpec
      let result ← Py.ofExcept (buildFanoutResult consumers outcome.1 (.str "scan") false)
      adoptNewValue outcome.2
      let i ← persistFanout cr progress.run result
      pure ⟨some i,outcome.1,outcome.2.getD progress.newValue,.str "scan"⟩
  else pure progress

/-- The phases from the update on. -/
def updateAndVerify (run : Option Nat) (phase newValue rotation : Json) (consumers : List Json) :
    Py (World ω) Json := do
  let searchTerms := cr.desiredOutcome.getD "search_terms" (.arr [])
  let scanScope := cr.desiredOutcome.getD "scan_scope" (.arr [])
  if phase.isStr "update" then do
    let outcome ← updatePhase env cr connectors run newValue rotation consumers
    match outcome with
    | .inl paused => pure paused
    | .inr (run,updated) => verifyConsumers env cr connectors run searchTerms scanScope updated rotation
  else if phase.isStr "verify" then
    verifyConsumers env cr connectors run searchTerms scanScope consumers rotation
  else do
    let result ← Py.ofExcept (buildFanoutResult consumers rotation phase false)
    pure (.obj result)

end Executor

def executeCredentialRotationFanout (env : Env ω) : Py (World ω) Json := do
  let w ← Py.get
  let desired := w.cr.desiredOutcome
  let run := latestRun (fun r => r.status = .running) w.runs
  let prior := w.runResult run
  let consumers ← Py.ofExcept (Json.iter (Dict.getD prior "consumers" (.arr [])))
  let progress ← rotatePhase env w.cr w.connectors
    ⟨run,Dict.getD prior "rotation_result" (.obj []),desired.getD "new_value" (.str ""),
      Dict.getD prior "phase" (.str "")⟩
    (desired.getD "rotate" .null) consumers
  if progress.phase.isStr "" || progress.phase.isStr "scan" then do
    let (run,consumers) ← scanConsumers env w.cr w.connectors progress.run
      (desired.getD "search_terms" (.arr [])) (desired.getD "scan_scope" (.arr []))
      progress.rotation
    updateAndVerify env w.cr w.connectors run (.str "update") progress.newValue progress.rotation
      consumers
  else
    updateAndVerify env w.cr w.connectors progress.run progress.phase progress.newValue
      progress.rotation consumers

/-- A consumer that the fan-out has updated. -/
def wasUpdated (consumer : Json) : Except Exc Bool := do
  let result ← consumer.get "update_result" (.obj [])
  if result.truthy then do
    let status ← result.get "status" .null
    pure (status.isStr "updated")
  else pure false

/-- The rollback of one consumer: what it leaves in the record, and whether that is a warning. -/
def unwindConsumer (env : Env ω) (connectors : List Connector) (consumer : Json) :
    Py (Site ω) (Json × Bool) := do
  let updated ← Py.ofExcept (wasUpdated consumer)
  if updated then do
    Py.modify fun s => s.log (.record consumer)
    let result ← outside (rollbackConsumer env connectors consumer)
    let unwound ← Py.ofExcept (consumer.put "rollback_result" result)
    let flag ← Py.ofExcept (result.get "rolled_back" (.bool false))
    pure (unwound,!flag.truthy)
  else do
    let unwound ← Py.ofExcept (consumer.put "rollback_result" (.obj [("rolled_back",.bool true),
      ("note",.str "not updated, nothing to roll back")]))
    pure (unwound,false)

def executeFanoutRollback (env : Env ω) (executionResult : Json) : Py (World ω) Json := do
  let w ← Py.get
  let consumers ← Py.ofExcept (executionResult.get "consumers" (.arr []) >>= Json.iter)
  let unwound ← onSite (Py.each (unwindConsumer env w.connectors) consumers.reverse)
  let rotation ← Py.ofExcept (executionResult.get "rotation_result" (.obj []))
  pure (.obj [("consumers",.arr (unwound.reverse.map Prod.fst)),("rotation_result",rotation),
    ("has_warnings",.bool (unwound.any Prod.snd))])

end Nexplane
