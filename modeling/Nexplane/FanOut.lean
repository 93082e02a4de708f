import Nexplane.Workflow

set_option autoImplicit false

/-! The identity fan-out: an executor that spawns one approved change for each account of an
identity profile, and its rollback. -/

namespace Nexplane
open PyValue

variable {ρ : Type}

/-- `FAN_OUT_ACTIONS`. -/
def fanOutActions : List (String × List (String × String)) :=
  [("emergency_user_lockout",
      [("active_directory","disable_account"),
       ("okta","suspend_user"),
       ("entra_id","disable_user"),
       ("github","suspend_org_member"),
       ("gitlab","gitlab_suspend_user"),
       ("ldap","ldap_disable_user"),
       ("freeipa","freeipa_disable_user"),
       ("keycloak","keycloak_disable_user"),
       ("gitea","gitea_suspend_user"),
       ("teleport","teleport_lock_user"),
       ("kubernetes","k8s_revoke_rolebinding")]),
   ("user_suspension",
      [("active_directory","disable_account"),
       ("okta","suspend_user"),
       ("entra_id","disable_user"),
       ("github","suspend_org_member"),
       ("gitlab","gitlab_suspend_user"),
       ("ldap","ldap_disable_user"),
       ("freeipa","freeipa_disable_user"),
       ("keycloak","keycloak_disable_user"),
       ("gitea","gitea_suspend_user")]),
   ("enforce_mfa",
      [("active_directory","enforce_mfa"),
       ("okta","enforce_mfa"),
       ("entra_id","reset_mfa")]),
   ("user_scope_reduction",
      [("active_directory","remove_from_group"),
       ("okta","deprovision_from_app"),
       ("entra_id","remove_from_role"),
       ("github","remove_org_member"),
       ("kubernetes","k8s_revoke_rolebinding")])]

def getFanOutAction (changeType connectorType : String) : Option String :=
  (List.lookup changeType fanOutActions).bind (List.lookup connectorType)

structure IdentityAccount where
  connectorId : Uuid
  connectorType : String
  externalId : String
  isStale : Bool
  deriving DecidableEq, Repr

structure IdentityProfile where
  id : Uuid
  organizationId : Uuid
  primaryEmail : String
  accounts : List IdentityAccount
  deriving DecidableEq, Repr

/-- A change request with the parent that spawned it. -/
structure ChildRequest extends ChangeRequest where
  parentChangeRequestId : Uuid
  deriving Repr

/-- The rows that a fan-out reads and adds, beside what executor modules act on. -/
structure FanOutStore (ρ : Type) where
  profiles : List IdentityProfile
  children : List ChildRequest
  managed : ρ

/-- What the fan-out executor uses and does not define: the import of `db_factory` from
`app.database`, which has no such name in this tree, the identifiers of new rows, the rows that
the database refuses, and `rollback_change_request` of a service module that is missing too. -/
structure FanOutOps (ρ : Type) where
  dbFactory : Except Exc Unit
  newUuid : FanOutStore ρ → Uuid
  refuses : ChildRequest → FanOutStore ρ → Option Exc
  rollbackChangeRequest : Except Exc (ChildRequest → Py (FanOutStore ρ) Json)

def FanOutStore.lookupProfile (s : FanOutStore ρ) (id organizationId : Uuid) :
    Option IdentityProfile :=
  s.profiles.find? fun p => p.id = id && p.organizationId = organizationId

/-- `str(v)`; the text of a container, which is no identifier, is left out. -/
def jsonStr : Json → String
  | .str s => s
  | .int n => toString n
  | .float text => text
  | .bool b => if b then "True" else "False"
  | _ => ""

/-- `parameters.get("identity_profile_id") or parameters.get("profile_id")`. -/
def profileReference (parameters : Dict) : Json :=
  (parameters.getD "identity_profile_id" .null).orElse (parameters.getD "profile_id" .null)

/-- The accounts that are not stale and have an action, each with its action. -/
def fanOutTasks (changeType : ChangeType) (profile : IdentityProfile) :
    List (IdentityAccount × String) :=
  (profile.accounts.filter fun a => !a.isStale).filterMap fun a =>
    (getFanOutAction changeType.value a.connectorType).map fun action => (a,action)

/-- The connector types without an action. -/
def skippedAccounts (changeType : ChangeType) (profile : IdentityProfile) : List Json :=
  ((profile.accounts.filter fun a => !a.isStale).filter fun a =>
    (getFanOutAction changeType.value a.connectorType).isNone).map fun a =>
      .obj [("connector_type",.str a.connectorType),("reason",.str "no action mapped")]

/-- The desired outcome of a child: the parent's, with what the child is to do. -/
def childOutcome (cr : ChangeRequest) (account : IdentityAccount) (action : String) : Dict :=
  ((((cr.desiredOutcome.set "_parent_change_type" (.str cr.changeType.value)).set
    "external_id" (.str account.externalId)).set
    "connector_id" (.str account.connectorId)).set
    "connector_type" (.str account.connectorType)).set
    "fan_out_action" (.str action)

/-- The row of `_spawn_child_cr`. The change type in its parameters is the parent's own, and the
risk level is the default of the column. -/
def childRow (cr : ChangeRequest) (id : Uuid) (account : IdentityAccount) (action : String) :
    ChildRequest where
  id := id
  organizationId := cr.organizationId
  requesterId := cr.requesterId
  changeType := cr.changeType
  targetAssetIds := []
  desiredOutcome := childOutcome cr account action
  status := .approved
  riskLevel := some .medium
  changePlan := none
  applicationSequence := none
  parentChangeRequestId := cr.id

/-- What a fan-out reports of one account. -/
structure ChildReport where
  connectorType : String
  action : String
  outcome : Except Exc Uuid

def ChildReport.toJson (r : ChildReport) : Json :=
  match r.outcome with
  | .ok id => .obj [("child_cr_id",.str id),("connector_type",.str r.connectorType),
      ("action",.str r.action),("status",.str "spawned")]
  | .error e => .obj [("connector_type",.str r.connectorType),("action",.str r.action),
      ("status",.str "error"),("reason",.str e.str)]

def ChildReport.warning (r : ChildReport) : Option Json :=
  match r.outcome with
  | .ok _ => none
  | .error e => some (.str (r.connectorType ++ ": " ++ e.str))

def fanOutStatus (reports : List ChildReport) : String :=
  if reports.all fun r => !r.outcome.isOk then "failed"
  else if reports.any fun r => !r.outcome.isOk then "partial"
  else "completed"

def fanOutResult (cr : ChangeRequest) (profile : IdentityProfile) (reports : List ChildReport) :
    Json :=
  .obj [("status",.str (fanOutStatus reports)),
    ("profile_id",.str profile.id),
    ("profile_email",.str profile.primaryEmail),
    ("child_crs",.arr (reports.map ChildReport.toJson)),
    ("skipped",.arr (skippedAccounts cr.changeType profile)),
    ("warnings",.arr (reports.filterMap ChildReport.warning))]

def fanOutFailed (reason : String) : Json :=
  .obj [("status",.str "failed"),("reason",.str reason)]

section Executor

variable (ops : FanOutOps ρ)

def spawnChildCr (cr : ChangeRequest) (account : IdentityAccount) (action : String) :
    Py (FanOutStore ρ) ChildRequest := fun s =>
  let child := childRow cr (ops.newUuid s) account action
  match ops.refuses child s with
  | some e => (.error e,s)
  | none => (.ok child,{ s with children := s.children ++ [child] })

def spawnTask (cr : ChangeRequest) (task : IdentityAccount × String) :
    Py (FanOutStore ρ) ChildReport := do
  let child ← Py.attempt (spawnChildCr ops cr task.1 task.2)
  pure ⟨task.1.connectorType,task.2,child.map fun c => c.id⟩

/-- The fan-out over the accounts of a profile. -/
def fanOutProfile (cr : ChangeRequest) (profile : IdentityProfile) : Py (FanOutStore ρ) Json :=
  if profile.accounts.all fun a => a.isStale then
    pure (fanOutFailed "no non-stale accounts found for this profile")
  else do
    let reports ← Py.each (spawnTask ops cr) (fanOutTasks cr.changeType profile)
    pure (fanOutResult cr profile reports)

/-- `execute`. -/
def fanOutExecute (cr : ChangeRequest) : Py (FanOutStore ρ) Json :=
  let reference := profileReference cr.desiredOutcome
  if reference.truthy = false then pure (fanOutFailed "identity_profile_id is required")
  else
    match parseUuid (jsonStr reference) with
    | .error _ => pure (fanOutFailed ("invalid identity_profile_id: " ++ jsonStr reference))
    | .ok profileId => do
      Py.ofExcept ops.dbFactory
      let s ← Py.get
      match s.lookupProfile profileId cr.organizationId with
      | none => pure (fanOutFailed ("IdentityProfile " ++ profileId ++ " not found"))
      | some profile => fanOutProfile ops cr profile

/-- What the rollback of a fan-out reports of one child. -/
structure ChildRollback where
  childCrId : Json
  status : Json
  reason : Option Exc

def ChildRollback.toJson (r : ChildRollback) : Json :=
  .obj ([("child_cr_id",r.childCrId),("status",r.status)] ++
    (r.reason.map fun e => ("reason",.str e.str)).toList)

def ChildRollback.isOk (r : ChildRollback) : Bool :=
  r.status.isStr "completed" || r.status.isStr "skipped"

/-- The identifiers of the children that a stored result records as spawned. -/
def spawnedIds : List Json → Except Exc (List Json)
  | [] => pure []
  | r :: childCrs => do
    let status ← r.get "status" .null
    if status.isStr "spawned" then do
      let id ← r.index "child_cr_id"
      let ids ← spawnedIds childCrs
      pure (id :: ids)
    else spawnedIds childCrs

/-- `uuid.UUID(v)`. -/
def childUuid : Json → Except Exc Uuid
  | .str s => parseUuid s
  | _ => .error .attributeError

/-- One round of the loop of `rollback`. -/
def rollbackChild (childId : Json) : Py (FanOutStore ρ) ChildRollback :=
  Py.tryExcept
    (do
      let id ← Py.ofExcept (childUuid childId)
      let s ← Py.get
      match s.children.find? fun c => c.id = id with
      | none => pure ⟨childId,.str "not_found",none⟩
      | some child => do
        let rollbackChangeRequest ← Py.ofExcept ops.rollbackChangeRequest
        let rb ← rollbackChangeRequest child
        let status ← Py.ofExcept (rb.get "status" (.str "unknown"))
        pure ⟨childId,status,none⟩)
    fun e => pure ⟨childId,.str "error",some e⟩

def childRollbackStatus (rollbacks : List ChildRollback) : String :=
  if rollbacks.all ChildRollback.isOk then "completed"
  else if rollbacks.any ChildRollback.isOk then "partial"
  else "failed"

/-- `rollback`, which reads neither the parameters nor the connector. -/
def fanOutRollback (executionResult : Json) : Py (FanOutStore ρ) Json := do
  let childCrs ← Py.ofExcept (executionResult.get "child_crs" (.arr []) >>= Json.iter)
  let ids ← Py.ofExcept (spawnedIds childCrs)
  if ids.isEmpty then
    pure (.obj [("rolled_back",.bool true),("reason",.str "no child CRs to roll back")])
  else do
    Py.ofExcept ops.dbFactory
    let rollbacks ← Py.each (rollbackChild ops) ids
    pure (.obj [("rolled_back",.bool true),
      ("status",.str (childRollbackStatus rollbacks)),
      ("child_rollbacks",.arr (rollbacks.map ChildRollback.toJson))])

/-- An executor module has no access to the rows of the control plane. -/
def managedOnly {α : Type} (x : Py ρ α) : Py (FanOutStore ρ) α :=
  Py.zoom FanOutStore.managed (fun s m => { s with managed := m }) x

def ExecutorModule.lift (module : ExecutorModule ρ) : ExecutorModule (FanOutStore ρ) where
  execute := fun parameters assetIds connector =>
    managedOnly (module.execute parameters assetIds connector)
  rollback := module.rollback.map fun rollback parameters prior connector =>
    managedOnly (rollback parameters prior connector)

/-- An environment with these modules, whose identity fan-outs run the executor above. -/
def Env.withFanOut (modules : String → String → Except Exc (ExecutorModule ρ))
    (env : Env (FanOutStore ρ)) : Env (FanOutStore ρ) :=
  { env with
    getExecutor := fun connectorType actionId =>
      (modules connectorType actionId).map ExecutorModule.lift
    fanOutExecute := Nexplane.fanOutExecute ops
    fanOutRollback := fun _ => Nexplane.fanOutRollback ops }

end Executor

end Nexplane
