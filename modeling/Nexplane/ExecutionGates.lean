import Nexplane.ApprovalRequests
import Nexplane.ConnectorService
import Nexplane.RiskScore
import Nexplane.Lib.Checks
import Nexplane.Lib.Orm

set_option autoImplicit false

/-! The ways of starting the execution of a change, and what each of them checks before. -/

namespace Nexplane
open PyValue

/-- The columns that decide when a change is executed. Times are in microseconds. -/
structure ExecutableChange extends ChangeRequest where
  priority : String := "normal"
  executeAt : Option Int := none

structure ChangeFreezeWindow where
  id : Uuid
  startAt : Int
  endAt : Int
  emergencyBypassRole : String := "emergency_bypass"

/-- `appliesToTags` is absent where the window applies to all assets. -/
structure MaintenanceWindow where
  name : String
  cronSchedule : String
  durationMinutes : Int
  appliesToTags : Option (List String)
  enabled : Bool
  enforcement : String

structure RecurringJob where
  id : Uuid
  organizationId : Uuid
  createdBy : Uuid
  actionId : String
  parameters : Dict
  enabled : Bool

structure RecurringJobPolicy where
  id : Uuid
  approvedBy : Uuid
  expiresAt : Option Int
  allowedChangeTypes : List String
  maxRiskLevel : String
  enabled : Bool

/-- A started execution workflow, with the actor and the source of the start. -/
structure Start where
  crId : Uuid
  actorId : Uuid
  source : String
  deriving DecidableEq, Repr

/-- The tables that the entry points read, and the workflows started from them. A started workflow
runs in a task of its own. -/
structure GateStore where
  changes : List ExecutableChange
  primaryKey : (changes.map fun cr => cr.id).Nodup
  approvals : List Approval
  assets : List Asset
  freezes : List ChangeFreezeWindow
  windows : List MaintenanceWindow
  policies : List RecurringJobPolicy
  started : List Start

/-- What the entry points take from elsewhere: the time, `croniter(schedule, now).get_prev()`, the
users and the members of the enumeration of change types. -/
structure GateEnv where
  now : Int
  getPrev : String → Int → Except Exc Int
  users : Uuid → User
  changeType : String → Option ChangeType

section Model

variable (env : GateEnv)

def ChangeFreezeWindow.active (freeze : ChangeFreezeWindow) : Bool :=
  freeze.startAt ≤ env.now ∧ env.now ≤ freeze.endAt

/-- `getattr(current_user, "roles", [])`: the rows of users have one role each, and no such
attribute. -/
def bypassRoles (_user : User) : List String := []

/-- `require_no_active_freeze`, without the audit event of a bypass. -/
def requireNoActiveFreeze (user : User) (justification : Option String) (s : GateStore) :
    Except Refusal Unit :=
  match s.freezes.find? (ChangeFreezeWindow.active env) with
  | none => .ok ()
  | some freeze =>
    if freeze.emergencyBypassRole ∉ bypassRoles user then .error (.http 423 "change_freeze_active")
    else if justification.getD "" = "" then
      .error (.http 422
        "X-Emergency-Justification header required to bypass an active change freeze")
    else .ok ()

def MaintenanceWindow.appliesTo (w : MaintenanceWindow) (assetTags : List String) : Bool :=
  let windowTags := w.appliesToTags.getD []
  windowTags.isEmpty || windowTags.any fun tag => tag ∈ assetTags

/-- The window has begun no longer ago than it lasts; a schedule that cannot be read is skipped. -/
def MaintenanceWindow.isOpen (w : MaintenanceWindow) : Bool :=
  match env.getPrev w.cronSchedule env.now with
  | .ok prevStart => env.now - prevStart ≤ w.durationMinutes * 60 * 1000000
  | .error _ => false

def isInMaintenanceWindow (s : GateStore) (assetTags : List String) (enforcement : String) :
    Option MaintenanceWindow :=
  (s.windows.filter fun w => w.enabled && w.enforcement = enforcement).find? fun w =>
    w.appliesTo assetTags && w.isOpen env

def GateStore.tagsOf (s : GateStore) (assetId : Uuid) : List String :=
  ((s.assets.find? fun asset => asset.id = assetId).map Asset.tags).getD []

/-- One round of the loop over the target assets. -/
def requireOutsideWindow (s : GateStore) (targetAssetId : String) : Except Refusal Unit :=
  if targetAssetId = "None" then .ok ()
  else
    match parseUuid targetAssetId with
    | .error e => .error (.unhandled e.str)
    | .ok assetId =>
      match isInMaintenanceWindow env s (s.tagsOf assetId) "hard" with
      | some w => .error (.http 423 ("maintenance_window: execution blocked by hard-enforcement " ++
          "window '" ++ w.name ++ "'"))
      | none => .ok ()

/-- The loop over the target assets, which the first refusal leaves. -/
def requireOutsideWindows (s : GateStore) : List String → Except Refusal Unit
  | [] => .ok ()
  | targetAssetId :: targetAssetIds => do
    requireOutsideWindow env s targetAssetId
    requireOutsideWindows s targetAssetIds

def validSources : List String :=
  ["manual","scheduled","recurring_job","maintenance_window_release","api","ai_assisted"]

def GateStore.change? (s : GateStore) (crId : Uuid) : Option ExecutableChange :=
  s.changes.find? fun cr => cr.id = crId

/-- The lookup of a change among those of an organization. -/
def GateStore.changeOf (s : GateStore) (crId organizationId : Uuid) : Option ExecutableChange :=
  s.changes.find? fun cr => cr.id = crId && cr.organizationId = organizationId

/-- `ChangeExecutionService.start`. -/
def startExecution (crId actorId : Uuid) (source : String) (s : GateStore) :
    Except Refusal GateStore :=
  match s.change? crId with
  | none => .error (.http 404 "Change request not found")
  | some cr =>
    if cr.status ≠ .approved then
      .error (.http 400 ("Cannot execute CR in status '" ++ cr.status.value ++
        "'. Must be 'approved'."))
    else if source ∉ validSources then
      .error (.http 400 ("Unknown execution source: '" ++ source ++ "'"))
    else .ok { s with started := s.started ++ [⟨cr.id,actorId,source⟩] }

/-- `execute_change_request` of the router. -/
def executeChangeRequest (user : User) (justification : Option String) (crId : Uuid)
    (s : GateStore) : Except Refusal GateStore := do
  requireNoActiveFreeze env user justification s
  match s.changeOf crId user.organizationId with
  | none => .error (.http 404 "Change request not found")
  | some cr =>
    if cr.status ≠ .approved then
      .error (.http 400 "Change request must be approved before execution")
    else if cr.riskLevel = some .critical ∧
        (checkApprovalRequirements (roleOf env.users) .critical
          (s.approvals.filter fun a => a.changeRequestId = cr.id)).noAutoExecute = true then
      .error (.http 400 ("Critical risk changes require manual execution authorization. " ++
        "Contact your security administrator."))
    else do
      if cr.priority ≠ "emergency" then requireOutsideWindows env s cr.targetAssetIds
      startExecution cr.id user.id "manual" s

/-- `execute_change_request` of the agent's tools. -/
def mcpExecuteChangeRequest (user : User) (crId : String) (s : GateStore) :
    Except Refusal GateStore :=
  match parseUuid crId with
  | .error e => .error (.unhandled e.str)
  | .ok id =>
    match s.changeOf id user.organizationId with
    | none => .error (.tool "Change request not found")
    | some cr =>
      if cr.status ≠ .approved then
        .error (.tool ("CR must be approved before execution; current status: " ++ cr.status.str))
      else
        match startExecution cr.id user.id "api" s with
        | .error (.http status detail) => .error (.tool ("Failed to start execution: " ++
            toString status ++ ": " ++ detail))
        | started => started

/-- The changes that the scheduled worker selects. -/
def ExecutableChange.due (cr : ExecutableChange) : Bool :=
  match cr.executeAt with
  | some executeAt => executeAt ≤ env.now ∧ cr.status = .approved
  | none => false

/-- A start whose failure is logged. -/
def tryStart (crId actorId : Uuid) (source : String) (s : GateStore) : GateStore :=
  match startExecution crId actorId source s with
  | .ok s' => s'
  | .error _ => s

def executeScheduledCrs (s : GateStore) : GateStore :=
  (s.changes.filter (ExecutableChange.due env)).foldl
    (fun s cr => tryStart cr.id cr.requesterId "scheduled" s) s

/-- `_RISK_ORDER.get(level, default)`. -/
def riskOrder (level : String) (default : Nat) : Nat :=
  match level with
  | "low" => 0
  | "medium" => 1
  | "high" => 2
  | "critical" => 3
  | _ => default

/-- `_policy_allows`, without the reasons that it logs. -/
def policyAllows (policy : Option RecurringJobPolicy) (changeType riskLevel : String) : Bool :=
  match policy with
  | none => false
  | some policy =>
    policy.enabled && (policy.expiresAt.all fun expiresAt => env.now < expiresAt) &&
      policy.allowedChangeTypes.contains changeType &&
      decide (riskOrder riskLevel 999 ≤ riskOrder policy.maxRiskLevel 0)

/-- `getattr(job, "policy_id", None)`: the column is there, but the mapped class has no such
attribute. -/
def RecurringJob.policyId (_job : RecurringJob) : Option Uuid := none

/-- The change that a recurring job creates and plans; `outcome` is the one of `plan_cr`. -/
def RecurringJob.change (job : RecurringJob) (id : Uuid) (outcome : PlanOutcome) :
    ExecutableChange :=
  let changeType := (env.changeType job.actionId).getD (.generic "ssm_command")
  let assetId := (job.parameters.getD "asset_id" .null).orElse
    (job.parameters.getD "target_asset_id" .null)
  let cr : ChangeRequest :=
    { id := id
      organizationId := job.organizationId
      requesterId := job.createdBy
      changeType := changeType
      targetAssetIds := if assetId.truthy then [assetId.textOf] else []
      desiredOutcome := job.parameters
      status := .draft
      riskLevel := some .low
      changePlan := none
      applicationSequence := none }
  match planCr cr outcome with
  | .ok planned => { toChangeRequest := planned }
  | .error _ => { toChangeRequest := { cr with status := .planned } }

/-- The row is inserted, unless its identifier is taken. -/
def GateStore.insert (s : GateStore) (cr : ExecutableChange) : GateStore :=
  if h : cr.id ∈ s.changes.map fun cr => cr.id then s
  else { s with
    changes := s.changes ++ [cr]
    primaryKey := by
      rw [List.map_append,List.nodup_append]
      refine ⟨s.primaryKey,by simp,fun a ha b hb hab => ?_⟩
      obtain rfl : b = cr.id := by simpa using hb
      exact h (hab ▸ ha) }

def fireRecurringJob (job : RecurringJob) (id : Uuid) (outcome : PlanOutcome) (s : GateStore) :
    GateStore :=
  if job.enabled = false then s
  else
    let cr := job.change env id outcome
    let policy := job.policyId.bind fun policyId => s.policies.find? fun p => p.id = policyId
    let riskLevel := (cr.riskLevel.map RiskLevel.value).getD "None"
    if policyAllows env policy cr.changeType.value riskLevel then
      let approval : Approval :=
        ⟨cr.id,(policy.map RecurringJobPolicy.approvedBy).getD job.createdBy,.approved⟩
      let approved : ExecutableChange := { cr with status := .approved }
      let s := { s.insert approved with approvals := s.approvals ++ [approval] }
      tryStart cr.id job.createdBy "recurring_job" s
    else s.insert { cr with status := .awaitingApproval }

end Model

/-- What the gate of the router asks of a change. -/
structure GateOpen (env : GateEnv) (s : GateStore) (cr : ExecutableChange) : Prop where
  noFreeze : ∀ freeze ∈ s.freezes, ¬(freeze.startAt ≤ env.now ∧ env.now ≤ freeze.endAt)
  notCritical : cr.riskLevel ≠ some .critical
  noWindow : cr.priority = "emergency" ∨ ∀ targetAssetId ∈ cr.targetAssetIds,
    targetAssetId ≠ "None" → ∃ assetId, parseUuid targetAssetId = .ok assetId ∧
      ∀ w ∈ s.windows, w.enabled = true → w.enforcement = "hard" →
        w.appliesTo (s.tagsOf assetId) = true → w.isOpen env = false

/-- Somebody could have the router start the change. -/
def RestAccepts (env : GateEnv) (s : GateStore) (crId : Uuid) : Prop :=
  ∃ user justification s', executeChangeRequest env user justification crId s = .ok s'

/-- The other entry points. -/
inductive EntryPoint where
  | mcp (user : User) (crId : String)
  | scheduled
  | recurring (job : RecurringJob) (id : Uuid) (outcome : PlanOutcome)

def EntryPoint.run (env : GateEnv) (s : GateStore) : EntryPoint → GateStore
  | .mcp user crId =>
    match mcpExecuteChangeRequest user crId s with
    | .ok s' => s'
    | .error _ => s
  | .scheduled => executeScheduledCrs env s
  | .recurring job id outcome => fireRecurringJob env job id outcome s

/-- The workflows that an entry point starts. -/
def EntryPoint.starts (env : GateEnv) (s : GateStore) (entry : EntryPoint) : List Start :=
  (entry.run env s).started.drop s.started.length

/-- The router would have started whatever the entry point starts. -/
def SameGate (env : GateEnv) (s : GateStore) (entry : EntryPoint) : Prop :=
  ∀ start ∈ entry.starts env s, RestAccepts env s start.crId

/-- The approved changes that an entry point is about to start pass the gate. -/
def GateHolds (env : GateEnv) (s : GateStore) : EntryPoint → Prop
  | .mcp user crId => ∀ cr ∈ s.changes, parseUuid crId = .ok cr.id →
      cr.organizationId = user.organizationId → cr.status = .approved → GateOpen env s cr
  | .scheduled => ∀ cr ∈ s.changes, (∃ executeAt, cr.executeAt = some executeAt ∧
      executeAt ≤ env.now) → cr.status = .approved → GateOpen env s cr
  | .recurring _ _ _ => True

section Lookup

variable {env : GateEnv} {s s' : GateStore} {cr : ExecutableChange} {user : User}
  {crId organizationId : Uuid}

theorem eq_of_id {a b : ExecutableChange} (ha : a ∈ s.changes) (hb : b ∈ s.changes)
    (h : a.id = b.id) : a = b := Orm.eq_of_key s.primaryKey ha hb h

theorem change?_eq_some : s.change? crId = some cr ↔ cr ∈ s.changes ∧ cr.id = crId := by
  rw [GateStore.change?,Orm.find?_eq_some s.primaryKey (k := crId) (by simp),decide_eq_true_eq]

theorem changeOf_eq_some : s.changeOf crId organizationId = some cr ↔
    cr ∈ s.changes ∧ cr.id = crId ∧ cr.organizationId = organizationId := by
  have hkey : ∀ other : ExecutableChange,
      (other.id = crId && other.organizationId = organizationId) = true → other.id = crId := by
    intro other h
    exact (by simpa using h : other.id = crId ∧ _).1
  rw [GateStore.changeOf,Orm.find?_eq_some s.primaryKey hkey]
  simp

theorem startExecution_ok (hcr : cr ∈ s.changes) (hst : cr.status = .approved) {source : String}
    (hsource : source ∈ validSources) (actorId : Uuid) :
    startExecution cr.id actorId source s =
      .ok { s with started := s.started ++ [⟨cr.id,actorId,source⟩] } := by
  simp [startExecution,change?_eq_some.mpr ⟨hcr,rfl⟩,hst,hsource]

end Lookup

section Gate

variable {env : GateEnv} {s s' : GateStore} {cr : ExecutableChange} {user : User}
  {justification : Option String}

/-- No user has a role that lifts a freeze. -/
theorem requireNoActiveFreeze_ok : requireNoActiveFreeze env user justification s = .ok () ↔
    ∀ freeze ∈ s.freezes, ¬(freeze.startAt ≤ env.now ∧ env.now ≤ freeze.endAt) := by
  rw [requireNoActiveFreeze]
  cases hfound : s.freezes.find? (ChangeFreezeWindow.active env) with
  | none => simpa [ChangeFreezeWindow.active] using hfound
  | some freeze =>
    have hactive := List.find?_some hfound
    simp only [bypassRoles,List.not_mem_nil,not_false_eq_true,if_true]
    refine iff_of_false (by simp) fun h => ?_
    exact h freeze (List.mem_of_find?_eq_some hfound)
      (by simpa [ChangeFreezeWindow.active] using hactive)

theorem isInMaintenanceWindow_eq_none {tags : List String} {enforcement : String} :
    isInMaintenanceWindow env s tags enforcement = none ↔ ∀ w ∈ s.windows, w.enabled = true →
      w.enforcement = enforcement → w.appliesTo tags = true → w.isOpen env = false := by
  simp [isInMaintenanceWindow]

theorem requireOutsideWindow_ok {targetAssetId : String} :
    requireOutsideWindow env s targetAssetId = .ok () ↔
      (targetAssetId ≠ "None" → ∃ assetId, parseUuid targetAssetId = .ok assetId ∧
        ∀ w ∈ s.windows, w.enabled = true → w.enforcement = "hard" →
          w.appliesTo (s.tagsOf assetId) = true → w.isOpen env = false) := by
  rw [requireOutsideWindow]
  by_cases hnone : targetAssetId = "None"
  · simp [hnone]
  · rw [if_neg hnone]
    cases hid : parseUuid targetAssetId with
    | error e => simp [hnone]
    | ok assetId =>
      simp only [hnone,ne_eq,not_false_eq_true,true_imp_iff,Except.ok.injEq,exists_eq_left',
        ← isInMaintenanceWindow_eq_none]
      cases isInMaintenanceWindow env s (s.tagsOf assetId) "hard" <;> simp

theorem requireOutsideWindows_ok {targetAssetIds : List String} :
    requireOutsideWindows env s targetAssetIds = .ok () ↔
      ∀ targetAssetId ∈ targetAssetIds, requireOutsideWindow env s targetAssetId = .ok () := by
  induction targetAssetIds with
  | nil => simp [requireOutsideWindows]
  | cons targetAssetId targetAssetIds ih =>
    rw [requireOutsideWindows,Checks.bind_eq_ok,List.forall_mem_cons,← ih]
    constructor
    · rintro ⟨_,hfirst,hrest⟩
      exact ⟨hfirst,hrest⟩
    · rintro ⟨hfirst,hrest⟩
      exact ⟨(),hfirst,hrest⟩

theorem executeChangeRequest_ok {crId : Uuid} :
    (∃ s', executeChangeRequest env user justification crId s = .ok s') ↔
      ∃ cr ∈ s.changes, cr.id = crId ∧ cr.organizationId = user.organizationId ∧
        cr.status = .approved ∧ GateOpen env s cr := by
  rw [executeChangeRequest]
  cases hfreeze : requireNoActiveFreeze env user justification s with
  | error e =>
    rw [Checks.error_bind]
    refine iff_of_false (fun ⟨s',h⟩ => by cases h) ?_
    rintro ⟨cr,_,_,_,_,hgate⟩
    rw [requireNoActiveFreeze_ok.mpr hgate.noFreeze] at hfreeze
    cases hfreeze
  | ok u =>
    rw [Checks.ok_bind]
    cases hfound : s.changeOf crId user.organizationId with
    | none =>
      refine iff_of_false (fun ⟨s',h⟩ => by cases h) ?_
      rintro ⟨cr,hcr,hid,horg,_⟩
      rw [changeOf_eq_some.mpr ⟨hcr,hid,horg⟩] at hfound
      cases hfound
    | some cr =>
      obtain ⟨hcr,rfl,horg⟩ := changeOf_eq_some.mp hfound
      have honly : (∃ cr' ∈ s.changes, cr'.id = cr.id ∧ cr'.organizationId = user.organizationId ∧
          cr'.status = .approved ∧ GateOpen env s cr') ↔
            cr.status = .approved ∧ GateOpen env s cr := by
        constructor
        · rintro ⟨cr',hcr',hid,_,hst,hgate⟩
          obtain rfl := eq_of_id hcr' hcr hid
          exact ⟨hst,hgate⟩
        · rintro ⟨hst,hgate⟩
          exact ⟨cr,hcr,rfl,horg,hst,hgate⟩
      rw [honly]
      dsimp only
      by_cases hst : cr.status = .approved
      · rw [if_neg (not_not_intro hst)]
        by_cases hcritical : cr.riskLevel = some .critical
        · rw [if_pos ⟨hcritical,rfl⟩]
          exact iff_of_false (fun ⟨s',h⟩ => by cases h) fun h => h.2.notCritical hcritical
        · rw [if_neg fun h => hcritical h.1]
          have hstart := startExecution_ok hcr hst
            (show "manual" ∈ validSources by decide) user.id
          have hfreezes := requireNoActiveFreeze_ok.mp hfreeze
          by_cases hemergency : cr.priority = "emergency"
          · rw [if_neg (not_not_intro hemergency)]
            exact iff_of_true ⟨_,hstart⟩ ⟨hst,hfreezes,hcritical,Or.inl hemergency⟩
          · rw [if_pos hemergency]
            cases hwindows : requireOutsideWindows env s cr.targetAssetIds with
            | error e =>
              refine iff_of_false (fun ⟨s',h⟩ => by cases h) fun ⟨_,hgate⟩ => ?_
              have houtside := requireOutsideWindows_ok.mpr fun targetAssetId htarget =>
                requireOutsideWindow_ok.mpr (hgate.noWindow.resolve_left hemergency _ htarget)
              rw [hwindows] at houtside
              cases houtside
            | ok u =>
              refine iff_of_true ⟨_,hstart⟩ ⟨hst,hfreezes,hcritical,Or.inr ?_⟩
              exact fun targetAssetId htarget =>
                requireOutsideWindow_ok.mp (requireOutsideWindows_ok.mp hwindows _ htarget)
      · rw [if_pos hst]
        exact iff_of_false (fun ⟨s',h⟩ => by cases h) fun h => hst h.1

end Gate

section Starts

variable {env : GateEnv} {s s' : GateStore} {cr : ExecutableChange} {user : User}

theorem restAccepts_iff {crId : Uuid} : RestAccepts env s crId ↔
    ∃ cr ∈ s.changes, cr.id = crId ∧ cr.status = .approved ∧ GateOpen env s cr := by
  constructor
  · rintro ⟨user,justification,h⟩
    obtain ⟨cr,hcr,hid,_,hst,hgate⟩ := executeChangeRequest_ok.mp h
    exact ⟨cr,hcr,hid,hst,hgate⟩
  · rintro ⟨cr,hcr,hid,hst,hgate⟩
    let user : User := ⟨cr.requesterId,cr.organizationId,.auditor⟩
    exact ⟨user,none,executeChangeRequest_ok.mpr ⟨cr,hcr,hid,rfl,hst,hgate⟩⟩

theorem restAccepts_change (hcr : cr ∈ s.changes) (hst : cr.status = .approved) :
    RestAccepts env s cr.id ↔ GateOpen env s cr := by
  rw [restAccepts_iff]
  constructor
  · rintro ⟨other,hother,hid,_,hgate⟩
    exact eq_of_id hother hcr hid ▸ hgate
  · intro hgate
    exact ⟨cr,hcr,rfl,hst,hgate⟩

theorem mcp_starts (crId : String) : (EntryPoint.mcp user crId).starts env s =
    match parseUuid crId with
    | .error _ => []
    | .ok id => match s.changeOf id user.organizationId with
      | none => []
      | some cr => if cr.status = .approved then [⟨cr.id,user.id,"api"⟩] else [] := by
  rw [EntryPoint.starts,EntryPoint.run,mcpExecuteChangeRequest]
  cases parseUuid crId with
  | error e => exact List.drop_length
  | ok id =>
    dsimp only
    cases hfound : s.changeOf id user.organizationId with
    | none => exact List.drop_length
    | some cr =>
      obtain ⟨hcr,_,_⟩ := changeOf_eq_some.mp hfound
      dsimp only
      by_cases hst : cr.status = .approved
      · rw [if_neg (not_not_intro hst),if_pos hst,
          startExecution_ok hcr hst (show "api" ∈ validSources by decide)]
        exact List.drop_left
      · rw [if_pos hst,if_neg hst]
        exact List.drop_length

theorem foldl_tryStart (crs : List ExecutableChange) (started : List Start)
    (h : ∀ cr ∈ crs, cr ∈ s.changes ∧ cr.status = .approved) :
    crs.foldl (fun s cr => tryStart cr.id cr.requesterId "scheduled" s)
        { s with started := started } =
      { s with started := started ++ crs.map fun cr => ⟨cr.id,cr.requesterId,"scheduled"⟩ } := by
  induction crs generalizing started with
  | nil => simp
  | cons cr crs ih =>
    obtain ⟨⟨hcr,hst⟩,hrest⟩ := List.forall_mem_cons.mp h
    have hstart : tryStart cr.id cr.requesterId "scheduled" { s with started := started } =
        { s with started := started ++ [⟨cr.id,cr.requesterId,"scheduled"⟩] } := by
      have hok := startExecution_ok (s := { s with started := started }) hcr hst
        (show "scheduled" ∈ validSources by decide) cr.requesterId
      rw [tryStart,hok]
    rw [List.foldl_cons,hstart,ih _ hrest]
    simp

theorem due_iff : cr.due env = true ↔
    (∃ executeAt, cr.executeAt = some executeAt ∧ executeAt ≤ env.now) ∧ cr.status = .approved := by
  cases h : cr.executeAt <;> simp [ExecutableChange.due,h]

theorem scheduled_starts : EntryPoint.scheduled.starts env s =
    (s.changes.filter (ExecutableChange.due env)).map fun cr =>
      ⟨cr.id,cr.requesterId,"scheduled"⟩ := by
  have hdue : ∀ cr ∈ s.changes.filter (ExecutableChange.due env),
      cr ∈ s.changes ∧ cr.status = .approved := by
    intro cr hcr
    obtain ⟨hmem,h⟩ := List.mem_filter.mp hcr
    exact ⟨hmem,(due_iff.mp h).2⟩
  rw [EntryPoint.starts,EntryPoint.run,executeScheduledCrs]
  have hrun := foldl_tryStart _ s.started hdue
  rw [hrun]
  exact List.drop_left

theorem GateStore.insert_started (cr : ExecutableChange) : (s.insert cr).started = s.started := by
  unfold GateStore.insert
  split <;> rfl

/-- No policy is ever found for a recurring job, whose change then waits for an approval. -/
theorem recurring_starts (job : RecurringJob) (id : Uuid) (outcome : PlanOutcome) :
    (EntryPoint.recurring job id outcome).starts env s = [] := by
  rw [EntryPoint.starts,EntryPoint.run,fireRecurringJob]
  split
  · exact List.drop_length
  · have hdenied : ∀ changeType riskLevel,
        policyAllows env (job.policyId.bind fun policyId =>
          s.policies.find? fun p => p.id = policyId) changeType riskLevel = false := fun _ _ => rfl
    dsimp only
    rw [hdenied,if_neg Bool.false_ne_true,GateStore.insert_started]
    exact List.drop_length

end Starts

/-- An entry point starts only what the router would have started exactly when the approved
changes that it is about to start pass the gate. -/
theorem same_gate_iff (env : GateEnv) (s : GateStore) (entry : EntryPoint) :
    SameGate env s entry ↔ GateHolds env s entry := by
  cases entry with
  | mcp user crId =>
    rw [SameGate,mcp_starts,GateHolds]
    cases hid : parseUuid crId with
    | error e => simp
    | ok id =>
      dsimp only
      cases hfound : s.changeOf id user.organizationId with
      | none =>
        refine iff_of_true (by simp) ?_
        rintro cr hcr heq horg _
        obtain rfl := Except.ok.inj heq
        rw [changeOf_eq_some.mpr ⟨hcr,rfl,horg⟩] at hfound
        cases hfound
      | some cr =>
        obtain ⟨hcr,rfl,horg⟩ := changeOf_eq_some.mp hfound
        dsimp only
        by_cases hst : cr.status = .approved
        · rw [if_pos hst,List.forall_mem_singleton,restAccepts_change hcr hst]
          constructor
          · intro hgate other hother heq _ _
            exact eq_of_id hcr hother (Except.ok.inj heq) ▸ hgate
          · intro h
            exact h cr hcr rfl horg hst
        · rw [if_neg hst]
          refine iff_of_true (by simp) ?_
          intro other hother heq _ hother'
          rw [← eq_of_id hcr hother (Except.ok.inj heq)] at hother'
          exact absurd hother' hst
  | scheduled =>
    rw [SameGate,scheduled_starts,GateHolds,List.forall_mem_map]
    constructor
    · intro h cr hcr hdue hst
      exact (restAccepts_change hcr hst).mp
        (h cr (List.mem_filter.mpr ⟨hcr,due_iff.mpr ⟨hdue,hst⟩⟩))
    · intro h cr hcr
      obtain ⟨hmem,hdue⟩ := List.mem_filter.mp hcr
      obtain ⟨hat,hst⟩ := due_iff.mp hdue
      exact (restAccepts_change hmem hst).mpr (h cr hmem hat hst)
  | recurring job id outcome =>
    rw [SameGate,recurring_starts]
    exact iff_of_true (by simp) trivial

/-- No window and no freeze, and an approved change of critical risk whose time has come. -/
def sampleCritical : GateStore where
  changes := [{
    toChangeRequest := ⟨"12345678-1234-5678-1234-567812345678","org-1","user-1",
      .generic "ec2_terminate",[],[],.approved,some .critical,none,none⟩
    executeAt := some 0 }]
  primaryKey := by simp
  approvals := []
  assets := []
  freezes := []
  windows := []
  policies := []
  started := []

def sampleGateEnv : GateEnv where
  now := 0
  getPrev := fun _ _ => .error (.valueError "bad cron")
  users := fun id => ⟨id,"org-1",.admin⟩
  changeType := fun _ => none

/-- The agent's tool and the scheduled worker start a change that the router turns down. -/
theorem critical_change_started :
    executeChangeRequest sampleGateEnv ⟨"user-1","org-1",.admin⟩ none
        "12345678-1234-5678-1234-567812345678" sampleCritical =
      .error (.http 400 ("Critical risk changes require manual execution authorization. " ++
        "Contact your security administrator.")) ∧
    ¬SameGate sampleGateEnv sampleCritical
      (.mcp ⟨"user-1","org-1",.admin⟩ "12345678-1234-5678-1234-567812345678") ∧
    ¬SameGate sampleGateEnv sampleCritical .scheduled := by
  have hrefused : ¬RestAccepts sampleGateEnv sampleCritical
      "12345678-1234-5678-1234-567812345678" := by
    intro h
    obtain ⟨cr,hcr,_,_,hgate⟩ := restAccepts_iff.mp h
    obtain rfl := List.mem_singleton.mp hcr
    exact hgate.notCritical rfl
  refine ⟨rfl,fun h => ?_,fun h => ?_⟩
  · exact hrefused (h ⟨"12345678-1234-5678-1234-567812345678","user-1","api"⟩
      (List.mem_singleton_self _))
  · exact hrefused (h ⟨"12345678-1234-5678-1234-567812345678","user-1","scheduled"⟩
      (List.mem_singleton_self _))

end Nexplane
