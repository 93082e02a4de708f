import Mathlib.Data.List.Forall2
import Nexplane.FanOut
import Nexplane.SoftFailure

set_option autoImplicit false

/-! What executing an identity fan-out, or a child that one has spawned, comes to. -/

namespace Nexplane
open PyValue

variable {ρ : Type}

/-- The profile that is meant by an identifier as it stands in a desired outcome. -/
def FanOutStore.namedProfile (s : FanOutStore ρ) (reference : Json) (organizationId : Uuid) :
    Option IdentityProfile :=
  if reference.truthy = false then none
  else
    match parseUuid (jsonStr reference) with
    | .error _ => none
    | .ok profileId => s.lookupProfile profileId organizationId

/-- The profile that a fan-out names, where its organization has one. -/
def referencedProfile (s : FanOutStore ρ) (cr : ChangeRequest) : Option IdentityProfile :=
  s.namedProfile (profileReference cr.desiredOutcome) cr.organizationId

/-- Between the two states the action has been executed with the identifier of the account. -/
def Performed (before after : World (FanOutStore ρ)) (account : IdentityAccount) (action : String) :
    Prop :=
  ∃ calls parameters, after.site.calls = before.site.calls ++ calls ∧
    .execute account.connectorType action parameters ∈ calls ∧
    parameters.get? "external_id" = some (.str account.externalId)

/-- The change is a child that some fan-out has spawned for the account. -/
def SpawnedFor (account : IdentityAccount) (action : String) (cr : ChangeRequest) : Prop :=
  ∃ parent, isFanOutChangeType parent.changeType = true ∧
    getFanOutAction parent.changeType.value account.connectorType = some action ∧
    cr.changeType = parent.changeType ∧ cr.organizationId = parent.organizationId ∧
    cr.desiredOutcome = childOutcome parent account action ∧ cr.riskLevel = some .medium

/-- A completed fan-out has acted on every account that has an action; a child acts on its own
account and spawns nothing. -/
structure FanOutTruthful (env : Env (FanOutStore ρ)) (w : World (FanOutStore ρ)) : Prop where
  completed : (executeChangeWorkflow env w).2.cr.status = .completed →
    ∀ profile, referencedProfile w.site.outside w.cr = some profile →
      ∀ task ∈ fanOutTasks w.cr.changeType profile,
        Performed w (executeChangeWorkflow env w).2 task.1 task.2
  child : ∀ account action, SpawnedFor account action w.cr →
    Performed w (executeChangeWorkflow env w).2 account action ∧
      (executeChangeWorkflow env w).2.site.outside.children = w.site.outside.children

section Executor

variable {ops : FanOutOps ρ} {cr : ChangeRequest} {s : FanOutStore ρ} {profile : IdentityProfile}

/-- A result in which the workflow finds neither a failure flag nor steps. -/
def PlainResult (result : Json) : Prop :=
  ∃ d, result = .obj d ∧ Dict.getD d "failed" .null = .null ∧ Dict.getD d "steps" .null = .null

theorem fanOutFailed_plain (reason : String) : PlainResult (fanOutFailed reason) :=
  ⟨_,rfl,rfl,rfl⟩

theorem spawnTask_returns (ops : FanOutOps ρ) (cr : ChangeRequest)
    (task : IdentityAccount × String) (s : FanOutStore ρ) :
    ∃ report s', spawnTask ops cr task s = (.ok report,s') :=
  ⟨_,_,Py.attempt_bind _ _⟩

theorem fanOutProfile_returns (ops : FanOutOps ρ) (cr : ChangeRequest) (profile : IdentityProfile)
    (s : FanOutStore ρ) :
    ∃ result s', fanOutProfile ops cr profile s = (.ok result,s') ∧ PlainResult result := by
  unfold fanOutProfile
  split
  · exact ⟨_,_,rfl,fanOutFailed_plain _⟩
  · obtain ⟨reports,t,hreports⟩ :=
      Py.each_returns (spawnTask_returns ops cr) (fanOutTasks cr.changeType profile) s
    exact ⟨_,t,by rw [Py.bind_ok hreports]; rfl,_,rfl,rfl,rfl⟩

theorem fanOutExecute_referenced (h : referencedProfile s cr = some profile) :
    fanOutExecute ops cr s =
      match ops.dbFactory with
      | .ok _ => fanOutProfile ops cr profile s
      | .error e => (.error e,s) := by
  rw [referencedProfile,FanOutStore.namedProfile] at h
  rw [fanOutExecute]
  split at h
  · cases h
  · rename_i htruthy
    rw [if_neg htruthy]
    cases hid : parseUuid (jsonStr (profileReference cr.desiredOutcome)) with
    | error e =>
      rw [hid] at h
      cases h
    | ok profileId =>
      rw [hid] at h
      dsimp only at h ⊢
      cases hdb : ops.dbFactory with
      | error e => rfl
      | ok u =>
        rw [Py.ofExcept_ok_bind,Py.get_bind,h]

theorem fanOutExecute_plain {result : Json} {s' : FanOutStore ρ}
    (h : fanOutExecute ops cr s = (.ok result,s')) : PlainResult result := by
  have hfailed : ∀ reason, (pure (fanOutFailed reason) : Py (FanOutStore ρ) Json) s =
      (.ok result,s') → PlainResult result := by
    intro reason h
    obtain rfl := Except.ok.inj (Prod.mk.inj h).1
    exact fanOutFailed_plain reason
  rw [fanOutExecute] at h
  split at h
  · exact hfailed _ h
  · cases hid : parseUuid (jsonStr (profileReference cr.desiredOutcome)) with
    | error e =>
      rw [hid] at h
      exact hfailed _ h
    | ok profileId =>
      rw [hid] at h
      obtain ⟨_,_,h⟩ := Py.ofExcept_bind_eq_ok.mp h
      rw [Py.get_bind] at h
      cases hp : s.lookupProfile profileId cr.organizationId with
      | none =>
        rw [hp] at h
        exact hfailed _ h
      | some profile =>
        rw [hp] at h
        obtain ⟨r,t,hr,hplain⟩ := fanOutProfile_returns ops cr profile s
        obtain rfl := Except.ok.inj (Prod.mk.inj (hr.symm.trans h)).1
        exact hplain

end Executor

section Workflow

variable {env : Env (FanOutStore ρ)} {ops : FanOutOps ρ}
  {modules : String → String → Except Exc (ExecutorModule ρ)} {w : World (FanOutStore ρ)}

/-- The state in which the executor of a fan-out leaves its change. -/
def World.fannedOut (w : World (FanOutStore ρ)) (s : FanOutStore ρ) : World (FanOutStore ρ) :=
  { w.setStatus .executing with site := { w.site with outside := s } }

theorem activityExecuteChange_fanOut (h : isFanOutChangeType w.cr.changeType = true) :
    activityExecuteChange (env.withFanOut ops modules) (w.markStatus .executing) =
      ((fanOutExecute ops (w.setStatus .executing).cr w.site.outside).1,
        w.fannedOut (fanOutExecute ops (w.setStatus .executing).cr w.site.outside).2) := by
  have hexec : workflowExecutor (w.setStatus .executing).cr.changeType = .identityFanOut := by
    unfold workflowExecutor
    exact if_pos h
  rw [markStatus_of_ne (by decide),activityExecuteChange,Py.get_bind,hexec]
  rfl

theorem recordOutcome_fanOut (h : isFanOutChangeType w.cr.changeType = true) (run : Option Nat)
    (plan : Option ChangePlan) (steps : List PlanStep) (result : Json) :
    recordOutcome env run plan steps w.cr.changeType result =
      recordPlan env run plan steps result := by
  cases hct : w.cr.changeType <;> simp_all [isFanOutChangeType,recordOutcome]

theorem PlainResult.executorResult {result : Json} (h : PlainResult result) :
    executorResult result = .ok result ∧ reportsFailed result = false ∧
      result.isDict = true := by
  obtain ⟨d,rfl,hfailed,hsteps⟩ := h
  have hno : reportsFailed (.obj d) = false := by
    rw [reportsFailed,hfailed]
    rfl
  refine ⟨?_,hno,rfl⟩
  rw [Nexplane.executorResult]
  dsimp only
  rw [if_neg (by simp [hno]),hsteps,if_neg (by decide)]

/-- A fan-out whose executor returns is verified, whatever the result says. -/
theorem fanOutWorkflow_ok (hfan : isFanOutChangeType w.cr.changeType = true)
    (hrisk : w.cr.riskLevel.isSome) {result : Json} {s : FanOutStore ρ}
    (hrun : fanOutExecute ops (w.setStatus .executing).cr w.site.outside = (.ok result,s))
    (hplain : PlainResult result) :
    executeChangeWorkflow (env.withFanOut ops modules) w =
      verifyChange (env.withFanOut ops modules) (latestRun (fun _ => true) w.runs) w.cr.changePlan
        w.cr.steps result (w.fannedOut s) := by
  obtain ⟨hresult,hfailed,hdict⟩ := hplain.executorResult
  have hhook : hasPostHook (w.fannedOut s).cr.changeType = false := by
    have hct : isFanOutChangeType (w.fannedOut s).cr.changeType = true := hfan
    cases hct' : (w.fannedOut s).cr.changeType <;> simp_all [isFanOutChangeType,hasPostHook]
  rw [executeChangeWorkflow_eq hrisk,activityExecuteChange_fanOut hfan,hrun]
  dsimp only [World.recordExecution]
  rw [recordOutcome_fanOut hfan,recordPlan,hresult,Py.ofExcept_ok_bind,hfailed,
    if_neg Bool.false_ne_true,Py.get_bind,hhook,if_neg Bool.false_ne_true]
  dsimp only
  rw [hdict,if_pos rfl,Py.ofExcept_ok_bind]

theorem fanOutWorkflow_error (hfan : isFanOutChangeType w.cr.changeType = true)
    (hrisk : w.cr.riskLevel.isSome) {e : Exc} {s : FanOutStore ρ}
    (hrun : fanOutExecute ops (w.setStatus .executing).cr w.site.outside = (.error e,s)) :
    executeChangeWorkflow (env.withFanOut ops modules) w =
      recordException (latestRun (fun _ => true) w.runs) e (w.fannedOut s) := by
  rw [executeChangeWorkflow_eq hrisk,activityExecuteChange_fanOut hfan,hrun]
  rfl

theorem recordException_status (run : Option Nat) (e : Exc) (v : World (FanOutStore ρ)) :
    (recordException run e v).2.cr.status = .failed := by
  have hk : Py.Keeps (fun u : World (FanOutStore ρ) => u.cr.status = .failed)
      (updateExecutionRunStatus run .failed [("error",.str e.str)]) :=
    updateExecutionRunStatus_keeps (fun cr => cr.status = .failed) _ _ _
  exact hk (v.markStatus .failed) (by simp)

theorem workflowWrites_calls (calls : List Call) :
    WorkflowWrites fun u : World (FanOutStore ρ) => u.site.calls = calls where
  status := fun u s h => by simpa using h
  run := fun _ _ _ h => h
  outside := fun _ _ h => h

/-- No executor of an action is called by the workflow of a fan-out. -/
theorem fanOutWorkflow_calls (hfan : isFanOutChangeType w.cr.changeType = true)
    (hrisk : w.cr.riskLevel.isSome) :
    (executeChangeWorkflow (env.withFanOut ops modules) w).2.site.calls = w.site.calls := by
  rcases hrun : fanOutExecute ops (w.setStatus .executing).cr w.site.outside with ⟨_ | result,s⟩
  · rw [fanOutWorkflow_error hfan hrisk hrun]
    exact recordException_frame (workflowWrites_calls w.site.calls) _ _ _ rfl
  · rw [fanOutWorkflow_ok hfan hrisk hrun (fanOutExecute_plain hrun)]
    exact verifyChange_frame (workflowWrites_calls w.site.calls) _ _ _ _ _ rfl

end Workflow

section Status

variable {ops : FanOutOps ρ} {w : World (FanOutStore ρ)} {profile : IdentityProfile}

theorem referencedProfile_setStatus (w : World (FanOutStore ρ)) (status : ChangeRequestStatus) :
    referencedProfile w.site.outside (w.setStatus status).cr =
      referencedProfile w.site.outside w.cr := rfl

theorem fanOutWorkflow_completed (env : Env (FanOutStore ρ))
    (modules : String → String → Except Exc (ExecutorModule ρ))
    (hfan : isFanOutChangeType w.cr.changeType = true) (hrisk : w.cr.riskLevel.isSome)
    (hdb : ops.dbFactory = .ok ()) (hp : referencedProfile w.site.outside w.cr = some profile) :
    (executeChangeWorkflow (env.withFanOut ops modules) w).2.cr.status = .completed := by
  have href := (referencedProfile_setStatus w .executing).trans hp
  have hrun : fanOutExecute ops (w.setStatus .executing).cr w.site.outside =
      fanOutProfile ops (w.setStatus .executing).cr profile w.site.outside := by
    simp only [fanOutExecute_referenced href,hdb]
  obtain ⟨result,s,hresult,hplain⟩ :=
    fanOutProfile_returns ops (w.setStatus .executing).cr profile w.site.outside
  rw [fanOutWorkflow_ok hfan hrisk (hrun.trans hresult) hplain]
  exact verifyChange_status _ _ _ _

theorem fanOutWorkflow_failed (env : Env (FanOutStore ρ))
    (modules : String → String → Except Exc (ExecutorModule ρ))
    (hfan : isFanOutChangeType w.cr.changeType = true) (hrisk : w.cr.riskLevel.isSome) {e : Exc}
    (hdb : ops.dbFactory = .error e)
    (hp : referencedProfile w.site.outside w.cr = some profile) :
    (executeChangeWorkflow (env.withFanOut ops modules) w).2.cr.status = .failed := by
  have href := (referencedProfile_setStatus w .executing).trans hp
  have hrun : fanOutExecute ops (w.setStatus .executing).cr w.site.outside =
      (.error e,w.site.outside) := by
    simp only [fanOutExecute_referenced href,hdb]
  rw [fanOutWorkflow_error hfan hrisk hrun]
  exact recordException_status _ _ _

end Status

theorem not_performed {before after : World (FanOutStore ρ)}
    (h : after.site.calls = before.site.calls) (account : IdentityAccount) (action : String) :
    ¬Performed before after account action := by
  rintro ⟨calls,parameters,hcalls,hcall,_⟩
  have hnil : calls = [] := by simpa [h] using hcalls
  simp [hnil] at hcall

def sampleProfileId : Uuid := "12345678-1234-5678-1234-567812345678"

/-- A person with one account at an identity provider of the given type. -/
def sampleProfile (connectorType : String) : IdentityProfile :=
  ⟨sampleProfileId,"org-1","user@example.com",[⟨"connector-1",connectorType,"account-1",false⟩]⟩

/-- Rows are taken as they are, and the service of child rollbacks is missing. -/
def sampleFanOutOps (dbFactory : Except Exc Unit) : FanOutOps Unit where
  dbFactory := dbFactory
  newUuid := fun s => toString s.children.length
  refuses := fun _ _ => none
  rollbackChangeRequest :=
    .error (.importError "No module named 'app.services.change_request_service'")

def sampleFanOutEnv (dbFactory : Except Exc Unit) : Env (FanOutStore Unit) :=
  (Env.ofModules fun _ _ => .error (.keyError "action")).withFanOut (sampleFanOutOps dbFactory)
    fun _ _ => .error (.keyError "action")

def sampleStore (connectorType : String) : FanOutStore Unit := ⟨[sampleProfile connectorType],[],()⟩

def sampleLockoutRequest : ChangeRequest :=
  ⟨"cr-1","org-1","user-1",.emergencyUserLockout,[],
    [("identity_profile_id",.str sampleProfileId)],.approved,some .medium,none,none⟩

def sampleFanOutWorld (cr : ChangeRequest) (s : FanOutStore Unit) : World (FanOutStore Unit) :=
  ⟨cr,[],[⟨"wf-1",.pending,[]⟩],[],⟨[],[],[],[],s⟩⟩

/-- The child that locking out an account of the sample profile spawns. -/
def sampleChild : ChildRequest :=
  childRow sampleLockoutRequest "0" ⟨"connector-1","okta","account-1",false⟩ "suspend_user"

theorem sampleChild_spawned :
    SpawnedFor ⟨"connector-1","okta","account-1",false⟩ "suspend_user"
      sampleChild.toChangeRequest :=
  ⟨sampleLockoutRequest,rfl,rfl,rfl,rfl,rfl,rfl⟩

end Nexplane
