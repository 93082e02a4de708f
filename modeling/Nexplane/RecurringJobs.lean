import Nexplane.ChangePlans
import Nexplane.ExecutionGates

set_option autoImplicit false

/-! A recurring job that creates a change request, plans it and starts it where its policy allows
that. -/

namespace Nexplane
open PyValue

/-- The change request as it is created, before it is planned. -/
def RecurringJob.draft (env : GateEnv) (job : RecurringJob) (id : Uuid) : ChangeRequest :=
  let assetId := (job.parameters.getD "asset_id" .null).orElse
    (job.parameters.getD "target_asset_id" .null)
  { id := id
    organizationId := job.organizationId
    requesterId := job.createdBy
    changeType := (env.changeType job.actionId).getD (.generic "ssm_command")
    targetAssetIds := if assetId.truthy then [assetId.textOf] else []
    desiredOutcome := job.parameters
    status := .draft
    riskLevel := some .low
    changePlan := none
    applicationSequence := none }

section Planned

variable (planner : Planner) (inventory : List TargetAsset) (row : ChangePlanData → ChangePlan)

/-- What `plan_cr` does to the change request; `row` is the stored plan. The job catches every
exception, also the ones that do not block the plan. -/
def planningOutcome (cr : ChangeRequest) : PlanOutcome :=
  match planner.planCr inventory cr with
  | .ok planned => .planned planned.riskLevel (row planned.plan)
  | .error (.blocked issues) => .blocked issues
  | .error (.raised e) => .blocked [e.str]

variable (env : GateEnv) (job : RecurringJob) (id : Uuid)

/-- The job fires: it plans its change request and starts it, or leaves it to an approver. -/
def RecurringJob.fire (s : GateStore) : GateStore :=
  fireRecurringJob env job id (planningOutcome planner inventory row (job.draft env id)) s

/-- The change request is planned, and the policy of the job admits the level of the plan. -/
def PlannedWithinPolicy (s : GateStore) : Prop :=
  ∃ planned policyId policy, planner.planCr inventory (job.draft env id) = .ok planned ∧
    job.policyId = some policyId ∧ s.policies.find? (fun p => p.id = policyId) = some policy ∧
    riskOrder planned.riskLevel.value 999 ≤ riskOrder policy.maxRiskLevel 0

/-- What the firing of a job leaves. -/
structure LeftToApprover (s s' : GateStore) : Prop where
  started : s'.started = s.started
  approvals : s'.approvals = s.approvals
  waiting : job.enabled = true → id ∉ s.changes.map (fun cr => cr.id) →
    ∃ cr ∈ s'.changes, cr.id = id ∧ cr.status = .awaitingApproval

end Planned

section Fire

variable (planner : Planner) (inventory : List TargetAsset) (row : ChangePlanData → ChangePlan)
  (env : GateEnv) (job : RecurringJob) (id : Uuid) (s : GateStore)

/-- The change of the job is its draft, planned or moved on by the handler. -/
theorem change_draft (outcome : PlanOutcome) :
    (job.change env id outcome).toChangeRequest = match planCr (job.draft env id) outcome with
      | .ok planned => planned
      | .error _ => { job.draft env id with status := .planned } := by
  unfold RecurringJob.change
  cases outcome <;> rfl

theorem change_id (outcome : PlanOutcome) : (job.change env id outcome).id = id := by
  rw [change_draft]
  cases outcome <;> rfl

theorem insert_new (cr : ExecutableChange) (hnew : cr.id ∉ s.changes.map fun cr => cr.id) :
    (s.insert cr).changes = s.changes ++ [cr] := by
  simp [GateStore.insert,hnew]

theorem insert_approvals (cr : ExecutableChange) : (s.insert cr).approvals = s.approvals := by
  unfold GateStore.insert
  split <;> rfl

/-- Without a policy on the row of the job, the change request waits. -/
theorem fireRecurringJob_left (outcome : PlanOutcome) :
    LeftToApprover job id s (fireRecurringJob env job id outcome s) := by
  unfold fireRecurringJob
  split
  · rename_i hdisabled
    exact ⟨rfl,rfl,fun henabled => by simp [hdisabled] at henabled⟩
  · have hdenied : ∀ changeType riskLevel,
        policyAllows env (job.policyId.bind fun policyId =>
          s.policies.find? fun p => p.id = policyId) changeType riskLevel = false := fun _ _ => rfl
    dsimp only
    rw [hdenied,if_neg Bool.false_ne_true]
    refine ⟨GateStore.insert_started _,insert_approvals s _,fun _ hnew => ?_⟩
    let cr : ExecutableChange :=
      { job.change env id outcome with status := .awaitingApproval }
    have hid : cr.id = id := change_id env job id outcome
    refine ⟨cr,?_,hid,rfl⟩
    have hinsert := insert_new s cr (by rwa [hid])
    rw [hinsert]
    simp

/-- A recurring job approves and starts a change request only if it was planned within the policy,
and leaves it to an approver otherwise. -/
theorem recurring_jobs_stay_planned :
    ((job.fire planner inventory row env id s).started ≠ s.started ∨
        (job.fire planner inventory row env id s).approvals ≠ s.approvals →
      PlannedWithinPolicy planner inventory env job id s) ∧
    (¬PlannedWithinPolicy planner inventory env job id s →
      LeftToApprover job id s (job.fire planner inventory row env id s)) := by
  have hleft := fireRecurringJob_left env job id s
    (planningOutcome planner inventory row (job.draft env id))
  constructor
  · rintro (hstarted | happroved)
    · exact absurd hleft.started hstarted
    · exact absurd hleft.approvals happroved
  · exact fun _ => hleft

end Fire

end Nexplane
