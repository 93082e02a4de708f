import Nexplane.SafetyEngine
import Nexplane.Lib.Runs

set_option autoImplicit false

/-! The requests that plan, submit, approve, reject and cancel change requests, each as one
transaction on the tables. -/

namespace Nexplane
open PyValue

structure Db where
  changeRequests : Uuid → Option ChangeRequest
  approvals : List Approval

def Db.empty : Db := { changeRequests := fun _ => none, approvals := [] }

/-- The approval rows of one change request. -/
def Db.approvalsOf (db : Db) (crId : Uuid) : List Approval :=
  db.approvals.filter fun a => a.changeRequestId = crId

def Db.put (db : Db) (cr : ChangeRequest) : Db :=
  { db with changeRequests := fun id => if id = cr.id then some cr else db.changeRequests id }

def Db.addApproval (db : Db) (approval : Approval) : Db :=
  { db with approvals := db.approvals ++ [approval] }

def Db.deleteApprovals (db : Db) (crId : Uuid) : Db :=
  { db with approvals := db.approvals.filter fun a => a.changeRequestId ≠ crId }

/-- What `plan_cr` decides for a change request: blocked, or a risk level and a plan. -/
inductive PlanOutcome where
  | blocked (blockingIssues : List String)
  | planned (riskLevel : RiskLevel) (plan : ChangePlan)

inductive Request where
  | create (actor id : Uuid) (changeType : ChangeType) (targetAssetIds : List Uuid)
      (desiredOutcome : Dict)
  | plan (actor crId : Uuid) (outcome : PlanOutcome)
  | submitForApproval (actor crId : Uuid)
  | mcpSubmitForApproval (actor crId : Uuid) (outcome : PlanOutcome)
  | approve (actor crId : Uuid) (decision : ApprovalDecision)
      (freezeActive windowsClosed : Bool)
  | bulkApprove (actor : Uuid) (crIds : List Uuid) (decision : String)
  | mcpApprove (actor crId : Uuid)
  | reject (actor crId : Uuid)
  | mcpReject (actor crId : Uuid)
  | cancel (actor crId : Uuid)

section
variable (users : Uuid → User)

def roleOf (user : Uuid) : UserRole := (users user).role

def mayApprove (user : User) : Bool := user.role = .approver || user.role = .admin

def getCr (db : Db) (crId orgId : Uuid) : Except Refusal ChangeRequest :=
  match db.changeRequests crId with
  | some cr =>
    if cr.organizationId = orgId then .ok cr
    else .error (.http 404 "Change request not found")
  | none => .error (.http 404 "Change request not found")

/-- The lookup of the agent tools. -/
def mcpGetCr (db : Db) (crId orgId : Uuid) : Except Refusal ChangeRequest :=
  match db.changeRequests crId with
  | some cr =>
    if cr.organizationId = orgId then .ok cr
    else .error (.tool "Change request not found")
  | none => .error (.tool "Change request not found")

def createChangeRequest (db : Db) (actor id : Uuid) (changeType : ChangeType)
    (targetAssetIds : List Uuid) (desiredOutcome : Dict) : Except Refusal Db :=
  match db.changeRequests id with
  | some _ => .error (.unhandled "IntegrityError")
  | none =>
    .ok (db.put {
      id := id
      organizationId := (users actor).organizationId
      requesterId := actor
      changeType := changeType
      targetAssetIds := targetAssetIds
      desiredOutcome := desiredOutcome
      status := .draft
      riskLevel := none
      changePlan := none
      applicationSequence := none })

def planCr (cr : ChangeRequest) : PlanOutcome → Except (List String) ChangeRequest
  | .blocked blockingIssues => .error blockingIssues
  | .planned riskLevel plan =>
    .ok { cr with riskLevel := some riskLevel, changePlan := some plan, status := .planned }

def generateChangePlan (db : Db) (actor crId : Uuid) (outcome : PlanOutcome) :
    Except Refusal Db := do
  let cr ← getCr db crId (users actor).organizationId
  if cr.status ≠ .draft ∧ cr.status ≠ .planned then
    throw (.http 400 ("Cannot plan a change request in status '" ++ cr.status.value ++ "'"))
  match planCr cr outcome with
  | .error _ => throw (.http 422 "Safety review blocked plan generation")
  | .ok cr => return (db.deleteApprovals crId).put cr

def submitForApproval (db : Db) (actor crId : Uuid) : Except Refusal Db := do
  let cr ← getCr db crId (users actor).organizationId
  if cr.status ≠ .planned then
    throw (.http 400 "Change request must be in 'planned' status to submit for approval")
  if cr.changePlan.isNone then
    throw (.http 400 "No change plan exists. Generate a plan first.")
  if cr.riskLevel.isNone then
    throw (.unhandled "AttributeError")
  return db.put { cr with status := .awaitingApproval }

/-- The agent tool plans a draft first; the stale approvals stay. -/
def mcpSubmitForApproval (db : Db) (actor crId : Uuid) (outcome : PlanOutcome) :
    Except Refusal Db := do
  let cr ← mcpGetCr db crId (users actor).organizationId
  if cr.status = .draft then
    match planCr cr outcome with
    | .error _ => throw (.tool "Plan generation failed: Safety review blocked plan generation")
    | .ok cr => return db.put { cr with status := .awaitingApproval }
  else if cr.status = .planned then
    return db.put { cr with status := .awaitingApproval }
  else
    throw (.tool ("CR must be in draft or planned state to submit for approval; current status: "
      ++ cr.status.str))

/-- `windowsClosed`: maintenance windows are configured for the organization and none is open
for the target assets. -/
def approveChangeRequest (db : Db) (actor crId : Uuid) (decision : ApprovalDecision)
    (freezeActive windowsClosed : Bool) : Except Refusal Db := do
  if freezeActive then
    throw (.http 423 "change_freeze_active")
  let cr ← getCr db crId (users actor).organizationId
  if cr.status ≠ .awaitingApproval then
    throw (.http 400 "Change request is not awaiting approval")
  if !mayApprove (users actor) then
    throw (.http 403 "Only approvers and admins can approve change requests")
  if (db.approvalsOf crId).any fun a => a.approverId = actor then
    throw (.http 400 "You have already submitted an approval decision")
  let approval : Approval :=
    { changeRequestId := crId, approverId := actor, decision := decision }
  let db := db.addApproval approval
  match cr.riskLevel with
  | none => throw (.unhandled "KeyError")
  | some level =>
    let reqCheck := checkApprovalRequirements (roleOf users) level (db.approvalsOf crId)
    if decision = .approved ∧ reqCheck.satisfied then
      return db.put
        { cr with status := if windowsClosed then .queuedForMaintenance else .approved }
    else
      return db

/-- One turn of the loop of `bulk_approve`. -/
def bulkApproveOne (user : User) (decision : String) (db : Db) (crId : Uuid) : Db :=
  match db.changeRequests crId with
  | none => db
  | some cr =>
    if cr.organizationId = user.organizationId ∧ cr.status = .awaitingApproval then
      if cr.riskLevel = some .critical ∧ decision = "approved" then db
      else if decision = "approved" then db.put { cr with status := .approved }
      else db.put { cr with status := .rejected }
    else db

def bulkApprove (db : Db) (actor : Uuid) (crIds : List Uuid) (decision : String) :
    Except Refusal Db := do
  if !mayApprove (users actor) then
    throw (.http 403 "Approver role required")
  return crIds.foldl (bulkApproveOne (users actor) decision) db

def mcpApproveChangeRequest (db : Db) (actor crId : Uuid) : Except Refusal Db := do
  if !mayApprove (users actor) then
    throw (.tool "Insufficient permissions to approve Change Requests")
  let cr ← mcpGetCr db crId (users actor).organizationId
  if cr.requesterId = actor then
    throw (.tool "Cannot approve a Change Request you created")
  if cr.status ≠ .draft ∧ cr.status ≠ .awaitingApproval then
    throw (.tool ("CR is in " ++ cr.status.str ++
      " state — only draft or awaiting_approval CRs can be approved"))
  return (db.addApproval
    { changeRequestId := crId, approverId := actor, decision := .approved }).put
      { cr with status := .approved }

def rejectChangeRequest (db : Db) (actor crId : Uuid) : Except Refusal Db := do
  let cr ← getCr db crId (users actor).organizationId
  if cr.status ≠ .awaitingApproval then
    throw (.http 400 "Change request is not awaiting approval")
  if !mayApprove (users actor) then
    throw (.http 403 "Only approvers and admins can reject change requests")
  return (db.addApproval
    { changeRequestId := crId, approverId := actor, decision := .rejected }).put
      { cr with status := .rejected }

def mcpRejectChangeRequest (db : Db) (actor crId : Uuid) : Except Refusal Db := do
  if !mayApprove (users actor) then
    throw (.tool "Insufficient permissions to reject Change Requests")
  let cr ← mcpGetCr db crId (users actor).organizationId
  return (db.addApproval
    { changeRequestId := crId, approverId := actor, decision := .rejected }).put
      { cr with status := .rejected }

def cancelableStatuses : List ChangeRequestStatus :=
  [.draft,.planned,.awaitingApproval,.approved,.queuedForMaintenance]

def cancelChangeRequest (db : Db) (actor crId : Uuid) : Except Refusal Db := do
  let cr ← getCr db crId (users actor).organizationId
  if cr.status ∉ cancelableStatuses then
    throw (.http 400 ("Cannot cancel a change request in status '" ++ cr.status.value ++ "'"))
  if cr.requesterId ≠ actor ∧ !mayApprove (users actor) then
    throw (.http 403 "Only the requester, approvers, or admins can cancel a change request")
  return db.put { cr with status := .rejected }

def handle (db : Db) : Request → Except Refusal Db
  | .create actor id changeType targets desired =>
    createChangeRequest users db actor id changeType targets desired
  | .plan actor crId outcome => generateChangePlan users db actor crId outcome
  | .submitForApproval actor crId => submitForApproval users db actor crId
  | .mcpSubmitForApproval actor crId outcome => mcpSubmitForApproval users db actor crId outcome
  | .approve actor crId decision freezeActive windowsClosed =>
    approveChangeRequest users db actor crId decision freezeActive windowsClosed
  | .bulkApprove actor crIds decision => bulkApprove users db actor crIds decision
  | .mcpApprove actor crId => mcpApproveChangeRequest users db actor crId
  | .reject actor crId => rejectChangeRequest users db actor crId
  | .mcpReject actor crId => mcpRejectChangeRequest users db actor crId
  | .cancel actor crId => cancelChangeRequest users db actor crId

/-- A refused request commits nothing. -/
def requestSystem : Runs.System Db Request where
  start db := db = Db.empty
  step db req := (handle users db req).toOption

end

end Nexplane
