import Nexplane.Entities
import Nexplane.Lib.Orm
import Nexplane.Lib.Runs

set_option autoImplicit false

/-! Access-review campaigns: the requests on one campaign and the collection of its entries,
statement by statement, under read-committed isolation. -/

namespace Nexplane
open PyValue Runs

inductive ReviewStatus where
  | draft
  | collecting
  | inReview
  | awaitingApproval
  | completed
  | cancelled
  deriving DecidableEq, Repr

def ReviewStatus.value : ReviewStatus → String
  | .draft => "draft"
  | .collecting => "collecting"
  | .inReview => "in_review"
  | .awaitingApproval => "awaiting_approval"
  | .completed => "completed"
  | .cancelled => "cancelled"

inductive ReviewDecision where
  | keep
  | revoke
  deriving DecidableEq, Repr

structure ReviewCampaign where
  id : Uuid
  organizationId : Uuid
  status : ReviewStatus := .draft
  errorMessage : Option String := none
  completedAt : Option Int := none

/-- `resourceType` is the connector type of the identity. -/
structure ReviewEntry where
  id : Uuid
  userEmail : String
  resourceName : String
  resourceType : String
  connectorId : Option Uuid
  permissionLevel : String
  isPrivileged : Bool
  decision : Option ReviewDecision := none
  decisionNote : Option String := none
  decidedAt : Option Int := none
  decidedBy : Option Uuid := none
  changeRequestId : Option Uuid := none

/-- The row after an UPDATE by a transaction that loaded `loaded`. -/
def ReviewCampaign.flush (row loaded assigned : ReviewCampaign) : ReviewCampaign :=
  { row with
    status := Orm.flushColumn row.status loaded.status assigned.status
    errorMessage := Orm.flushColumn row.errorMessage loaded.errorMessage assigned.errorMessage
    completedAt := Orm.flushColumn row.completedAt loaded.completedAt assigned.completedAt }

def ReviewEntry.flush (row loaded assigned : ReviewEntry) : ReviewEntry :=
  { row with
    decision := Orm.flushColumn row.decision loaded.decision assigned.decision
    decisionNote := Orm.flushColumn row.decisionNote loaded.decisionNote assigned.decisionNote
    decidedAt := Orm.flushColumn row.decidedAt loaded.decidedAt assigned.decidedAt
    decidedBy := Orm.flushColumn row.decidedBy loaded.decidedBy assigned.decidedBy }

/-- What a reviewer submits for an entry. -/
structure DecisionSubmit where
  entryId : Uuid
  decision : ReviewDecision
  note : Option String
  decidedBy : Uuid
  decidedAt : Int

def DecisionSubmit.assign (d : DecisionSubmit) (entry : ReviewEntry) : ReviewEntry :=
  { entry with
    decision := some d.decision
    decisionNote := d.note
    decidedAt := some d.decidedAt
    decidedBy := some d.decidedBy }

/-- The next statement of a request or of the collector: of a launch and a cancellation the COMMIT;
of the collector the SELECT of the campaign, its queries, and the COMMIT; of a decision the SELECT of
the entry, its UPDATE, the count of the undecided entries, and the COMMIT; of an approval the count,
the SELECT of the revoked entries, and their change requests up to the COMMIT. -/
inductive ReviewPhase where
  | launching
  | cancelling
  | scheduled
  | collecting
  | collected (entries : List ReviewEntry)
  | selecting (d : DecisionSubmit)
  | updating (d : DecisionSubmit) (entry : ReviewEntry)
  | counting (d : DecisionSubmit) (entry : ReviewEntry)
  | deciding (d : DecisionSubmit) (entry : ReviewEntry)
  | checking (approverId : Uuid)
  | choosing (approverId : Uuid)
  | revoking (approverId : Uuid) (todo : List ReviewEntry) (created : List (Uuid × ChangeRequest))

/-- An open transaction with the campaign as it loaded it and as it has assigned to it since. -/
structure ReviewRequest where
  loaded : ReviewCampaign
  campaign : ReviewCampaign
  phase : ReviewPhase

structure ReviewState where
  row : ReviewCampaign
  entries : List ReviewEntry
  revocations : List ChangeRequest
  requests : List ReviewRequest

/-- `fail` ends a request or the collector by an error from outside. What the collector makes of the
inventory is given with the event, its failure as the text of the exception. -/
inductive ReviewEvent where
  | launch (organizationId : Uuid)
  | cancel (organizationId : Uuid)
  | submit (organizationId : Uuid) (d : DecisionSubmit)
  | approve (organizationId approverId : Uuid)
  | collect (i : Nat)
  | gather (i : Nat) (entries : List ReviewEntry) (failure : Option String)
  | select (i : Nat)
  | update (i : Nat)
  | count (i : Nat)
  | revoke (i : Nat) (crId : Uuid)
  | commit (i : Nat) (now : Int)
  | fail (i : Nat)

def assertCampaign (row : ReviewCampaign) (organizationId : Uuid) : Except Exc Unit :=
  if row.organizationId = organizationId then .ok () else .error (.http 404 "Campaign not found")

def launchable (row : ReviewCampaign) : Except Exc Unit :=
  if row.status ≠ .draft then
    .error (.http 422 ("Cannot launch campaign in status '" ++ row.status.value ++ "'"))
  else .ok ()

def cancellable (row : ReviewCampaign) : Except Exc Unit :=
  if row.status = .completed then .error (.http 422 "Cannot cancel a completed campaign")
  else .ok ()

def acceptsDecisions (row : ReviewCampaign) : Except Exc Unit :=
  if row.status ≠ .inReview ∧ row.status ≠ .awaitingApproval then
    .error (.http 422 "Campaign is not accepting decisions")
  else .ok ()

def approvable (row : ReviewCampaign) : Except Exc Unit :=
  if row.status ≠ .awaitingApproval then
    .error (.http 422
      ("Campaign must be awaiting_approval, got '" ++ row.status.value ++ "'"))
  else .ok ()

/-- `CONNECTOR_TO_CHANGE_TYPE`. -/
def connectorToChangeType : List (String × String) :=
  [("okta","rotate_service_account"),("active_directory","offboard_user"),
    ("google_workspace","offboard_user"),("github","offboard_user"),("entra_id","offboard_user"),
    ("azure","offboard_user"),("aws","key_rotation")]

def connectorTypeToChangeType (connectorType : String) : String :=
  (connectorToChangeType.lookup connectorType).getD "remote_command"

/-- The change request that `generate_revocation_crs` makes for an entry. -/
def revocationCr (campaign : ReviewCampaign) (approverId crId : Uuid) (entry : ReviewEntry) :
    ChangeRequest where
  id := crId
  organizationId := campaign.organizationId
  requesterId := approverId
  changeType := .generic (connectorTypeToChangeType entry.resourceType)
  targetAssetIds := entry.connectorId.toList
  desiredOutcome := [("user_email",.str entry.userEmail),("resource_name",.str entry.resourceName),
    ("permission_level",.str entry.permissionLevel),("review_campaign_id",.str campaign.id)]
  status := .draft
  riskLevel := some (if entry.isPrivileged then .high else .medium)
  changePlan := none
  applicationSequence := none

/-- The entries whose rows the transaction has written and holds until its end. -/
def ReviewRequest.holds (r : ReviewRequest) : List Uuid :=
  match r.phase with
  | .counting d _ | .deciding d _ => [d.entryId]
  | .revoking _ _ created => created.map Prod.fst
  | _ => []

namespace ReviewState

def begin (s : ReviewState) (check : Except Exc Unit) (campaign : ReviewCampaign)
    (phase : ReviewPhase) : Option ReviewState :=
  match check with
  | .ok _ => some { s with requests := s.requests ++ [{ loaded := s.row, campaign, phase }] }
  | .error _ => none

def setRequest (s : ReviewState) (i : Nat) (r : ReviewRequest) : ReviewState :=
  { s with requests := s.requests.set i r }

/-- A transaction that is closed without a commit. -/
def drop (s : ReviewState) (i : Nat) : ReviewState := { s with requests := s.requests.eraseIdx i }

/-- An UPDATE of an entry waits for a transaction that holds its row. -/
def locked (s : ReviewState) (i : Nat) (entryId : Uuid) : Bool :=
  (s.requests.eraseIdx i).any fun r => r.holds.contains entryId

/-- The collector takes the campaign up whatever its status is. -/
def collect (s : ReviewState) (i : Nat) (r : ReviewRequest) : Option ReviewState :=
  match r.phase with
  | .scheduled =>
    some (s.setRequest i { loaded := s.row, campaign := s.row, phase := .collecting })
  | _ => none

/-- A failure leaves the entries that were collected before it, and they are committed. -/
def gather (s : ReviewState) (i : Nat) (entries : List ReviewEntry) (failure : Option String)
    (r : ReviewRequest) : Option ReviewState :=
  match r.phase with
  | .collecting =>
    let campaign : ReviewCampaign :=
      match failure with
      | none => { r.campaign with status := .inReview, errorMessage := none }
      | some text =>
        { r.campaign with
          status := .draft, errorMessage := some (String.ofList (text.toList.take 500)) }
    let fresh := entries.map fun e => { e with decision := none, changeRequestId := none }
    some (s.setRequest i { r with campaign, phase := .collected fresh })
  | _ => none

def select (s : ReviewState) (i : Nat) (r : ReviewRequest) : Option ReviewState :=
  match r.phase with
  | .selecting d =>
    match s.entries.find? fun e => e.id = d.entryId with
    | none => some (s.drop i)
    | some entry => some (s.setRequest i { r with phase := .updating d entry })
  | .choosing approverId =>
    let todo := s.entries.filter fun e => e.decision = some .revoke
    some (s.setRequest i { r with phase := .revoking approverId todo [] })
  | _ => none

def update (s : ReviewState) (i : Nat) (r : ReviewRequest) : Option ReviewState :=
  match r.phase with
  | .updating d entry =>
    if s.locked i d.entryId = true then none
    else some (s.setRequest i { r with phase := .counting d entry })
  | _ => none

/-- The entries as the transaction of a decision sees them. -/
def decided (s : ReviewState) (d : DecisionSubmit) (entry : ReviewEntry) : List ReviewEntry :=
  s.entries.map fun e => if e.id = d.entryId then e.flush entry (d.assign entry) else e

def pending (entries : List ReviewEntry) : Nat := entries.countP fun e => e.decision = none

def count (s : ReviewState) (i : Nat) (r : ReviewRequest) : Option ReviewState :=
  match r.phase with
  | .counting d entry =>
    let campaign :=
      if pending (s.decided d entry) = 0 ∧ r.campaign.status = .inReview then
        { r.campaign with status := .awaitingApproval }
      else r.campaign
    some (s.setRequest i { r with campaign, phase := .deciding d entry })
  | .checking approverId =>
    if 0 < pending s.entries then some (s.drop i)
    else some (s.setRequest i { r with phase := .choosing approverId })
  | _ => none

/-- The change request of the next revoked entry. Its link goes out with a later flush, at the
latest with the commit. -/
def revoke (s : ReviewState) (i : Nat) (crId : Uuid) (r : ReviewRequest) : Option ReviewState :=
  match r.phase with
  | .revoking approverId (entry :: todo) created =>
    if s.locked i entry.id = true then none
    else
      let cr := revocationCr r.campaign approverId crId entry
      some (s.setRequest i
        { r with phase := .revoking approverId todo (created ++ [(entry.id,cr)]) })
  | _ => none

/-- The entries with their links to the change requests. -/
def linked (s : ReviewState) (created : List (Uuid × ChangeRequest)) : List ReviewEntry :=
  s.entries.map fun e =>
    match created.lookup e.id with
    | some cr => { e with changeRequestId := some cr.id }
    | none => e

/-- A launch that is committed schedules the collector. -/
def commit (s : ReviewState) (i : Nat) (now : Int) (r : ReviewRequest) : Option ReviewState :=
  let row := s.row.flush r.loaded r.campaign
  match r.phase with
  | .launching =>
    some { s with
      row := row
      requests := s.requests.eraseIdx i ++
        [{ loaded := row, campaign := row, phase := .scheduled }] }
  | .cancelling => some { s.drop i with row := row }
  | .collected entries => some { s.drop i with row := row, entries := s.entries ++ entries }
  | .deciding d entry => some { s.drop i with row := row, entries := s.decided d entry }
  | .revoking _ [] created =>
    let campaign := { r.campaign with status := .completed, completedAt := some now }
    some { s.drop i with
      row := s.row.flush r.loaded campaign
      entries := s.linked created
      revocations := s.revocations ++ created.map Prod.snd }
  | _ => none

def step (s : ReviewState) : ReviewEvent → Option ReviewState
  | .launch organizationId =>
    s.begin (do assertCampaign s.row organizationId; launchable s.row)
      { s.row with status := .collecting } .launching
  | .cancel organizationId =>
    s.begin (do assertCampaign s.row organizationId; cancellable s.row)
      { s.row with status := .cancelled } .cancelling
  | .submit organizationId d =>
    s.begin (do assertCampaign s.row organizationId; acceptsDecisions s.row) s.row (.selecting d)
  | .approve organizationId approverId =>
    s.begin (do assertCampaign s.row organizationId; approvable s.row) s.row (.checking approverId)
  | .collect i => s.requests[i]?.bind (s.collect i)
  | .gather i entries failure => s.requests[i]?.bind (s.gather i entries failure)
  | .select i => s.requests[i]?.bind (s.select i)
  | .update i => s.requests[i]?.bind (s.update i)
  | .count i => s.requests[i]?.bind (s.count i)
  | .revoke i crId => s.requests[i]?.bind (s.revoke i crId)
  | .commit i now => s.requests[i]?.bind (s.commit i now)
  | .fail i => s.requests[i]?.map fun _ => s.drop i

end ReviewState

/-- A campaign is created as a draft without entries. -/
def reviewSystem : System ReviewState ReviewEvent where
  start s := s.row.status = .draft ∧ s.entries = [] ∧ s.requests = []
  step := ReviewState.step

end Nexplane
