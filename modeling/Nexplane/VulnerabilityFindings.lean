import Nexplane.Entities

set_option autoImplicit false

/-! Vulnerability findings with their SLA rows and change requests, the change request that is
generated for a finding, and the two jobs that enforce the SLAs. Times are in microseconds. -/

namespace Nexplane
open PyValue

structure VulnerabilityFinding where
  id : Uuid
  organizationId : Uuid
  assetId : Option Uuid := none
  scanner : String
  scannerFindingId : Option String := none
  findingType : String
  severity : String
  cveId : Option String := none
  resourceType : Option String := none
  status : String := "open"
  changeRequestId : Option Uuid := none
  assignedToUserId : Option Uuid := none
  mitigations : List (String × Uuid) := []
  exploitabilityResult : Option String := none
  pocSource : Option String := none
  pocRef : Option String := none
  verificationResult : Option String := none
  verificationFailed : Bool := false
  deriving DecidableEq

/-- A criterion that is absent matches every finding. -/
structure RemediationPolicy where
  organizationId : Uuid
  matchScanner : Option String
  matchFindingType : Option String
  matchSeverity : Option (List String)
  matchResourceType : Option String
  actionType : String
  actionParams : Dict
  priority : Int
  enabled : Bool

structure RemediationSLA where
  severity : String
  slaHours : Int
  dueAt : Int
  breached : Bool := false
  breachNotifiedAt : Option Int := none
  escalatedAt : Option Int := none
  deriving DecidableEq

/-- A finding with its SLA row, of which there is at most one, and the change requests that its
columns may name. -/
structure FindingRecord where
  finding : VulnerabilityFinding
  sla : Option RemediationSLA := none
  changeRequests : List ChangeRequest := []

def hours (n : Int) : Int := n * 3600000000

/-- The tables that the generation of a change request reads, the members of `ChangeType` by their
values, and the id of the row that is created for a finding. -/
structure GenerationEnv where
  policies : List RemediationPolicy
  users : List User
  changeType : String → Option ChangeType
  newId : Uuid → Uuid

def resourceTypeMap : List (String × String) :=
  [("s3_public_access","s3_block_public_access"),("security_group_open","security_group_update"),
    ("iam_no_mfa","iam_enforce_mfa")]

def VulnerabilityFinding.defaultAction (f : VulnerabilityFinding) : String :=
  if f.findingType = "cve" then "patch_packages"
  else (resourceTypeMap.lookup (f.resourceType.getD "")).getD "generic_remediation"

def RemediationPolicy.matches (p : RemediationPolicy) (f : VulnerabilityFinding) : Bool :=
  p.enabled && p.matchScanner.all (· = f.scanner) && p.matchFindingType.all (· = f.findingType) &&
    p.matchSeverity.all (f.severity ∈ ·) &&
    p.matchResourceType.all (some · = f.resourceType)

/-- The first of the matching policies with the highest priority. -/
def matchPolicy (f : VulnerabilityFinding) (policies : List RemediationPolicy) :
    Option RemediationPolicy :=
  match policies.filter (·.matches f) with
  | [] => none
  | p :: ps => some (ps.foldl (fun best p => if best.priority < p.priority then p else best) p)

/-- The enabled policies of the organization that the finding belongs to. -/
def GenerationEnv.policiesOf (env : GenerationEnv) (organizationId : Uuid) :
    List RemediationPolicy :=
  env.policies.filter fun p => p.organizationId = organizationId ∧ p.enabled = true

/-- A user of the organization, or else any user. -/
def GenerationEnv.systemUser (env : GenerationEnv) (organizationId : Uuid) : Option User :=
  (env.users.find? fun u => u.organizationId = organizationId).or env.users.head?

def GenerationEnv.changeTypeOf (env : GenerationEnv) (actionType : String) : ChangeType :=
  (env.changeType actionType).getD (.generic "generic_remediation")

def generateChangeRequestForFinding (env : GenerationEnv) (policy : Option RemediationPolicy)
    (r : FindingRecord) : Except Exc FindingRecord :=
  let f := r.finding
  let actionType := (policy.map RemediationPolicy.actionType).getD f.defaultAction
  let actionParams := (policy.map RemediationPolicy.actionParams).getD []
  match env.systemUser f.organizationId with
  | none => .error (.runtimeError
      "Cannot generate auto-remediation CR: no users exist in the system")
  | some systemUser =>
    let cr : ChangeRequest := {
      id := env.newId f.id
      organizationId := f.organizationId
      requesterId := systemUser.id
      changeType := env.changeTypeOf actionType
      targetAssetIds := f.assetId.toList
      desiredOutcome := actionParams
      status := .draft
      riskLevel := some .medium
      changePlan := none
      applicationSequence := none }
    .ok { r with
      finding := { f with
        changeRequestId := some (env.newId f.id)
        status := "change_request_generated" }
      changeRequests := r.changeRequests ++ [cr] }

/-- A finding as a scanner reports it. -/
structure FindingIngest where
  scannerFindingId : Option String := none
  findingType : String
  severity : String
  cveId : Option String := none
  resourceType : Option String := none

def FindingIngest.toFinding (f : FindingIngest) (id organizationId : Uuid) (scanner : String)
    (assetId : Option Uuid) : VulnerabilityFinding where
  id := id
  organizationId := organizationId
  assetId := assetId
  scanner := scanner
  scannerFindingId := f.scannerFindingId
  findingType := f.findingType
  severity := f.severity
  cveId := f.cveId
  resourceType := f.resourceType

/-- The SLA row of a new finding; zero hours count as none. -/
def newSla (severity : String) (slaHours : Option Int) (now : Int) : Option RemediationSLA :=
  match slaHours with
  | none => none
  | some n =>
    if n = 0 then none
    else some { severity := severity, slaHours := n, dueAt := now + hours n }

/-- The policy that matches a new finding may generate a change request for it. -/
def FindingRecord.applyPolicy (env : GenerationEnv) (r : FindingRecord) : FindingRecord :=
  match matchPolicy r.finding (env.policiesOf r.finding.organizationId) with
  | none => r
  | some policy =>
    if policy.actionType = "notify_only" ∨ policy.actionType = "suppress" then r
    else
      match generateChangeRequestForFinding env (some policy) r with
      | .ok r => r
      | .error _ => r

/-- A finding that is stored for the first time. -/
def ingestFinding (env : GenerationEnv) (finding : VulnerabilityFinding)
    (slaHours : Option Int) (now : Int) : FindingRecord :=
  FindingRecord.applyPolicy env
    { finding := finding, sla := newSla finding.severity slaHours now }

/-- Hours after a breach until it is escalated. -/
def escalationHours : List (String × Int) := [("critical",4),("high",24),("medium",72)]

def severityUpgrade : List (String × String) := [("medium","high"),("high","critical")]

def RemediationSLA.notify (sla : RemediationSLA) (now : Int) : RemediationSLA :=
  { sla with breached := true, breachNotifiedAt := some now }

namespace FindingRecord

def setSla (r : FindingRecord) (sla : RemediationSLA) : FindingRecord := { r with sla := some sla }

/-- The change request for an open finding that has none; a failure is only logged. -/
def requestForBreach (env : GenerationEnv) (r : FindingRecord) : FindingRecord :=
  if r.finding.status ≠ "open" ∨ r.finding.changeRequestId.isSome then r
  else
    let matched := matchPolicy r.finding (env.policiesOf r.finding.organizationId)
    match generateChangeRequestForFinding env matched r with
    | .ok r => r
    | .error _ => r

/-- The first loop of `enforce_slas` at the SLA of a finding. -/
def markBreach (env : GenerationEnv) (now : Int) (r : FindingRecord) : FindingRecord :=
  match r.sla with
  | none => r
  | some sla =>
    if sla.dueAt < now ∧ sla.breached = false then
      (r.setSla (sla.notify now)).requestForBreach env
    else r

/-- The second loop. -/
def escalateBreach (now : Int) (r : FindingRecord) : FindingRecord :=
  match r.sla with
  | none => r
  | some sla =>
    if sla.breached = true ∧ sla.escalatedAt = none then
      match escalationHours.lookup sla.severity with
      | none => r
      | some threshold =>
        if sla.dueAt + hours threshold ≤ now then r.setSla { sla with escalatedAt := some now }
        else r
    else r

def enforceSlas (env : GenerationEnv) (now : Int) (r : FindingRecord) : FindingRecord :=
  (r.markBreach env now).escalateBreach now

end FindingRecord

/-- What `process_sla_breaches` reads of the settings of an organization. -/
structure SlaConfig where
  escalateToUserId : Option Uuid := none
  autoExecuteOnBreach : Bool := false
  severityUpgradeHours : Int := 48

namespace FindingRecord

/-- A change request of the finding that awaits approval is approved. -/
def approve (r : FindingRecord) : FindingRecord :=
  { r with
    changeRequests := r.changeRequests.map fun cr =>
      if some cr.id = r.finding.changeRequestId ∧ cr.status = .awaitingApproval then
        { cr with status := .approved }
      else cr }

/-- The finding is assigned to the escalation user, if there is one and it has no user yet. -/
def assignBreach (config : SlaConfig) (now : Int) (sla : RemediationSLA) (r : FindingRecord) :
    FindingRecord :=
  match config.escalateToUserId, r.finding.assignedToUserId with
  | some user, none =>
    { r with
      finding := { r.finding with assignedToUserId := some user }
      sla := some { sla with escalatedAt := some now } }
  | _, _ => r.setSla sla

/-- The first session of `process_sla_breaches` at the SLA of a finding. -/
def processBreach (config : SlaConfig) (now : Int) (r : FindingRecord) : FindingRecord :=
  match r.sla with
  | none => r
  | some sla =>
    if sla.dueAt ≤ now ∧ sla.breached = false ∧
        (r.finding.status = "open" ∨ r.finding.status = "change_request_generated") then
      let r := r.assignBreach config now (sla.notify now)
      if config.autoExecuteOnBreach = true ∧ r.finding.changeRequestId.isSome then r.approve
      else r
    else r

/-- The second session. -/
def upgradeSeverity (config : SlaConfig) (now : Int) (r : FindingRecord) : FindingRecord :=
  match r.sla with
  | none => r
  | some sla =>
    if sla.breached = true ∧
        sla.breachNotifiedAt.any (· ≤ now - hours config.severityUpgradeHours) ∧
        sla.escalatedAt = none then
      match severityUpgrade.lookup r.finding.severity with
      | none => r
      | some severity =>
        { r with
          finding := { r.finding with severity := severity }
          sla := some { sla with escalatedAt := some now } }
    else r

/-- `process_sla_breaches` runs for the organizations that have settings. -/
def processSlaBreaches (settings : Uuid → Option SlaConfig) (now : Int) (r : FindingRecord) :
    FindingRecord :=
  match settings r.finding.organizationId with
  | none => r
  | some config => (r.processBreach config now).upgradeSeverity config now

end FindingRecord

end Nexplane
