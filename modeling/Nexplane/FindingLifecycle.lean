import Nexplane.PatchCampaigns
import Nexplane.VulnerabilityFindings
import Nexplane.Lib.Checks
import Nexplane.Lib.Lists

set_option autoImplicit false

/-! The status of one vulnerability finding under all operations that may write it. -/

namespace Nexplane
open PyValue Runs

def allowedStatusTransitions : List (String × List String) :=
  [("open",["accepted_risk","false_positive","exploitability_pending","actionable"]),
    ("exploitability_pending",["actionable","challenged"]),
    ("challenged",["actionable"]),
    ("actionable",["remediating","accepted_risk","false_positive"]),
    ("remediating",["verifying"]),
    ("verifying",["resolved","open"]),
    ("resolved",["regressed","regressed_intentional"]),
    ("regressed",["remediating","accepted_risk"]),
    ("regressed_intentional",["remediating"])]

def allowedFrom (status : String) : List String :=
  (allowedStatusTransitions.lookup status).getD []

def mitigationCrMap : List (String × String) :=
  [("network_isolation","security_group_update"),("waf","microsegmentation_policy"),
    ("feature_flag","ssm_command"),("rate_limit","ssm_command"),("virtual_patch","ssm_command"),
    ("full_isolation","security_group_update"),("seccomp","agent_ossecurity"),
    ("apparmor","agent_ossecurity"),("process_isolation","agent_ossecurity"),
    ("ebpf","agent_ossecurity"),("capability_drop","agent_ossecurity"),
    ("protocol_control","apply_protocol_control"),("kernel_feature","disable_kernel_feature"),
    ("registry_fix","apply_registry_fix"),("package_remove","remove_vulnerable_package"),
    ("credential_revoke","revoke_exposed_credential")]

def severityOrder : List String := ["informational","low","medium","high","critical"]

/-- An unknown severity counts as the one in the middle. -/
def escalateSeverity (current : String) : String :=
  let idx := if current ∈ severityOrder then severityOrder.idxOf current else 2
  (severityOrder[min (idx + 1) (severityOrder.length - 1)]?).getD current

/-- The catalog of known exploited vulnerabilities, when it was fetched. -/
abbrev KevCache := Option (List String)

def checkCisaKev (kev : KevCache) (cveId : String) : Bool := kev.any (cveId ∈ ·)

/-- The attributes of the model class of connectors. -/
def connectorAttributes : List String :=
  ["id","organization_id","connector_type","name","status","scoped_permissions","created_at",
    "network_path","network_tls_skip_verify","organization"]

def connectorAttribute (name : String) : Except Exc Unit :=
  if name ∈ connectorAttributes then .ok () else .error .attributeError

/-- The conditions of the query for the connector are built first; `rescan` is what the scanner
reports in the end. -/
def verifyViaNessus (rescan : Except Exc String) : Except Exc String := do
  connectorAttribute "organization_id"
  connectorAttribute "connector_type"
  connectorAttribute "enabled"
  rescan

def triggerVerification (f : VulnerabilityFinding) (rescan : Except Exc String) : String :=
  let scanner := f.scanner.toLower
  if scanner = "nessus" ∨ scanner = "tenable" then
    match verifyViaNessus rescan with
    | .ok result => result
    | .error _ => "inconclusive"
  else "inconclusive"

/-- The requests of users and agents on a finding. The agent tools that accept the risk, validate,
challenge and verify write the finding as the endpoints do. -/
inductive FindingRequest where
  | updateStatus (status : String)
  | generate (env : GenerationEnv) (policy : Option RemediationPolicy)
  | patch (requesterId crId : Uuid)
  | mitigate (requesterId : Uuid) (changeType : String → Option ChangeType)
      (controls : List (String × Uuid))
  | acceptRisk
  | pocValidate (kev : KevCache) (requesterId crId : Uuid) (assetId : Option Uuid)
  | challenge
  | verify (rescan : Except Exc String)
  | agentUpdateStatus (status : String)
  | markFalsePositive

namespace FindingRecord

def setStatus (r : FindingRecord) (status : String) : FindingRecord :=
  { r with finding := { r.finding with status := status } }

def addRequest (r : FindingRecord) (cr : ChangeRequest) : FindingRecord :=
  { r with changeRequests := r.changeRequests ++ [cr] }

/-- A change request for the finding that is created in this status. -/
def requestFor (r : FindingRecord) (crId requesterId : Uuid) (changeType : ChangeType)
    (targetAssetIds : List Uuid) (desiredOutcome : Dict) (riskLevel : RiskLevel)
    (status : ChangeRequestStatus) : ChangeRequest where
  id := crId
  organizationId := r.finding.organizationId
  requesterId := requesterId
  changeType := changeType
  targetAssetIds := targetAssetIds
  desiredOutcome := desiredOutcome
  status := status
  riskLevel := some riskLevel
  changePlan := none
  applicationSequence := none

def updateStatus (r : FindingRecord) (status : String) : Except Exc FindingRecord :=
  if status ∈ allowedFrom r.finding.status then .ok (r.setStatus status)
  else .error (.http 422
    ("Cannot transition from '" ++ r.finding.status ++ "' to '" ++ status ++ "'"))

def patch (r : FindingRecord) (requesterId crId : Uuid) : Except Exc FindingRecord := do
  let f := r.finding
  match f.assetId with
  | none => .error (.http 422 "Finding has no matched asset — cannot patch")
  | some assetId =>
    let status ← ChangeRequestStatus.attribute "pending"
    let cr := r.requestFor crId requesterId (.generic "patch_packages") [assetId]
      [("mode",.str (if f.cveId.getD "" = "" then "package" else "cve")),
        ("cve_id",.str (f.cveId.getD ""))] .medium status
    pure { r.addRequest cr with
      finding := { f with
        status := "remediation_in_progress"
        changeRequestId := some crId } }

/-- The change request of one compensating control. -/
def controlRequest (r : FindingRecord) (requesterId : Uuid)
    (changeType : String → Option ChangeType) (control : String × Uuid) : ChangeRequest :=
  let value := (mitigationCrMap.lookup control.1).getD "generic_remediation"
  r.requestFor control.2 requesterId ((changeType value).getD (.generic "generic_remediation"))
    r.finding.assetId.toList
    [("mitigation_control",.str control.1),("rollback_strategy",.str "nexplane_rollback")]
    .low .draft

/-- The change requests are only started before the finding counts as mitigated. -/
def mitigate (r : FindingRecord) (requesterId : Uuid) (changeType : String → Option ChangeType)
    (controls : List (String × Uuid)) : FindingRecord :=
  { r with
    finding := { r.finding with
      mitigations := r.finding.mitigations ++ controls
      status := "mitigated" }
    changeRequests :=
      r.changeRequests ++ controls.map (r.controlRequest requesterId changeType) }

def pocValidate (r : FindingRecord) (kev : KevCache) (requesterId crId : Uuid)
    (assetId : Option Uuid) : FindingRecord :=
  let f := r.finding
  if checkCisaKev kev (f.cveId.getD "") then
    { r with finding := { f with
        status := "actionable"
        exploitabilityResult := some "exploited"
        pocSource := some "cisa_kev" } }
  else
    let cr := r.requestFor crId requesterId (.generic "vuln_poc_validate")
      (assetId.or f.assetId).toList
      [("poc_source",.str "nessus_plugin"),("poc_ref",.str "")] .medium .draft
    (r.addRequest cr).setStatus "exploitability_pending"

def challenge (r : FindingRecord) : Except Exc FindingRecord :=
  if r.finding.pocSource = some "cisa_kev" then
    .error (.http 400 "CISA KEV findings cannot be challenged")
  else .ok (r.setStatus "challenged")

/-- What a verification writes of its result. -/
def recordVerification (r : FindingRecord) (result : String) : FindingRecord :=
  let f := { r.finding with verificationResult := some result }
  if result = "resolved" then
    { r with finding := { f with status := "resolved", verificationFailed := false } }
  else if result = "still_vulnerable" then
    { r with finding := { f with status := "open", verificationFailed := true } }
  else { r with finding := f }

def verify (r : FindingRecord) (rescan : Except Exc String) : FindingRecord :=
  r.recordVerification (triggerVerification r.finding rescan)

/-- A finding that is open or actionable and was not validated is looked up in the catalog. -/
def bulkEnrichKev (r : FindingRecord) (kev : KevCache) : FindingRecord :=
  let f := r.finding
  match f.cveId with
  | none => r
  | some cveId =>
    if (f.status = "open" ∨ f.status = "actionable") ∧ f.pocSource = none ∧
        checkCisaKev kev cveId = true then
      { r with finding := { f with
          exploitabilityResult := some "exploited"
          pocSource := some "cisa_kev"
          pocRef := some cveId
          status := "actionable"
          severity := escalateSeverity f.severity } }
    else r

def change (r : FindingRecord) (crId : Uuid) (status : ChangeRequestStatus) : FindingRecord :=
  { r with
    changeRequests := r.changeRequests.map fun cr =>
      if cr.id = crId then { cr with status := status } else cr }

end FindingRecord

def FindingRequest.apply (r : FindingRecord) : FindingRequest → Except Exc FindingRecord
  | .updateStatus status => r.updateStatus status
  | .generate env policy => generateChangeRequestForFinding env policy r
  | .patch requesterId crId => r.patch requesterId crId
  | .mitigate requesterId changeType controls => .ok (r.mitigate requesterId changeType controls)
  | .acceptRisk => .ok (r.setStatus "accepted_risk")
  | .pocValidate kev requesterId crId assetId => .ok (r.pocValidate kev requesterId crId assetId)
  | .challenge => r.challenge
  | .verify rescan => .ok (r.verify rescan)
  | .agentUpdateStatus status => .ok (r.setStatus status)
  | .markFalsePositive => .ok (r.setStatus "false_positive")

inductive LifecycleEvent where
  | ingest (env : GenerationEnv) (f : FindingIngest) (id organizationId : Uuid)
      (scanner : String) (assetId : Option Uuid) (slaHours : Option Int) (now : Int)
  | request (organizationId : Uuid) (q : FindingRequest)
  | bulkEnrichKev (kev : KevCache)
  | enforceSlas (env : GenerationEnv) (now : Int)
  | processSlaBreaches (settings : Uuid → Option SlaConfig) (now : Int)
  | change (crId : Uuid) (status : ChangeRequestStatus)

/-- The operations on one finding, which is stored once. A refused request changes nothing. -/
def lifecycleSystem : System (Option FindingRecord) LifecycleEvent where
  start s := s = none
  step s e :=
    match s, e with
    | none, .ingest env f id organizationId scanner assetId slaHours now =>
      some (some (ingestFinding env (f.toFinding id organizationId scanner assetId) slaHours now))
    | none, _ => none
    | some r, .ingest .. => some (some r)
    | some r, .request organizationId q =>
      if r.finding.organizationId = organizationId then
        (q.apply r).toOption.map some
      else none
    | some r, .bulkEnrichKev kev => some (some (r.bulkEnrichKev kev))
    | some r, .enforceSlas env now => some (some (r.enforceSlas env now))
    | some r, .processSlaBreaches settings now =>
      some (some (r.processSlaBreaches settings now))
    | some r, .change crId status => some (some (r.change crId status))

/-- The operations that change the status along the table. -/
def LifecycleEvent.byTable : LifecycleEvent → Bool
  | .request _ (.updateStatus _) | .bulkEnrichKev _ => true
  | _ => false

/-- The statuses that an operation writes whatever the status was. -/
def LifecycleEvent.ownStatuses : LifecycleEvent → List String
  | .request _ (.generate ..) | .enforceSlas .. => ["change_request_generated"]
  | .request _ (.mitigate ..) => ["mitigated"]
  | .request _ .acceptRisk => ["accepted_risk"]
  | .request _ (.pocValidate ..) => ["actionable","exploitability_pending"]
  | .request _ .challenge => ["challenged"]
  | .request _ (.verify _) => ["resolved","open"]
  | .request _ (.agentUpdateStatus status) => [status]
  | .request _ .markFalsePositive => ["false_positive"]
  | _ => []

/-- The values that the agent tool documents for a status. -/
def documentedStatuses : List String :=
  ["open","accepted_risk","false_positive","exploitability_pending","actionable","remediating",
    "verifying","resolved"]

/-- An agent gives a documented status. -/
def LifecycleEvent.Documented : LifecycleEvent → Prop
  | .request _ (.agentUpdateStatus status) => status ∈ documentedStatuses
  | _ => True

/-- The keys of the table, its two final targets, and the statuses of the two operations that have
one of their own. -/
def knownStatuses : List String :=
  allowedStatusTransitions.map Prod.fst ++
    ["accepted_risk","false_positive","change_request_generated","mitigated"]

section Steps

variable {r r' : FindingRecord} {e : LifecycleEvent}

theorem generate_status {env : GenerationEnv} {policy : Option RemediationPolicy}
    (h : generateChangeRequestForFinding env policy r = .ok r') :
    r'.finding.status = "change_request_generated" := by
  unfold generateChangeRequestForFinding at h
  cases huser : env.systemUser r.finding.organizationId with
  | none => simp [huser] at h
  | some systemUser =>
    simp only [huser,Except.ok.injEq] at h
    rw [← h]

theorem patch_refused (requesterId crId : Uuid) : r.patch requesterId crId ≠ .ok r' := by
  unfold FindingRecord.patch
  dsimp only
  split
  · simp
  · simp [bind,Except.bind,pending_not_member]

theorem recordVerification_status (result : String) :
    (r.recordVerification result).finding.status = r.finding.status ∨
      (r.recordVerification result).finding.status = "resolved" ∧ result = "resolved" ∨
      (r.recordVerification result).finding.status = "open" := by
  unfold FindingRecord.recordVerification
  dsimp only
  split
  · exact Or.inr (Or.inl ⟨rfl,‹_›⟩)
  split
  · exact Or.inr (Or.inr rfl)
  · exact Or.inl rfl

theorem bulkEnrichKev_status (kev : KevCache) :
    (r.bulkEnrichKev kev).finding.status = r.finding.status ∨
      r.finding.status = "open" ∧ (r.bulkEnrichKev kev).finding.status = "actionable" := by
  unfold FindingRecord.bulkEnrichKev
  dsimp only
  split
  · exact Or.inl rfl
  split
  · next h =>
    rcases h.1 with hopen | hactionable
    · exact Or.inr ⟨hopen,rfl⟩
    · exact Or.inl hactionable.symm
  · exact Or.inl rfl

theorem escalateBreach_finding (now : Int) : (r.escalateBreach now).finding = r.finding := by
  unfold FindingRecord.escalateBreach
  split
  · rfl
  split
  · split
    · rfl
    · split <;> rfl
  · rfl

theorem requestForBreach_status (env : GenerationEnv) :
    (r.requestForBreach env).finding.status = r.finding.status ∨
      (r.requestForBreach env).finding.status = "change_request_generated" := by
  unfold FindingRecord.requestForBreach
  split
  · exact Or.inl rfl
  · dsimp only
    split
    · exact Or.inr (generate_status ‹_›)
    · exact Or.inl rfl

theorem enforceSlas_status (env : GenerationEnv) (now : Int) :
    (r.enforceSlas env now).finding.status = r.finding.status ∨
      (r.enforceSlas env now).finding.status = "change_request_generated" := by
  rw [FindingRecord.enforceSlas,escalateBreach_finding]
  unfold FindingRecord.markBreach
  split
  · exact Or.inl rfl
  split
  · exact requestForBreach_status env
  · exact Or.inl rfl

theorem upgradeSeverity_status (config : SlaConfig) (now : Int) :
    (r.upgradeSeverity config now).finding.status = r.finding.status := by
  unfold FindingRecord.upgradeSeverity
  split
  · rfl
  split
  · split <;> rfl
  · rfl

theorem processBreach_status (config : SlaConfig) (now : Int) :
    (r.processBreach config now).finding.status = r.finding.status := by
  have hassign : ∀ sla, (r.assignBreach config now sla).finding.status = r.finding.status := by
    intro sla
    unfold FindingRecord.assignBreach
    split <;> rfl
  unfold FindingRecord.processBreach
  split
  · rfl
  split
  · dsimp only
    split
    · exact hassign _
    · exact hassign _
  · rfl

theorem processSlaBreaches_status (settings : Uuid → Option SlaConfig) (now : Int) :
    (r.processSlaBreaches settings now).finding.status = r.finding.status := by
  unfold FindingRecord.processSlaBreaches
  split
  · rfl
  · rw [upgradeSeverity_status,processBreach_status]

/-- What a request can do to the status. -/
theorem request_status {q : FindingRequest} (organizationId : Uuid) (h : q.apply r = .ok r') :
    r'.finding.status = r.finding.status ∨
      ((LifecycleEvent.request organizationId q).byTable = true ∧
        r'.finding.status ∈ allowedFrom r.finding.status) ∨
      ((LifecycleEvent.request organizationId q).byTable = false ∧
        r'.finding.status ∈ (LifecycleEvent.request organizationId q).ownStatuses) := by
  cases q with
  | updateStatus status =>
    simp only [FindingRequest.apply,FindingRecord.updateStatus] at h
    split at h
    · next hallowed =>
      obtain rfl := Except.ok.inj h
      exact Or.inr (Or.inl ⟨rfl,hallowed⟩)
    · cases h
  | generate env policy => exact Or.inr (Or.inr ⟨rfl,by simp [LifecycleEvent.ownStatuses,
      generate_status h]⟩)
  | patch requesterId crId => exact absurd h (patch_refused requesterId crId)
  | mitigate requesterId changeType controls =>
    obtain rfl := Except.ok.inj h
    exact Or.inr (Or.inr ⟨rfl,List.mem_singleton.mpr rfl⟩)
  | acceptRisk =>
    obtain rfl := Except.ok.inj h
    exact Or.inr (Or.inr ⟨rfl,List.mem_singleton.mpr rfl⟩)
  | pocValidate kev requesterId crId assetId =>
    obtain rfl := Except.ok.inj h
    refine Or.inr (Or.inr ⟨rfl,?_⟩)
    unfold FindingRecord.pocValidate
    dsimp only
    split
    · exact List.mem_cons_self
    · exact List.mem_cons_of_mem _ (List.mem_singleton.mpr rfl)
  | challenge =>
    simp only [FindingRequest.apply,FindingRecord.challenge] at h
    split at h
    · cases h
    · obtain rfl := Except.ok.inj h
      exact Or.inr (Or.inr ⟨rfl,List.mem_singleton.mpr rfl⟩)
  | verify rescan =>
    obtain rfl := Except.ok.inj h
    rcases recordVerification_status (r := r) (triggerVerification r.finding rescan) with
      hsame | ⟨hresolved,_⟩ | hopen
    · exact Or.inl hsame
    · refine Or.inr (Or.inr ⟨rfl,?_⟩)
      simp [LifecycleEvent.ownStatuses,FindingRecord.verify,hresolved]
    · refine Or.inr (Or.inr ⟨rfl,?_⟩)
      simp [LifecycleEvent.ownStatuses,FindingRecord.verify,hopen]
  | agentUpdateStatus status =>
    obtain rfl := Except.ok.inj h
    exact Or.inr (Or.inr ⟨rfl,List.mem_singleton.mpr rfl⟩)
  | markFalsePositive =>
    obtain rfl := Except.ok.inj h
    exact Or.inr (Or.inr ⟨rfl,List.mem_singleton.mpr rfl⟩)

/-- What one operation can do to the status. -/
theorem lifecycle_step_status (h : lifecycleSystem.step (some r) e = some (some r')) :
    r'.finding.status = r.finding.status ∨
      (e.byTable = true ∧ r'.finding.status ∈ allowedFrom r.finding.status) ∨
      (e.byTable = false ∧ r'.finding.status ∈ e.ownStatuses) := by
  cases e with
  | ingest =>
    obtain rfl := Option.some.inj (Option.some.inj h)
    exact Or.inl rfl
  | request organizationId q =>
    obtain ⟨-,h⟩ := Option.ite_none_right_eq_some.mp h
    obtain ⟨r₁,hr₁,heq⟩ := Option.map_eq_some_iff.mp h
    obtain rfl := Option.some.inj heq
    exact request_status organizationId (Checks.toOption_eq_some.mp hr₁)
  | bulkEnrichKev kev =>
    obtain rfl := Option.some.inj (Option.some.inj h)
    rcases bulkEnrichKev_status (r := r) kev with hsame | ⟨hopen,hactionable⟩
    · exact Or.inl hsame
    · refine Or.inr (Or.inl ⟨rfl,?_⟩)
      rw [hopen,hactionable]
      decide
  | enforceSlas env now =>
    obtain rfl := Option.some.inj (Option.some.inj h)
    rcases enforceSlas_status (r := r) env now with hsame | hgenerated
    · exact Or.inl hsame
    · exact Or.inr (Or.inr ⟨rfl,by simp [LifecycleEvent.ownStatuses,hgenerated]⟩)
  | processSlaBreaches settings now =>
    obtain rfl := Option.some.inj (Option.some.inj h)
    exact Or.inl (processSlaBreaches_status settings now)
  | change crId status =>
    obtain rfl := Option.some.inj (Option.some.inj h)
    exact Or.inl rfl

theorem allowedFrom_known {status status' : String} (h : status' ∈ allowedFrom status) :
    status' ∈ knownStatuses ∧ status' ≠ "mitigated" := by
  have htable : ∀ entry ∈ allowedStatusTransitions, ∀ status' ∈ entry.2,
      status' ∈ knownStatuses ∧ status' ≠ "mitigated" := by decide
  unfold allowedFrom at h
  cases hlookup : allowedStatusTransitions.lookup status with
  | none => simp [hlookup] at h
  | some targets =>
    rw [hlookup] at h
    exact htable _ (Lists.mem_of_lookup hlookup) _ h

/-- Only one status leads to the resolved one. -/
theorem verifying_of_allowed {status : String} (h : "resolved" ∈ allowedFrom status) :
    status = "verifying" := by
  have htable : ∀ entry ∈ allowedStatusTransitions, "resolved" ∈ entry.2 →
      entry.1 = "verifying" := by decide
  unfold allowedFrom at h
  cases hlookup : allowedStatusTransitions.lookup status with
  | none => simp [hlookup] at h
  | some targets =>
    rw [hlookup] at h
    exact htable _ (Lists.mem_of_lookup hlookup) h

theorem ownStatuses_known (hdoc : e.Documented) {status : String}
    (h : status ∈ e.ownStatuses) : status ∈ knownStatuses := by
  cases e with
  | request organizationId q =>
    cases q with
    | agentUpdateStatus given =>
      obtain rfl := List.mem_singleton.mp h
      have hall : ∀ status ∈ documentedStatuses, status ∈ knownStatuses := by decide
      exact hall _ hdoc
    | verify rescan =>
      have hall : ∀ status ∈ ["resolved","open"], status ∈ knownStatuses := by decide
      exact hall _ h
    | pocValidate kev requesterId crId assetId =>
      have hall : ∀ status ∈ ["actionable","exploitability_pending"],
          status ∈ knownStatuses := by decide
      exact hall _ h
    | updateStatus given => cases h
    | patch requesterId crId => cases h
    | generate | mitigate | acceptRisk | challenge | markFalsePositive =>
      obtain rfl := List.mem_singleton.mp h
      decide
  | enforceSlas env now =>
    obtain rfl := List.mem_singleton.mp h
    decide
  | ingest | bulkEnrichKev | processSlaBreaches | change => cases h

theorem applyPolicy_status (env : GenerationEnv) :
    (r.applyPolicy env).finding.status = r.finding.status ∨
      (r.applyPolicy env).finding.status = "change_request_generated" := by
  unfold FindingRecord.applyPolicy
  split
  · exact Or.inl rfl
  split
  · exact Or.inl rfl
  · split
    · exact Or.inr (generate_status ‹_›)
    · exact Or.inl rfl

end Steps

/-- The finding, if it is stored, has a known status. -/
def StatusKnown (s : Option FindingRecord) : Prop :=
  ∀ r, s = some r → r.finding.status ∈ knownStatuses

theorem status_known : InductiveUnder lifecycleSystem (fun _ e => e.Documented) StatusKnown where
  start := by
    rintro s h0 r rfl
    cases h0
  step := by
    intro s e s' h hdoc hs r' hr'
    obtain rfl := hr'
    cases s with
    | none =>
      cases e with
      | ingest env f id organizationId scanner assetId slaHours now =>
        obtain rfl := Option.some.inj (Option.some.inj hs)
        rcases applyPolicy_status env with hopen | hgenerated
        · rw [ingestFinding,hopen]
          exact List.mem_append_left _ List.mem_cons_self
        · rw [ingestFinding,hgenerated]
          decide
      | _ => cases hs
    | some r =>
      rcases lifecycle_step_status hs with hsame | ⟨_,hallowed⟩ | ⟨_,hown⟩
      · rw [hsame]
        exact h r rfl
      · exact (allowedFrom_known hallowed).1
      · exact ownStatuses_known hdoc hown

/-- What holds of the status of a finding in a run that ends in `s`. -/
structure LifecycleKept (tr : List (Transition (Option FindingRecord) LifecycleEvent))
    (s : Option FindingRecord) : Prop where
  changes : ∀ t ∈ tr, ∀ r r', t.pre = some r → t.post = some r' →
    r'.finding.status ≠ r.finding.status →
      if t.label.byTable then r'.finding.status ∈ allowedFrom r.finding.status
      else r'.finding.status ∈ t.label.ownStatuses
  known : (∀ t ∈ tr, t.label.Documented) → ∀ r, s = some r → r.finding.status ∈ knownStatuses
  mitigated : ∀ t ∈ tr, ∀ r r', t.pre = some r → t.post = some r' → t.label.Documented →
    r.finding.status ≠ "mitigated" → r'.finding.status = "mitigated" →
      ∃ organizationId requesterId changeType controls,
        t.label = .request organizationId (.mitigate requesterId changeType controls) ∧
          ∀ control ∈ controls, control ∈ r'.finding.mitigations ∧
            ∃ cr ∈ r'.changeRequests, cr.id = control.2
  resolved : ∀ t ∈ tr, ∀ r r', t.pre = some r → t.post = some r' →
    r.finding.status ≠ "resolved" → r'.finding.status = "resolved" →
      r.finding.status = "verifying" ∧ t.label.byTable = true ∨
        (∃ organizationId rescan, t.label = .request organizationId (.verify rescan) ∧
          r'.finding.verificationResult = some "resolved") ∨
        ∃ organizationId, t.label = .request organizationId (.agentUpdateStatus "resolved")

section Entries

variable {r r' : FindingRecord} {e : LifecycleEvent}

theorem mitigated_entered (h : lifecycleSystem.step (some r) e = some (some r'))
    (hdoc : e.Documented) (hpre : r.finding.status ≠ "mitigated")
    (hpost : r'.finding.status = "mitigated") :
    ∃ organizationId requesterId changeType controls,
      e = .request organizationId (.mitigate requesterId changeType controls) ∧
        ∀ control ∈ controls, control ∈ r'.finding.mitigations ∧
          ∃ cr ∈ r'.changeRequests, cr.id = control.2 := by
  rcases lifecycle_step_status h with hsame | ⟨_,hallowed⟩ | ⟨_,hown⟩
  · exact absurd (hsame.symm.trans hpost) hpre
  · exact absurd hpost (allowedFrom_known hallowed).2
  · rw [hpost] at hown
    cases e with
    | request organizationId q =>
      cases q with
      | mitigate requesterId changeType controls =>
        obtain ⟨-,h⟩ := Option.ite_none_right_eq_some.mp h
        obtain rfl := Option.some.inj (Option.some.inj h)
        refine ⟨organizationId,requesterId,changeType,controls,rfl,fun control hcontrol => ?_⟩
        refine ⟨List.mem_append_right _ hcontrol,
          r.controlRequest requesterId changeType control,?_,rfl⟩
        exact List.mem_append_right _ (List.mem_map_of_mem hcontrol)
      | agentUpdateStatus status =>
        obtain rfl := List.mem_singleton.mp hown
        exact absurd hdoc (by decide : "mitigated" ∉ documentedStatuses)
      | _ => simp [LifecycleEvent.ownStatuses] at hown
    | _ => simp [LifecycleEvent.ownStatuses] at hown

theorem resolved_entered (h : lifecycleSystem.step (some r) e = some (some r'))
    (hpre : r.finding.status ≠ "resolved") (hpost : r'.finding.status = "resolved") :
    r.finding.status = "verifying" ∧ e.byTable = true ∨
      (∃ organizationId rescan, e = .request organizationId (.verify rescan) ∧
        r'.finding.verificationResult = some "resolved") ∨
      ∃ organizationId, e = .request organizationId (.agentUpdateStatus "resolved") := by
  rcases lifecycle_step_status h with hsame | ⟨htable,hallowed⟩ | ⟨_,hown⟩
  · exact absurd (hsame.symm.trans hpost) hpre
  · rw [hpost] at hallowed
    exact Or.inl ⟨verifying_of_allowed hallowed,htable⟩
  · rw [hpost] at hown
    refine Or.inr ?_
    cases e with
    | request organizationId q =>
      cases q with
      | verify rescan =>
        obtain ⟨-,h⟩ := Option.ite_none_right_eq_some.mp h
        obtain rfl := Option.some.inj (Option.some.inj h)
        refine Or.inl ⟨organizationId,rescan,rfl,?_⟩
        rcases recordVerification_status (r := r) (triggerVerification r.finding rescan) with
          hsame | ⟨_,hresult⟩ | hopen
        · exact absurd (hsame.symm.trans hpost) hpre
        · simp [FindingRecord.verify,FindingRecord.recordVerification,hresult]
        · rw [FindingRecord.verify,hopen] at hpost
          exact absurd hpost (by decide)
      | agentUpdateStatus status =>
        obtain rfl := List.mem_singleton.mp hown
        exact Or.inr ⟨organizationId,rfl⟩
      | _ => simp [LifecycleEvent.ownStatuses] at hown
    | _ => simp [LifecycleEvent.ownStatuses] at hown

end Entries

theorem lifecycle_kept {tr : List (Transition (Option FindingRecord) LifecycleEvent)}
    {s : Option FindingRecord} (h : Run lifecycleSystem tr s) : LifecycleKept tr s where
  changes t ht r r' hpre hpost hne := by
    obtain ⟨-,hstep⟩ := h.transition t ht
    rw [hpre,hpost] at hstep
    rcases lifecycle_step_status hstep with hsame | ⟨htable,hallowed⟩ | ⟨hown,hmem⟩
    · exact absurd hsame hne
    · rwa [if_pos htable]
    · rwa [if_neg (by simp [hown])]
  known hdoc := h.guarded status_known hdoc
  mitigated t ht r r' hpre hpost hdoc := by
    obtain ⟨-,hstep⟩ := h.transition t ht
    rw [hpre,hpost] at hstep
    exact mitigated_entered hstep hdoc
  resolved t ht r r' hpre hpost := by
    obtain ⟨-,hstep⟩ := h.transition t ht
    rw [hpre,hpost] at hstep
    exact resolved_entered hstep

/-- What one would expect of the statuses of a finding in a run. -/
structure FollowsTable (tr : List (Transition (Option FindingRecord) LifecycleEvent)) : Prop where
  transitions : ∀ t ∈ tr, ∀ r r', t.pre = some r → t.post = some r' →
    r'.finding.status ≠ r.finding.status → r'.finding.status ∈ allowedFrom r.finding.status
  keys : ∀ t ∈ tr, ∀ r, t.post = some r →
    r.finding.status ∈ allowedStatusTransitions.map Prod.fst
  evidence : ∀ t ∈ tr, ∀ r r', t.pre = some r → t.post = some r' →
    r'.finding.status ≠ r.finding.status →
    r'.finding.status = "mitigated" ∨ r'.finding.status = "resolved" →
      (r'.changeRequests ≠ [] ∧ ∀ cr ∈ r'.changeRequests, cr.status = .completed) ∨
        r'.finding.verificationResult = some "resolved"

def noPolicies : GenerationEnv where
  policies := []
  users := []
  changeType := fun _ => none
  newId := fun id => id

def reported : LifecycleEvent :=
  .ingest noPolicies { findingType := "cve", severity := "high" } "f1" "o1" "nessus" none
    (some 168) 0

def statusUpdate (status : String) : LifecycleEvent := .request "o1" (.updateStatus status)

theorem run_unreported : Run lifecycleSystem [] none := .start rfl

/-- A finding that is mitigated at once. -/
theorem mitigated_lifecycle_kept :
    ∃ tr s, Run lifecycleSystem tr (some s) ∧ s.finding.status = "mitigated" ∧
      LifecycleKept tr (some s) := by
  have hrun : lifecycleSystem.replay none
      [reported,.request "o1" (.mitigate "u1" (fun _ => none) [("waf","cr1")])] =
    some (some _) := rfl
  exact ⟨_,_,run_unreported.replay hrun,rfl,lifecycle_kept (run_unreported.replay hrun)⟩

/-- Along the table a finding is resolved with neither a change request nor a verification. -/
theorem resolved_without_evidence :
    ∃ tr s, Run lifecycleSystem tr (some s) ∧ s.finding.status = "resolved" ∧
      (∀ t ∈ tr, t.label = reported ∨ t.label.byTable = true) ∧ ¬FollowsTable tr := by
  have hrun : lifecycleSystem.replay none
      [reported,statusUpdate "actionable",statusUpdate "remediating",statusUpdate "verifying",
        statusUpdate "resolved"] = some (some _) := rfl
  refine ⟨_,_,run_unreported.replay hrun,rfl,?_,fun h => ?_⟩
  · refine System.history_meets (G := fun _ e => e = reported ∨ e.byTable = true) ?_ (by simp)
    exact ⟨Or.inl rfl,Or.inr rfl,Or.inr rfl,Or.inr rfl,Or.inr rfl,trivial⟩
  · rcases h.evidence _ List.mem_cons_self _ _ rfl rfl (by decide) (Or.inr rfl) with h | h
    · exact h.1 rfl
    · cases h

end Nexplane
