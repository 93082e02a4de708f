import Nexplane.VulnerabilityFindings

set_option autoImplicit false

/-! Whether it matters which of the two SLA jobs is the first to see a finding overdue. -/

namespace Nexplane

/-- A run of one of the two jobs, at its time. -/
inductive SlaRun where
  | enforce (now : Int)
  | process (now : Int)

/-- What the jobs bring about for a finding, apart from the marks in its SLA row. -/
structure SlaEffects where
  breached : Bool
  status : String
  changeRequestId : Option Uuid
  changeRequests : List (Uuid × ChangeRequestStatus)
  assignedToUserId : Option Uuid
  severity : String
  deriving DecidableEq

def FindingRecord.effects (r : FindingRecord) : SlaEffects where
  breached := r.sla.any RemediationSLA.breached
  status := r.finding.status
  changeRequestId := r.finding.changeRequestId
  changeRequests := r.changeRequests.map fun cr => (cr.id,cr.status)
  assignedToUserId := r.finding.assignedToUserId
  severity := r.finding.severity

section Schedule

variable (env : GenerationEnv) (settings : Uuid → Option SlaConfig)

def FindingRecord.runJob (r : FindingRecord) : SlaRun → FindingRecord
  | .enforce now => r.enforceSlas env now
  | .process now => r.processSlaBreaches settings now

/-- Each run takes up all rows, one after the other, and a row is not touched for another. -/
def runSchedule (runs : List SlaRun) (records : List FindingRecord) : List FindingRecord :=
  runs.foldl (fun records job => records.map fun r => r.runJob env settings job) records

end Schedule

/-- Both jobs see the finding overdue, and none has marked it. -/
def FindingRecord.Overdue (now : Int) (r : FindingRecord) : Prop :=
  ∃ sla, r.sla = some sla ∧ sla.breached = false ∧ sla.dueAt < now

/-- Whichever job comes first, the effects on the findings that are overdue at that time are the
same in the end, and after each further schedule. -/
def JobsCommute (env : GenerationEnv) (settings : Uuid → Option SlaConfig) (first second : Int)
    (records : List FindingRecord) : Prop :=
  ∀ (rest : List SlaRun) (i : Nat) (r : FindingRecord), records[i]? = some r → r.Overdue first →
    ((runSchedule env settings (.enforce first :: .process second :: rest) records)[i]?).map
        FindingRecord.effects =
      ((runSchedule env settings (.process first :: .enforce second :: rest) records)[i]?).map
        FindingRecord.effects

/-- The breach is old enough at this time to be escalated. -/
def RemediationSLA.overThreshold (sla : RemediationSLA) (now : Int) : Bool :=
  (escalationHours.lookup sla.severity).any fun threshold => sla.dueAt + hours threshold ≤ now

namespace FindingRecord

/-- The statuses that `process_sla_breaches` takes up. -/
def Live (r : FindingRecord) : Prop :=
  r.finding.status = "open" ∨ r.finding.status = "change_request_generated"

/-- `enforce_slas` generates a change request for the breach. -/
def Generates (env : GenerationEnv) (r : FindingRecord) : Prop :=
  r.finding.status = "open" ∧ r.finding.changeRequestId = none ∧
    (env.systemUser r.finding.organizationId).isSome

/-- `process_sla_breaches` assigns the finding for the breach. -/
def Assigns (config : SlaConfig) (r : FindingRecord) : Prop :=
  config.escalateToUserId.isSome ∧ r.finding.assignedToUserId = none

/-- `process_sla_breaches` approves a change request for the breach. -/
def Approves (config : SlaConfig) (r : FindingRecord) : Prop :=
  config.autoExecuteOnBreach = true ∧
    ∃ cr ∈ r.changeRequests, some cr.id = r.finding.changeRequestId ∧
      cr.status = .awaitingApproval

/-- The severity of the finding may still be raised for the breach. -/
def Raisable (r : FindingRecord) (sla : RemediationSLA) : Prop :=
  sla.escalatedAt = none ∧ (severityUpgrade.lookup r.finding.severity).isSome

/-- The jobs may be exchanged, of which the first runs at `first` and the second at `second`. -/
def OrderFree (env : GenerationEnv) (settings : Uuid → Option SlaConfig) (first second : Int)
    (r : FindingRecord) : Prop :=
  ∀ config, settings r.finding.organizationId = some config →
    ∀ sla, r.sla = some sla →
      if r.finding.status = "open" ∨ r.finding.status = "change_request_generated" then
        ¬r.Generates env ∧ ¬r.Assigns config ∧ ¬r.Approves config ∧
          (r.Raisable sla →
            if config.severityUpgradeHours ≤ 0 then sla.overThreshold first = false
            else sla.overThreshold first = true ∨
              (second < first + hours config.severityUpgradeHours ∧
                sla.overThreshold second = false))
      else
        r.Raisable sla → sla.overThreshold first = true ∨
          (first = second ∧ 0 < config.severityUpgradeHours ∧ sla.overThreshold first = false)

end FindingRecord

section Jobs

variable {env : GenerationEnv} {settings : Uuid → Option SlaConfig} {config : SlaConfig}
  {r r' : FindingRecord} {sla sla' : RemediationSLA} {now n : Int}

def RemediationSLA.escalate (sla : RemediationSLA) (now : Int) : RemediationSLA :=
  if sla.escalatedAt = none ∧ sla.overThreshold now = true then
    { sla with escalatedAt := some now }
  else sla

theorem escalateBreach_eq (hb : sla.breached = true) :
    (r.setSla sla).escalateBreach now = r.setSla (sla.escalate now) := by
  simp only [FindingRecord.escalateBreach,FindingRecord.setSla,RemediationSLA.escalate,
    RemediationSLA.overThreshold,hb,true_and]
  cases hesc : sla.escalatedAt with
  | some at' => simp
  | none =>
    cases escalationHours.lookup sla.severity with
    | none => simp
    | some threshold => by_cases h : sla.dueAt + hours threshold ≤ now <;> simp [h]

theorem enforceSlas_breached (hb : sla.breached = true) :
    (r.setSla sla).enforceSlas env now = r.setSla (sla.escalate now) := by
  have hmark : (r.setSla sla).markBreach env now = r.setSla sla := by
    simp [FindingRecord.markBreach,FindingRecord.setSla,hb]
  rw [FindingRecord.enforceSlas,hmark,escalateBreach_eq hb]

theorem processBreach_breached (hb : sla.breached = true) :
    (r.setSla sla).processBreach config now = r.setSla sla := by
  simp [FindingRecord.processBreach,FindingRecord.setSla,hb]

/-- The severity is raised when the breach was marked long enough ago. -/
def FindingRecord.raise (r : FindingRecord) (sla : RemediationSLA) (now : Int) : FindingRecord :=
  { r with
    finding := { r.finding with
      severity := (severityUpgrade.lookup r.finding.severity).getD r.finding.severity }
    sla := some { sla with escalatedAt := some now } }

theorem upgradeSeverity_raises (hb : sla.breached = true) (hn : sla.breachNotifiedAt = some n)
    (hraisable : r.Raisable sla) (hold : n ≤ now - hours config.severityUpgradeHours) :
    (r.setSla sla).upgradeSeverity config now = r.raise sla now := by
  obtain ⟨hesc,hlookup⟩ := hraisable
  obtain ⟨severity,hseverity⟩ := Option.isSome_iff_exists.mp hlookup
  simp [FindingRecord.upgradeSeverity,FindingRecord.setSla,FindingRecord.raise,hb,hn,hold,hesc,
    hseverity]

theorem upgradeSeverity_keeps (hn : sla.breachNotifiedAt = some n)
    (h : r.Raisable sla → now - hours config.severityUpgradeHours < n) :
    (r.setSla sla).upgradeSeverity config now = r.setSla sla := by
  simp only [FindingRecord.upgradeSeverity,FindingRecord.setSla]
  split
  · next hdue =>
    cases hlookup : severityUpgrade.lookup r.finding.severity with
    | none => rfl
    | some severity =>
      have hyoung := h ⟨hdue.2.2,by simp [hlookup]⟩
      have hold : n ≤ now - hours config.severityUpgradeHours := by simpa [hn] using hdue.2.1
      omega
  · rfl

theorem raised_severity_ne (hraisable : r.Raisable sla) :
    (severityUpgrade.lookup r.finding.severity).getD r.finding.severity ≠ r.finding.severity := by
  obtain ⟨severity,hseverity⟩ := Option.isSome_iff_exists.mp hraisable.2
  rw [hseverity,Option.getD_some]
  rintro rfl
  simp only [severityUpgrade,List.lookup_cons,List.lookup_nil] at hseverity
  split at hseverity
  · next hmedium =>
    rw [← Option.some.inj hseverity] at hmedium
    cases hmedium
  · split at hseverity
    · next hhigh =>
      rw [← Option.some.inj hseverity] at hhigh
      cases hhigh
    · cases hseverity

/-- The marks of two breaches that no further run of the jobs tells apart. -/
structure MarksAlike (settings : Uuid → Option SlaConfig) (r : FindingRecord)
    (sla sla' : RemediationSLA) : Prop where
  breached : sla.breached = true ∧ sla'.breached = true
  severity : sla.severity = sla'.severity
  dueAt : sla.dueAt = sla'.dueAt
  notified : sla.breachNotifiedAt.isSome ∧ sla'.breachNotifiedAt.isSome
  raisable : (settings r.finding.organizationId).isSome → (r.Raisable sla ↔ r.Raisable sla')
  marked : (settings r.finding.organizationId).isSome → r.Raisable sla →
    sla.breachNotifiedAt = sla'.breachNotifiedAt

theorem escalate_raisable :
    r.Raisable (sla.escalate now) ↔ r.Raisable sla ∧ sla.overThreshold now = false := by
  unfold RemediationSLA.escalate FindingRecord.Raisable
  split
  · next h => simp [h.2]
  · next h =>
    constructor
    · rintro ⟨hesc,hsev⟩
      refine ⟨⟨hesc,hsev⟩,?_⟩
      by_contra hover
      exact h ⟨hesc,by simpa using hover⟩
    · exact fun h => h.1

@[simp] theorem escalate_breached : (sla.escalate now).breached = sla.breached := by
  unfold RemediationSLA.escalate
  split <;> rfl

@[simp] theorem escalate_severity : (sla.escalate now).severity = sla.severity := by
  unfold RemediationSLA.escalate
  split <;> rfl

@[simp] theorem escalate_dueAt : (sla.escalate now).dueAt = sla.dueAt := by
  unfold RemediationSLA.escalate
  split <;> rfl

@[simp] theorem escalate_notified :
    (sla.escalate now).breachNotifiedAt = sla.breachNotifiedAt := by
  unfold RemediationSLA.escalate
  split <;> rfl

theorem MarksAlike.escalate (h : MarksAlike settings r sla sla') (now : Int) :
    MarksAlike settings r (sla.escalate now) (sla'.escalate now) := by
  have hover : sla.overThreshold now = sla'.overThreshold now := by
    simp only [RemediationSLA.overThreshold,h.severity,h.dueAt]
  refine ⟨by simpa using h.breached,by simpa using h.severity,by simpa using h.dueAt,
    by simpa using h.notified,fun hset => ?_,fun hset hraisable => ?_⟩
  · rw [escalate_raisable,escalate_raisable,h.raisable hset,hover]
  · simpa using h.marked hset (escalate_raisable.mp hraisable).1

/-- The finding with its raised severity. -/
def FindingRecord.raised (r : FindingRecord) : FindingRecord :=
  { r with
    finding := { r.finding with
      severity := (severityUpgrade.lookup r.finding.severity).getD r.finding.severity } }

theorem raise_eq : r.raise sla now = r.raised.setSla { sla with escalatedAt := some now } := rfl

theorem MarksAlike.raise (h : MarksAlike settings r sla sla') (now now' : Int) :
    MarksAlike settings r.raised { sla with escalatedAt := some now }
      { sla' with escalatedAt := some now' } :=
  ⟨h.breached,h.severity,h.dueAt,h.notified,fun _ => by simp [FindingRecord.Raisable],
    fun _ hraisable => absurd hraisable.1 (by simp)⟩

theorem marksAlike_refl (settings : Uuid → Option SlaConfig) (hb : sla.breached = true)
    (hn : sla.breachNotifiedAt.isSome) : MarksAlike settings r sla sla :=
  ⟨⟨hb,hb⟩,rfl,rfl,⟨hn,hn⟩,fun _ => Iff.rfl,fun _ _ => rfl⟩

variable (env) in
/-- A run of either job keeps two such breaches alike. -/
theorem MarksAlike.runJob (h : MarksAlike settings r sla sla') (job : SlaRun) :
    ∃ r₁ sla₁ sla₁', (r.setSla sla).runJob env settings job = r₁.setSla sla₁ ∧
      (r.setSla sla').runJob env settings job = r₁.setSla sla₁' ∧
      MarksAlike settings r₁ sla₁ sla₁' := by
  cases job with
  | enforce now =>
    exact ⟨r,_,_,enforceSlas_breached h.breached.1,enforceSlas_breached h.breached.2,
      h.escalate now⟩
  | process now =>
    obtain ⟨n,hn⟩ := Option.isSome_iff_exists.mp h.notified.1
    obtain ⟨n',hn'⟩ := Option.isSome_iff_exists.mp h.notified.2
    simp only [FindingRecord.runJob,FindingRecord.processSlaBreaches]
    cases hset : settings r.finding.organizationId with
    | none =>
      refine ⟨r,sla,sla',?_,?_,h⟩
      · simp [FindingRecord.setSla,hset]
      · simp [FindingRecord.setSla,hset]
    | some config =>
      have hsome : (settings r.finding.organizationId).isSome := by simp [hset]
      have hset' : ∀ sla, settings (r.setSla sla).finding.organizationId = some config :=
        fun _ => hset
      rw [hset' sla,hset' sla']
      dsimp only
      rw [processBreach_breached h.breached.1,processBreach_breached h.breached.2]
      by_cases hraise : r.Raisable sla ∧ n ≤ now - hours config.severityUpgradeHours
      · have heq : n' = n := by
          have hmarked := h.marked hsome hraise.1
          rw [hn,hn'] at hmarked
          exact (Option.some.inj hmarked).symm
        have hraise' := (h.raisable hsome).mp hraise.1
        exact ⟨r.raised,_,_,upgradeSeverity_raises h.breached.1 hn hraise.1 hraise.2,
          upgradeSeverity_raises h.breached.2 hn' hraise' (heq ▸ hraise.2),h.raise now now⟩
      · refine ⟨r,sla,sla',upgradeSeverity_keeps hn fun hr => ?_,
          upgradeSeverity_keeps hn' fun hr => ?_,h⟩
        · by_contra hold
          exact hraise ⟨hr,by omega⟩
        · have hr := (h.raisable hsome).mpr hr
          have hmarked := h.marked hsome hr
          rw [hn,hn'] at hmarked
          obtain rfl := Option.some.inj hmarked
          by_contra hold
          exact hraise ⟨hr,by omega⟩

theorem MarksAlike.runs (h : MarksAlike settings r sla sla') (rest : List SlaRun) :
    (rest.foldl (FindingRecord.runJob env settings) (r.setSla sla)).effects =
      (rest.foldl (FindingRecord.runJob env settings) (r.setSla sla')).effects := by
  induction rest generalizing r sla sla' with
  | nil => simp [FindingRecord.effects,FindingRecord.setSla,h.breached]
  | cons job rest ih =>
    obtain ⟨r₁,sla₁,sla₁',hrun,hrun',h₁⟩ := h.runJob env job
    rw [List.foldl_cons,List.foldl_cons,hrun,hrun']
    exact ih h₁

end Jobs

section First

variable {env : GenerationEnv} {settings : Uuid → Option SlaConfig} {config : SlaConfig}
  {r : FindingRecord} {sla : RemediationSLA} {first second now n : Int}

/-- The finding keeps its organization and its change request. -/
structure KeepsTarget (r r' : FindingRecord) : Prop where
  organizationId : r'.finding.organizationId = r.finding.organizationId
  changeRequestId : r'.finding.changeRequestId = r.finding.changeRequestId

/-- What a run of a job on a marked breach leaves as it is. -/
structure KeepsWork (r r' : FindingRecord) : Prop where
  changeRequestId : r'.finding.changeRequestId = r.finding.changeRequestId
  assignedToUserId : r'.finding.assignedToUserId = r.finding.assignedToUserId
  changeRequests : r'.changeRequests = r.changeRequests

theorem processSlaBreaches_marked (hset : settings r.finding.organizationId = some config)
    (hb : sla.breached = true) (now : Int) :
    (r.setSla sla).processSlaBreaches settings now =
      (r.setSla sla).upgradeSeverity config now := by
  have hset' : settings (r.setSla sla).finding.organizationId = some config := hset
  simp only [FindingRecord.processSlaBreaches,hset',processBreach_breached hb]

theorem processSlaBreaches_keeps (hset : settings r.finding.organizationId = some config)
    (hb : sla.breached = true) (hn : sla.breachNotifiedAt = some n) (now : Int) :
    ∃ r₁ sla₁, (r.setSla sla).processSlaBreaches settings now = r₁.setSla sla₁ ∧
      sla₁.breached = true ∧ KeepsWork r r₁ := by
  rw [processSlaBreaches_marked hset hb]
  by_cases hraise : r.Raisable sla ∧ n ≤ now - hours config.severityUpgradeHours
  · rw [upgradeSeverity_raises hb hn hraise.1 hraise.2]
    exact ⟨r.raised,_,rfl,hb,rfl,rfl,rfl⟩
  · rw [upgradeSeverity_keeps hn fun hr => by
      by_contra hold
      exact hraise ⟨hr,by omega⟩]
    exact ⟨r,sla,rfl,hb,rfl,rfl,rfl⟩

theorem requestForBreach_setSla :
    (r.setSla sla).requestForBreach env = (r.requestForBreach env).setSla sla := by
  unfold FindingRecord.requestForBreach
  by_cases hopen : r.finding.status ≠ "open" ∨ r.finding.changeRequestId.isSome
  · rw [if_pos hopen]
    exact if_pos hopen
  · rw [if_neg hopen]
    refine (if_neg hopen).trans ?_
    simp only [generateChangeRequestForFinding,FindingRecord.setSla]
    cases env.systemUser r.finding.organizationId <;> rfl

variable (env r) in
theorem requestForBreach_organizationId :
    (r.requestForBreach env).finding.organizationId = r.finding.organizationId := by
  simp only [FindingRecord.requestForBreach,generateChangeRequestForFinding]
  split
  · rfl
  · cases env.systemUser r.finding.organizationId <;> rfl

theorem requestForBreach_generates (h : r.Generates env) :
    (r.requestForBreach env).finding.changeRequestId.isSome := by
  obtain ⟨hopen,hnone,huser⟩ := h
  obtain ⟨user,huser⟩ := Option.isSome_iff_exists.mp huser
  simp [FindingRecord.requestForBreach,generateChangeRequestForFinding,hopen,hnone,huser]

theorem requestForBreach_keeps (h : ¬r.Generates env) : r.requestForBreach env = r := by
  unfold FindingRecord.requestForBreach
  split
  · rfl
  · next hopen =>
    have hwork : r.finding.status = "open" ∧ r.finding.changeRequestId = none := by
      simpa [not_or] using hopen
    have huser : env.systemUser r.finding.organizationId = none := by
      simpa [FindingRecord.Generates,hwork] using h
    simp [generateChangeRequestForFinding,huser]

/-- The change request of `enforce_slas` does not depend on the time of its run. -/
theorem enforceSlas_overdue (hsla : r.sla = some sla) (hb : sla.breached = false)
    (hdue : sla.dueAt < first) :
    r.enforceSlas env first =
      (r.requestForBreach env).setSla ((sla.notify first).escalate first) := by
  have hmark : r.markBreach env first = (r.requestForBreach env).setSla (sla.notify first) := by
    simp only [FindingRecord.markBreach,hsla]
    rw [if_pos ⟨hdue,hb⟩,requestForBreach_setSla]
  have hbreached : (sla.notify first).breached = true := rfl
  rw [FindingRecord.enforceSlas,hmark,escalateBreach_eq hbreached]

theorem processSlaBreaches_skips (hsla : r.sla = some sla) (hb : sla.breached = false)
    (h : ∀ config, settings r.finding.organizationId = some config → ¬r.Live) (now : Int) :
    r.processSlaBreaches settings now = r := by
  unfold FindingRecord.processSlaBreaches
  cases hset : settings r.finding.organizationId with
  | none => rfl
  | some config =>
    have hlive : ¬(r.finding.status = "open" ∨ r.finding.status = "change_request_generated") :=
      h config hset
    simp [FindingRecord.processBreach,FindingRecord.upgradeSeverity,hsla,hb,hlive]

/-- What `process_sla_breaches` makes of a finding that it is the first to see overdue. -/
structure BreachTaken (config : SlaConfig) (now : Int) (r : FindingRecord) (sla : RemediationSLA)
    (r₁ : FindingRecord) (sla₁ : RemediationSLA) : Prop where
  breached : sla₁.breached = true
  notified : sla₁.breachNotifiedAt = some now
  organizationId : r₁.finding.organizationId = r.finding.organizationId
  changeRequestId : r₁.finding.changeRequestId = r.finding.changeRequestId
  assigned : r.Assigns config → r₁.finding.assignedToUserId.isSome
  approved : r.Approves config → r₁.changeRequests = r.approve.changeRequests
  marked : ¬r.Assigns config → ¬r.Approves config → r₁ = r ∧ sla₁ = sla.notify now

theorem approve_keeps (h : ∀ cr ∈ r.changeRequests, some cr.id = r.finding.changeRequestId →
    cr.status ≠ .awaitingApproval) : r.approve = r := by
  have hmap : (r.changeRequests.map fun cr =>
      if some cr.id = r.finding.changeRequestId ∧ cr.status = .awaitingApproval then
        { cr with status := .approved }
      else cr) = r.changeRequests := by
    refine (List.map_congr_left fun cr hcr => ?_).trans (List.map_id _)
    rw [if_neg fun hawaits => h cr hcr hawaits.1 hawaits.2]
    rfl
  simp only [FindingRecord.approve,hmap]

theorem FindingRecord.Approves.requested (h : r.Approves config) :
    config.autoExecuteOnBreach = true ∧ r.finding.changeRequestId.isSome := by
  obtain ⟨hauto,cr,_,hid,_⟩ := h
  exact ⟨hauto,by simp [← hid]⟩

variable (config now) in
/-- The assignment comes first, and the approval sees the same change requests. -/
theorem assignBreach_taken (r : FindingRecord) (sla : RemediationSLA) :
    ∃ g sla₁, r.assignBreach config now (sla.notify now) = g.setSla sla₁ ∧
      g.changeRequests = r.changeRequests ∧ sla₁.breached = true ∧
      sla₁.breachNotifiedAt = some now ∧ KeepsTarget r g ∧
      (r.Assigns config → g.finding.assignedToUserId.isSome) ∧
      (¬r.Assigns config → g = r ∧ sla₁ = sla.notify now) := by
  unfold FindingRecord.assignBreach
  split
  · next user huser hnone =>
    refine ⟨{ r with finding := { r.finding with assignedToUserId := some user } },_,rfl,rfl,rfl,
      rfl,⟨rfl,rfl⟩,fun _ => rfl,fun hnot => ?_⟩
    exact absurd ⟨by simp [huser],hnone⟩ hnot
  · next hnone =>
    refine ⟨r,_,rfl,rfl,rfl,rfl,⟨rfl,rfl⟩,fun hassigns => ?_,fun _ => ⟨rfl,rfl⟩⟩
    obtain ⟨user,huser⟩ := Option.isSome_iff_exists.mp hassigns.1
    exact absurd hassigns.2 (hnone user huser)

variable (config) in
theorem processBreach_live (hsla : r.sla = some sla) (hb : sla.breached = false)
    (hdue : sla.dueAt ≤ now) (hlive : r.Live) :
    ∃ r₁ sla₁, r.processBreach config now = r₁.setSla sla₁ ∧
      BreachTaken config now r sla r₁ sla₁ := by
  have hcond : sla.dueAt ≤ now ∧ sla.breached = false ∧
      (r.finding.status = "open" ∨ r.finding.status = "change_request_generated") :=
    ⟨hdue,hb,hlive⟩
  obtain ⟨g,sla₁,hassign,hcrs,hbreached,hnotified,htarget,hassigned,hmarked⟩ :=
    assignBreach_taken config now r sla
  have hgoes : r.processBreach config now =
      if config.autoExecuteOnBreach = true ∧ g.finding.changeRequestId.isSome then
        (g.setSla sla₁).approve
      else g.setSla sla₁ := by
    simp only [FindingRecord.processBreach,hsla]
    rw [if_pos hcond,hassign]
    rfl
  rw [hgoes]
  split
  · next hauto =>
    have happroved : (g.setSla sla₁).approve =
        ({ g with changeRequests := r.approve.changeRequests } : FindingRecord).setSla sla₁ := by
      simp only [FindingRecord.approve,FindingRecord.setSla,hcrs,htarget.changeRequestId]
    refine ⟨_,sla₁,happroved,hbreached,hnotified,htarget.organizationId,htarget.changeRequestId,
      hassigned,fun _ => rfl,fun hassigns happroves => ?_⟩
    obtain ⟨rfl,hsla₁⟩ := hmarked hassigns
    refine ⟨?_,hsla₁⟩
    have hkeeps := approve_keeps (r := g) fun cr hcr hid hawaits =>
      happroves ⟨hauto.1,cr,hcr,hid,hawaits⟩
    rw [hkeeps]
  · next hauto =>
    have hnot : ¬r.Approves config := by
      intro happroves
      refine hauto ?_
      rw [htarget.changeRequestId]
      exact happroves.requested
    exact ⟨g,sla₁,rfl,hbreached,hnotified,htarget.organizationId,htarget.changeRequestId,
      hassigned,fun happroves => absurd happroves hnot,fun hassigns _ => hmarked hassigns⟩

end First

section Exchange

variable {env : GenerationEnv} {settings : Uuid → Option SlaConfig} {config : SlaConfig}
  {r : FindingRecord} {sla : RemediationSLA} {first second n m : Int}

theorem notify_raisable : r.Raisable ((sla.notify n).escalate m) ↔
    r.Raisable sla ∧ sla.overThreshold m = false :=
  escalate_raisable

/-- Two breaches of one SLA that were marked and escalated at different times. -/
theorem marksAlike_escalate (settings : Uuid → Option SlaConfig)
    (h : (settings r.finding.organizationId).isSome → r.Raisable sla →
      sla.overThreshold first = sla.overThreshold second ∧
        (sla.overThreshold first = false → n = m)) :
    MarksAlike settings r ((sla.notify n).escalate first) ((sla.notify m).escalate second) := by
  refine ⟨by simp [RemediationSLA.notify],by simp [RemediationSLA.notify],
    by simp [RemediationSLA.notify],by simp [RemediationSLA.notify],fun hset => ?_,
    fun hset hr => ?_⟩
  · rw [notify_raisable,notify_raisable]
    exact and_congr_right fun hr => by rw [(h hset hr).1]
  · obtain ⟨hr,hover⟩ := notify_raisable.mp hr
    simpa [RemediationSLA.notify] using (h hset hr).2 hover

/-- The two orders of the first two runs. -/
def EnforcedFirst (env : GenerationEnv) (settings : Uuid → Option SlaConfig) (first second : Int)
    (r : FindingRecord) : FindingRecord :=
  (r.enforceSlas env first).processSlaBreaches settings second

def ProcessedFirst (env : GenerationEnv) (settings : Uuid → Option SlaConfig) (first second : Int)
    (r : FindingRecord) : FindingRecord :=
  (r.processSlaBreaches settings first).enforceSlas env second

theorem overThreshold_mono (hle : first ≤ second) (h : sla.overThreshold first = true) :
    sla.overThreshold second = true := by
  unfold RemediationSLA.overThreshold at h ⊢
  cases hlookup : escalationHours.lookup sla.severity with
  | none => simp [hlookup] at h
  | some threshold =>
    rw [hlookup] at h
    simp only [Option.any_some,decide_eq_true_eq] at h ⊢
    omega

theorem hours_nonpos : hours n ≤ 0 ↔ n ≤ 0 := by
  unfold hours
  omega

/-- With no settings only `enforce_slas` takes up the finding. -/
theorem exchange_unsettled (hsla : r.sla = some sla) (hb : sla.breached = false)
    (hdue : sla.dueAt < first) (hle : first ≤ second)
    (hset : settings r.finding.organizationId = none) :
    ∃ g sla₁ sla₂, EnforcedFirst env settings first second r = g.setSla sla₁ ∧
      ProcessedFirst env settings first second r = g.setSla sla₂ ∧
      MarksAlike settings g sla₁ sla₂ := by
  have horg := requestForBreach_organizationId env r
  refine ⟨r.requestForBreach env,(sla.notify first).escalate first,
    (sla.notify second).escalate second,?_,?_,?_⟩
  · rw [EnforcedFirst,enforceSlas_overdue hsla hb hdue]
    simp [FindingRecord.processSlaBreaches,FindingRecord.setSla,horg,hset]
  · rw [ProcessedFirst,processSlaBreaches_skips hsla hb (by simp [hset]),
      enforceSlas_overdue hsla hb (by omega)]
  · refine marksAlike_escalate settings fun hsome => ?_
    rw [horg,hset] at hsome
    cases hsome

/-- A severity that can not be raised at the second run stays as it is. -/
theorem enforcedFirst_keeps (hsla : r.sla = some sla) (hb : sla.breached = false)
    (hdue : sla.dueAt < first) (hset : settings r.finding.organizationId = some config)
    (hgen : ¬r.Generates env)
    (h : r.Raisable sla → sla.overThreshold first = true ∨
      second < first + hours config.severityUpgradeHours) :
    EnforcedFirst env settings first second r =
      r.setSla ((sla.notify first).escalate first) := by
  have hmarked : ((sla.notify first).escalate first).breached = true := by
    simp [RemediationSLA.notify]
  have hnotified : ((sla.notify first).escalate first).breachNotifiedAt = some first := by
    simp [RemediationSLA.notify]
  rw [EnforcedFirst,enforceSlas_overdue hsla hb hdue,requestForBreach_keeps hgen,
    processSlaBreaches_marked hset hmarked]
  refine upgradeSeverity_keeps hnotified fun hr => ?_
  obtain ⟨hr,hover⟩ := notify_raisable.mp hr
  rcases h hr with hpast | hyoung
  · rw [hpast] at hover
    cases hover
  · omega

theorem processSlaBreaches_live (hsla : r.sla = some sla) (hb : sla.breached = false)
    (hdue : sla.dueAt ≤ first) (hlive : r.Live)
    (hset : settings r.finding.organizationId = some config) :
    ∃ r₁ sla₁, BreachTaken config first r sla r₁ sla₁ ∧
      r.processSlaBreaches settings first =
        (r₁.setSla sla₁).processSlaBreaches settings first := by
  obtain ⟨r₁,sla₁,htake,htaken⟩ := processBreach_live config hsla hb hdue hlive
  have hset₁ : settings r₁.finding.organizationId = some config := by
    rw [htaken.organizationId,hset]
  refine ⟨r₁,sla₁,htaken,?_⟩
  rw [processSlaBreaches_marked hset₁ htaken.breached,FindingRecord.processSlaBreaches,hset]
  dsimp only
  rw [htake]

/-- The jobs may be exchanged for a finding that both take up. -/
theorem exchange_live (hsla : r.sla = some sla) (hb : sla.breached = false)
    (hdue : sla.dueAt < first) (hle : first ≤ second) (hlive : r.Live)
    (hset : settings r.finding.organizationId = some config) (hgen : ¬r.Generates env)
    (hassigns : ¬r.Assigns config) (happroves : ¬r.Approves config)
    (hsev : r.Raisable sla →
      if config.severityUpgradeHours ≤ 0 then sla.overThreshold first = false
      else sla.overThreshold first = true ∨
        (second < first + hours config.severityUpgradeHours ∧
          sla.overThreshold second = false)) :
    ∃ g sla₁ sla₂, EnforcedFirst env settings first second r = g.setSla sla₁ ∧
      ProcessedFirst env settings first second r = g.setSla sla₂ ∧
      MarksAlike settings g sla₁ sla₂ := by
  obtain ⟨r₁,sla₁,htaken,hprocess⟩ :=
    processSlaBreaches_live hsla hb (Int.le_of_lt hdue) hlive hset
  obtain ⟨rfl,rfl⟩ := htaken.marked hassigns happroves
  have hmarked : (sla.notify first).breached = true := rfl
  have hnotified : (sla.notify first).breachNotifiedAt = some first := rfl
  rw [processSlaBreaches_marked hset hmarked] at hprocess
  by_cases hraise : r₁.Raisable sla ∧ config.severityUpgradeHours ≤ 0
  · have hhours := hours_nonpos.mpr hraise.2
    have hover : sla.overThreshold first = false := by
      have := hsev hraise.1
      rwa [if_pos hraise.2] at this
    have hescalate : (sla.notify first).escalate first = sla.notify first :=
      if_neg fun hpast => by
        have := hover.symm.trans hpast.2
        cases this
    refine ⟨r₁.raised,_,_,?_,?_,
      (marksAlike_refl settings hmarked (by simp [hnotified])).raise second first⟩
    · rw [EnforcedFirst,enforceSlas_overdue hsla hb hdue,requestForBreach_keeps hgen,hescalate,
        processSlaBreaches_marked hset hmarked]
      exact upgradeSeverity_raises hmarked hnotified hraise.1 (by omega)
    · rw [ProcessedFirst,hprocess,
        upgradeSeverity_raises hmarked hnotified hraise.1 (by omega),raise_eq]
      exact enforceSlas_breached hmarked
  · have hpos : r₁.Raisable sla → 0 < config.severityUpgradeHours := fun hr => by
      by_contra hnot
      exact hraise ⟨hr,by omega⟩
    have hsev : r₁.Raisable sla → sla.overThreshold first = true ∨
        (second < first + hours config.severityUpgradeHours ∧
          sla.overThreshold second = false) := fun hr => by
      have := hsev hr
      rwa [if_neg (by have := hpos hr; omega)] at this
    refine ⟨r₁,_,(sla.notify first).escalate second,enforcedFirst_keeps hsla hb hdue hset hgen
      fun hr => (hsev hr).imp_right And.left,?_,marksAlike_escalate settings fun _ hr => ?_⟩
    · rw [ProcessedFirst,hprocess,upgradeSeverity_keeps hnotified fun hr => ?_]
      · exact enforceSlas_breached hmarked
      · have := hpos hr
        have := mt hours_nonpos.mp (by omega : ¬config.severityUpgradeHours ≤ 0)
        omega
    · rcases hsev hr with hpast | ⟨_,hyoung⟩
      · exact ⟨hpast.trans (overThreshold_mono hle hpast).symm,fun _ => rfl⟩
      · refine ⟨?_,fun _ => rfl⟩
        rw [hyoung]
        by_contra hpast
        have := overThreshold_mono hle (by simpa using hpast)
        rw [hyoung] at this
        cases this

/-- The jobs may be exchanged for a finding that only `enforce_slas` takes up. -/
theorem exchange_quiet (hsla : r.sla = some sla) (hb : sla.breached = false)
    (hdue : sla.dueAt < first) (hle : first ≤ second) (hlive : ¬r.Live)
    (hset : settings r.finding.organizationId = some config)
    (hsev : r.Raisable sla → sla.overThreshold first = true ∨
      (first = second ∧ 0 < config.severityUpgradeHours ∧ sla.overThreshold first = false)) :
    ∃ g sla₁ sla₂, EnforcedFirst env settings first second r = g.setSla sla₁ ∧
      ProcessedFirst env settings first second r = g.setSla sla₂ ∧
      MarksAlike settings g sla₁ sla₂ := by
  have hgen : ¬r.Generates env := fun hgen => hlive (Or.inl hgen.1)
  refine ⟨r,_,(sla.notify second).escalate second,
    enforcedFirst_keeps hsla hb hdue hset hgen fun hr => ?_,?_,
    marksAlike_escalate settings fun _ hr => ?_⟩
  · refine (hsev hr).imp_right ?_
    rintro ⟨rfl,hpos,-⟩
    have := mt hours_nonpos.mp (by omega : ¬config.severityUpgradeHours ≤ 0)
    omega
  · rw [ProcessedFirst,processSlaBreaches_skips hsla hb (fun _ _ => hlive),
      enforceSlas_overdue hsla hb (by omega),requestForBreach_keeps hgen]
  · rcases hsev hr with hpast | ⟨rfl,-,-⟩
    · refine ⟨hpast.trans (overThreshold_mono hle hpast).symm,fun hover => ?_⟩
      rw [hpast] at hover
      cases hover
    · exact ⟨rfl,fun _ => rfl⟩

theorem exchange_free (hsla : r.sla = some sla) (hb : sla.breached = false)
    (hdue : sla.dueAt < first) (hle : first ≤ second)
    (hfree : r.OrderFree env settings first second) (rest : List SlaRun) :
    (rest.foldl (FindingRecord.runJob env settings)
        (EnforcedFirst env settings first second r)).effects =
      (rest.foldl (FindingRecord.runJob env settings)
        (ProcessedFirst env settings first second r)).effects := by
  have key : ∃ g sla₁ sla₂, EnforcedFirst env settings first second r = g.setSla sla₁ ∧
      ProcessedFirst env settings first second r = g.setSla sla₂ ∧
      MarksAlike settings g sla₁ sla₂ := by
    cases hset : settings r.finding.organizationId with
    | none => exact exchange_unsettled hsla hb hdue hle hset
    | some config =>
      have hfree := hfree config hset sla hsla
      split at hfree
      · next hlive =>
        obtain ⟨hgen,hassigns,happroves,hsev⟩ := hfree
        exact exchange_live hsla hb hdue hle hlive hset hgen hassigns happroves hsev
      · next hlive => exact exchange_quiet hsla hb hdue hle hlive hset hfree
  obtain ⟨g,sla₁,sla₂,hfirst,hsecond,halike⟩ := key
  rw [hfirst,hsecond]
  exact halike.runs rest

end Exchange

section Told

variable {env : GenerationEnv} {settings : Uuid → Option SlaConfig} {config : SlaConfig}
  {r : FindingRecord} {sla : RemediationSLA} {first second now n : Int}

variable (now) in
/-- The severity changes exactly when it may be raised and the breach is old enough. -/
theorem process_severity (hset : settings r.finding.organizationId = some config)
    (hb : sla.breached = true) (hn : sla.breachNotifiedAt = some n) :
    ((r.setSla sla).processSlaBreaches settings now).finding.severity = r.finding.severity ↔
      ¬(r.Raisable sla ∧ n ≤ now - hours config.severityUpgradeHours) := by
  rw [processSlaBreaches_marked hset hb]
  by_cases hraise : r.Raisable sla ∧ n ≤ now - hours config.severityUpgradeHours
  · rw [upgradeSeverity_raises hb hn hraise.1 hraise.2]
    exact iff_of_false (raised_severity_ne hraise.1) (not_not.mpr hraise)
  · rw [upgradeSeverity_keeps hn fun hr => by
      by_contra hold
      exact hraise ⟨hr,by omega⟩]
    exact iff_of_true rfl hraise

variable (env second) in
theorem enforcedFirst_keepsWork (hsla : r.sla = some sla) (hb : sla.breached = false)
    (hdue : sla.dueAt < first) (hset : settings r.finding.organizationId = some config) :
    KeepsWork (r.requestForBreach env) (EnforcedFirst env settings first second r) := by
  have hset' : settings (r.requestForBreach env).finding.organizationId = some config := by
    rw [requestForBreach_organizationId,hset]
  have hmarked : ((sla.notify first).escalate first).breached = true := by
    simp [RemediationSLA.notify]
  have hnotified : ((sla.notify first).escalate first).breachNotifiedAt = some first := by
    simp [RemediationSLA.notify]
  obtain ⟨r₁,sla₁,hrun,-,hkeeps⟩ := processSlaBreaches_keeps hset' hmarked hnotified second
  rw [EnforcedFirst,enforceSlas_overdue hsla hb hdue,hrun]
  exact ⟨hkeeps.changeRequestId,hkeeps.assignedToUserId,hkeeps.changeRequests⟩

variable (env second) in
theorem processedFirst_keepsWork (hsla : r.sla = some sla) (hb : sla.breached = false)
    (hdue : sla.dueAt < first) (hlive : r.Live)
    (hset : settings r.finding.organizationId = some config) :
    ∃ g sla₁, BreachTaken config first r sla g sla₁ ∧
      KeepsWork g (ProcessedFirst env settings first second r) := by
  obtain ⟨g,sla₁,htaken,hprocess⟩ :=
    processSlaBreaches_live hsla hb (Int.le_of_lt hdue) hlive hset
  have hset' : settings g.finding.organizationId = some config := by
    rw [htaken.organizationId,hset]
  obtain ⟨r₂,sla₂,hrun,hmarked,hkeeps⟩ :=
    processSlaBreaches_keeps hset' htaken.breached htaken.notified first
  refine ⟨g,sla₁,htaken,?_⟩
  rw [ProcessedFirst,hprocess,hrun,enforceSlas_breached hmarked]
  exact ⟨hkeeps.changeRequestId,hkeeps.assignedToUserId,hkeeps.changeRequests⟩

/-- An approved change request is told from one that awaits approval. -/
theorem approve_differs (h : r.Approves config) :
    r.approve.changeRequests.map (fun cr => (cr.id,cr.status)) ≠
      r.changeRequests.map fun cr => (cr.id,cr.status) := by
  obtain ⟨-,cr,hcr,hid,hawaits⟩ := h
  intro heq
  simp only [FindingRecord.approve,List.map_map] at heq
  have hsame := List.map_inj_left.mp heq cr hcr
  simp [hid,hawaits] at hsame

/-- Equal effects leave no work that depends on the order. -/
theorem work_free (hsla : r.sla = some sla) (hb : sla.breached = false)
    (hdue : sla.dueAt < first) (hlive : r.Live)
    (hset : settings r.finding.organizationId = some config)
    (heq : (EnforcedFirst env settings first second r).effects =
      (ProcessedFirst env settings first second r).effects) :
    ¬r.Generates env ∧ ¬r.Assigns config ∧ ¬r.Approves config := by
  have hfirst := enforcedFirst_keepsWork env second hsla hb hdue hset
  obtain ⟨g,sla₁,htaken,hsecond⟩ :=
    processedFirst_keepsWork env second hsla hb hdue hlive hset
  have hgen : ¬r.Generates env := by
    intro hgen
    have hsome := requestForBreach_generates hgen
    have hid := congrArg SlaEffects.changeRequestId heq
    simp only [FindingRecord.effects] at hid
    rw [hfirst.changeRequestId,hsecond.changeRequestId,htaken.changeRequestId,hgen.2.1] at hid
    rw [hid] at hsome
    cases hsome
  have hkept := requestForBreach_keeps hgen
  rw [hkept] at hfirst
  refine ⟨hgen,fun hassigns => ?_,fun happroves => ?_⟩
  · have hsome := htaken.assigned hassigns
    have huser := congrArg SlaEffects.assignedToUserId heq
    simp only [FindingRecord.effects] at huser
    rw [hfirst.assignedToUserId,hsecond.assignedToUserId,hassigns.2] at huser
    rw [← huser] at hsome
    cases hsome
  · have hcrs := congrArg SlaEffects.changeRequests heq
    simp only [FindingRecord.effects] at hcrs
    rw [hfirst.changeRequests,hsecond.changeRequests,htaken.approved happroves] at hcrs
    exact approve_differs happroves hcrs.symm

variable (second) in
/-- After both runs, at the time when the severity would be raised. -/
theorem enforcedFirst_severity (hsla : r.sla = some sla) (hb : sla.breached = false)
    (hdue : sla.dueAt < first) (hset : settings r.finding.organizationId = some config)
    (hgen : ¬r.Generates env) :
    (EnforcedFirst env settings first second r).finding.severity = r.finding.severity ↔
      ¬(r.Raisable sla ∧ sla.overThreshold first = false ∧
        first ≤ second - hours config.severityUpgradeHours) := by
  have hmarked : ((sla.notify first).escalate first).breached = true := by
    simp [RemediationSLA.notify]
  have hnotified : ((sla.notify first).escalate first).breachNotifiedAt = some first := by
    simp [RemediationSLA.notify]
  rw [EnforcedFirst,enforceSlas_overdue hsla hb hdue,requestForBreach_keeps hgen,
    process_severity second hset hmarked hnotified,notify_raisable,and_assoc]

theorem severity_told {first' second' : FindingRecord}
    (heq : first'.effects = second'.effects) :
    first'.finding.severity = second'.finding.severity :=
  congrArg SlaEffects.severity heq

/-- Equal effects of a finding that both jobs take up. -/
theorem live_severity_free (hsla : r.sla = some sla) (hb : sla.breached = false)
    (hdue : sla.dueAt < first) (hlive : r.Live)
    (hset : settings r.finding.organizationId = some config) (hgen : ¬r.Generates env)
    (hassigns : ¬r.Assigns config) (happroves : ¬r.Approves config)
    (heq : (EnforcedFirst env settings first second r).effects =
      (ProcessedFirst env settings first second r).effects)
    (hlater : ∀ now, ((EnforcedFirst env settings first second r).processSlaBreaches settings
        now).effects =
      ((ProcessedFirst env settings first second r).processSlaBreaches settings now).effects)
    (hr : r.Raisable sla) :
    if config.severityUpgradeHours ≤ 0 then sla.overThreshold first = false
    else sla.overThreshold first = true ∨
      (second < first + hours config.severityUpgradeHours ∧
        sla.overThreshold second = false) := by
  obtain ⟨g,sla₁,htaken,hprocess⟩ :=
    processSlaBreaches_live hsla hb (Int.le_of_lt hdue) hlive hset
  obtain ⟨rfl,rfl⟩ := htaken.marked hassigns happroves
  have hmarked : (sla.notify first).breached = true := rfl
  have hnotified : (sla.notify first).breachNotifiedAt = some first := rfl
  have hfirst := enforcedFirst_severity second hsla hb hdue hset hgen
  have hsecond : (ProcessedFirst env settings first second g).finding.severity =
      g.finding.severity ↔ ¬hours config.severityUpgradeHours ≤ 0 := by
    obtain ⟨g₁,sla₁,hrun,hmarked₁,-⟩ := processSlaBreaches_keeps hset hmarked hnotified first
    have hsev := process_severity first hset hmarked hnotified
    rw [ProcessedFirst,hprocess,hrun,enforceSlas_breached hmarked₁]
    rw [hrun] at hsev
    refine hsev.trans (not_congr ⟨fun h => by omega,fun h => ⟨hr,by omega⟩⟩)
  have htold := severity_told heq
  split
  · next hup =>
    have hraised := mt hsecond.mp (not_not.mpr (hours_nonpos.mpr hup))
    rw [← htold] at hraised
    exact (not_not.mp (mt hfirst.mpr hraised)).2.1
  · next hup =>
    have hhours : ¬hours config.severityUpgradeHours ≤ 0 := mt hours_nonpos.mp hup
    rw [hsecond.mpr hhours] at htold
    have hkept := hfirst.mp htold
    by_cases hpast : sla.overThreshold first = true
    · exact Or.inl hpast
    have hpast : sla.overThreshold first = false := by simpa using hpast
    have hyoung : second < first + hours config.severityUpgradeHours := by
      by_contra hold
      exact hkept ⟨hr,hpast,by omega⟩
    refine Or.inr ⟨hyoung,?_⟩
    by_contra hover
    -- When the breach is old enough, only the order with the later escalation keeps the severity.
    have hlater := severity_told (hlater (first + hours config.severityUpgradeHours))
    have hsecond : ProcessedFirst env settings first second g =
        g.setSla ((sla.notify first).escalate second) := by
      rw [ProcessedFirst,hprocess,processSlaBreaches_marked hset hmarked,
        upgradeSeverity_keeps hnotified fun _ => by omega]
      exact enforceSlas_breached hmarked
    rw [enforcedFirst_keeps hsla hb hdue hset hgen fun _ => Or.inr hyoung,hsecond] at hlater
    rw [(process_severity _ hset (by simp [RemediationSLA.notify])
      (by simp [RemediationSLA.notify] : _ = some first)).mpr fun h =>
        hover (notify_raisable.mp h.1).2] at hlater
    exact (process_severity _ hset (by simp [RemediationSLA.notify])
      (by simp [RemediationSLA.notify] : _ = some first)).mp hlater
        ⟨notify_raisable.mpr ⟨hr,hpast⟩,by omega⟩

/-- Equal effects of a finding that only `enforce_slas` takes up. -/
theorem quiet_severity_free (hsla : r.sla = some sla) (hb : sla.breached = false)
    (hdue : sla.dueAt < first) (hle : first ≤ second) (hlive : ¬r.Live)
    (hset : settings r.finding.organizationId = some config)
    (heq : (EnforcedFirst env settings first second r).effects =
      (ProcessedFirst env settings first second r).effects)
    (hlater : ∀ now, ((EnforcedFirst env settings first second r).processSlaBreaches settings
        now).effects =
      ((ProcessedFirst env settings first second r).processSlaBreaches settings now).effects)
    (hr : r.Raisable sla) :
    sla.overThreshold first = true ∨
      (first = second ∧ 0 < config.severityUpgradeHours ∧ sla.overThreshold first = false) := by
  have hgen : ¬r.Generates env := fun hgen => hlive (Or.inl hgen.1)
  have hsecond : ProcessedFirst env settings first second r =
      r.setSla ((sla.notify second).escalate second) := by
    rw [ProcessedFirst,processSlaBreaches_skips hsla hb (fun _ _ => hlive),
      enforceSlas_overdue hsla hb (by omega),requestForBreach_keeps hgen]
  have hmarked : ∀ n, ((sla.notify n).escalate n).breached = true := by
    simp [RemediationSLA.notify]
  have hnotified : ∀ n, ((sla.notify n).escalate n).breachNotifiedAt = some n := by
    simp [RemediationSLA.notify]
  have hkept : ¬(r.Raisable sla ∧ sla.overThreshold first = false ∧
      first ≤ second - hours config.severityUpgradeHours) := by
    refine (enforcedFirst_severity second hsla hb hdue hset hgen).mp ((severity_told heq).trans ?_)
    rw [hsecond]
    rfl
  by_cases hpast : sla.overThreshold first = true
  · exact Or.inl hpast
  have hpast : sla.overThreshold first = false := by simpa using hpast
  have hyoung : second < first + hours config.severityUpgradeHours := by
    by_contra hold
    exact hkept ⟨hr,hpast,by omega⟩
  -- The severity is raised now after the one order, so also after the other.
  have hlater := severity_told (hlater (first + hours config.severityUpgradeHours))
  rw [enforcedFirst_keeps hsla hb hdue hset hgen fun _ => Or.inr hyoung,hsecond] at hlater
  have hraised := mt (process_severity _ hset (hmarked first) (hnotified first)).mp
    (not_not.mpr ⟨notify_raisable.mpr ⟨hr,hpast⟩,
      (by omega : first ≤ first + hours config.severityUpgradeHours -
        hours config.severityUpgradeHours)⟩)
  rw [hlater] at hraised
  have htold := not_not.mp
    (mt (process_severity _ hset (hmarked second) (hnotified second)).mpr hraised)
  have hsame : first = second := by omega
  refine Or.inr ⟨hsame,?_,hpast⟩
  by_contra hnot
  have := hours_nonpos.mpr (Int.not_lt.mp hnot)
  omega

end Told

section Store

variable {env : GenerationEnv} {settings : Uuid → Option SlaConfig} {first second : Int}
  {r : FindingRecord} {records : List FindingRecord}

theorem runSchedule_getElem? (runs : List SlaRun) (records : List FindingRecord) (i : Nat) :
    (runSchedule env settings runs records)[i]? =
      records[i]?.map fun r => runs.foldl (FindingRecord.runJob env settings) r := by
  induction runs generalizing records with
  | nil => simp [runSchedule]
  | cons job runs ih =>
    refine (ih _).trans ?_
    rw [List.getElem?_map,Option.map_map]
    rfl

theorem orderFree_iff (hle : first ≤ second) (hdue : r.Overdue first) :
    (∀ rest : List SlaRun,
      (rest.foldl (FindingRecord.runJob env settings)
          (EnforcedFirst env settings first second r)).effects =
        (rest.foldl (FindingRecord.runJob env settings)
          (ProcessedFirst env settings first second r)).effects) ↔
      r.OrderFree env settings first second := by
  obtain ⟨sla,hsla,hb,hdue⟩ := hdue
  constructor
  · intro hall config hset sla' hsla'
    obtain rfl := Option.some.inj (hsla.symm.trans hsla')
    have heq := hall []
    have hlater := fun now => hall [.process now]
    split
    · next hlive =>
      obtain ⟨hgen,hassigns,happroves⟩ := work_free hsla hb hdue hlive hset heq
      exact ⟨hgen,hassigns,happroves,
        live_severity_free hsla hb hdue hlive hset hgen hassigns happroves heq hlater⟩
    · next hlive => exact quiet_severity_free hsla hb hdue hle hlive hset heq hlater
  · exact exchange_free hsla hb hdue hle

/-- The two jobs commute exactly on the findings whose two orders are free of a difference. -/
theorem jobs_commute_iff (env : GenerationEnv) (settings : Uuid → Option SlaConfig)
    (records : List FindingRecord) (hle : first ≤ second) :
    JobsCommute env settings first second records ↔
      ∀ r ∈ records, r.Overdue first → r.OrderFree env settings first second := by
  constructor
  · intro h r hr hdue
    obtain ⟨i,hi⟩ := List.mem_iff_getElem?.mp hr
    refine (orderFree_iff hle hdue).mp fun rest => ?_
    have heffects := h rest i r hi hdue
    rw [runSchedule_getElem?,runSchedule_getElem?,hi] at heffects
    exact Option.some.inj heffects
  · intro h rest i r hi hdue
    rw [runSchedule_getElem?,runSchedule_getElem?,hi]
    exact congrArg some
      ((orderFree_iff hle hdue).mpr (h r (List.mem_of_getElem? hi) hdue) rest)

end Store

/-- A finding in its breach, of an organization whose settings are the defaults. -/
def overdueRecord (status : String) : FindingRecord where
  finding := {
    id := "f1", organizationId := "o1", scanner := "nessus", findingType := "cve"
    severity := "high", status := status }
  sla := some { severity := "high", slaHours := 168, dueAt := 0 }

def oneUser : GenerationEnv where
  policies := []
  users := [{ id := "u1", organizationId := "o1", role := .admin }]
  changeType := fun value => some (.generic value)
  newId := fun id => id

/-- The jobs commute on a finding whose change request is at work. -/
theorem requested_finding_commutes :
    JobsCommute oneUser (fun _ => some {}) 1 2 [overdueRecord "change_request_generated"] := by
  refine (jobs_commute_iff oneUser _ _ (by decide)).mpr fun r hr _ config hset sla hsla => ?_
  obtain rfl := List.mem_singleton.mp hr
  obtain rfl := Option.some.inj hset
  obtain rfl := Option.some.inj hsla
  refine (if_pos (Or.inr rfl)).mpr ⟨?_,?_,?_,fun _ => ?_⟩
  · simp [FindingRecord.Generates,overdueRecord]
  · simp [FindingRecord.Assigns]
  · simp [FindingRecord.Approves]
  · decide

/-- Only `enforce_slas` generates a change request for an open finding. -/
theorem open_finding_differs :
    ¬JobsCommute oneUser (fun _ => some {}) 1 1 [overdueRecord "open"] := by
  intro h
  have heffects := h [] 0 (overdueRecord "open") rfl ⟨_,rfl,rfl,by decide⟩
  revert heffects
  decide

end Nexplane
