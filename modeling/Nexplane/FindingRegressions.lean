import Nexplane.FindingLifecycle
import Nexplane.WebhookIngest
import Nexplane.Lib.Orm

set_option autoImplicit false

/-! Findings that are reported again: the deliveries and polls among the operations on all findings,
and the check for a finding that was resolved before. -/

namespace Nexplane
open PyValue Runs Checks

/-- The columns and relations of a change request do not include `asset_id`. -/
def getLatestCrForAsset (_assetId : Option Uuid) : Except Exc (Option ChangeRequest) :=
  .error .attributeError

/-- `_check_regression`, which no ingest calls. -/
def checkRegression (r : FindingRecord) : Except Exc (Option String × FindingRecord) :=
  if r.finding.status ≠ "resolved" then .ok (none,r)
  else do
    let latestCr ← getLatestCrForAsset r.finding.assetId
    if latestCr.any (·.status = .rolledBack) then
      pure (some "regressed_intentional",r.setStatus "regressed_intentional")
    else pure (some "regressed",r.setStatus "regressed")

/-- A finding as the CrowdStrike client gives it. -/
structure PolledFinding where
  id : Option String := none
  findingType : Option String := none
  severity : Option String := none
  cveId : Option String := none

def PolledFinding.toFinding (f : PolledFinding) (id organizationId : Uuid) :
    VulnerabilityFinding where
  id := id
  organizationId := organizationId
  scanner := "crowdstrike"
  scannerFindingId := f.id
  findingType := f.findingType.getD "cve"
  severity := (f.severity.getD "medium").toLower
  cveId := f.cveId

def pollSlaHours : List (String × Int) := [("critical",72),("high",168),("medium",720)]

/-- What a poll finds out while it stores a finding. -/
structure PollLookups where
  id : Uuid
  now : Int
  fault : Option Exc := none

def PolledFinding.record (f : PolledFinding) (organizationId : Uuid) (l : PollLookups) :
    FindingRecord where
  finding := f.toFinding l.id organizationId
  sla := newSla (f.severity.getD "medium").toLower
    (pollSlaHours.lookup (f.severity.getD "medium").toLower) l.now

/-- All findings, and all change requests in the order in which they were created. -/
structure FindingTables where
  rows : List FindingRecord
  changes : List ChangeRequest

/-- `deliver` and `poll` run to their end, `operate` is an operation on the finding at a position,
and `change` a change request that is created or written. `credentials` are the rows for the
organization, and `found` is what the client gives. -/
inductive FindingEvent where
  | deliver (payload : WebhookFindingsPayload) (lookups : Nat → InsertLookups)
  | poll (organizationId : Uuid) (credentials : List Uuid) (found : List PolledFinding)
      (lookups : Nat → PollLookups)
  | operate (i : Nat) (e : LifecycleEvent)
  | change (cr : ChangeRequest)

/-- One finding of a delivery, behind the rows that the delivery has added. -/
def ingestReported (settings : Uuid → Option Dict) (rows : List FindingRecord)
    (payload : WebhookFindingsPayload) (lookups : Nat → InsertLookups) (done : List FindingRecord)
    (f : FindingIngest × Nat) : Except Exc (List FindingRecord) := do
  let task : IngestTask := { payload := payload, todo := [], done := done }
  if task.isStored rows f.1 then pure done
  else do
    let r ← task.stored settings rows f.1 (lookups f.2)
    pure (done ++ [r])

/-- A missing id is compared by `IS NULL`. -/
def PolledFinding.existing (organizationId : Uuid) (f : PolledFinding) (rows : List FindingRecord) :
    List FindingRecord :=
  rows.filter fun r => r.finding.organizationId = organizationId ∧
    r.finding.scanner = "crowdstrike" ∧ r.finding.scannerFindingId = f.id

def pollReported (rows : List FindingRecord) (organizationId : Uuid) (lookups : Nat → PollLookups)
    (done : List FindingRecord) (f : PolledFinding × Nat) : Except Exc (List FindingRecord) := do
  let existing ← Orm.oneOrNone (.other "MultipleResultsFound")
    (f.1.existing organizationId (rows ++ done))
  match existing,(lookups f.2).fault with
  | some _,_ => pure done
  | none,some e => throw e
  | none,none =>
    pure (done ++ [f.1.record organizationId (lookups f.2)])

namespace FindingTables

/-- The rows of a transaction that is committed at its end. -/
def add (s : FindingTables) : Except Exc (List FindingRecord) → FindingTables
  | .ok done => { s with
      rows := s.rows ++ done
      changes := s.changes ++ done.flatMap FindingRecord.changeRequests }
  | .error _ => s

def deliver (settings : Uuid → Option Dict) (s : FindingTables) (payload : WebhookFindingsPayload)
    (lookups : Nat → InsertLookups) : FindingTables :=
  s.add (payload.findings.zipIdx.foldlM (ingestReported settings s.rows payload lookups) [])

def pollCrowdstrike (s : FindingTables) (organizationId : Uuid) (credentials : List Uuid)
    (found : List PolledFinding) (lookups : Nat → PollLookups) : FindingTables :=
  match Orm.oneOrNone (Exc.other "MultipleResultsFound") credentials with
  | .ok (some _) =>
    s.add (found.zipIdx.foldlM (pollReported s.rows organizationId lookups) [])
  | _ => s

/-- A change request gets its status, or is the newest one. -/
def syncChange (changes : List ChangeRequest) (cr : ChangeRequest) : List ChangeRequest :=
  if changes.any (·.id = cr.id) then
    changes.map fun c => if c.id = cr.id then { c with status := cr.status } else c
  else changes ++ [cr]

def operate (s : FindingTables) (i : Nat) (r : FindingRecord) : FindingTables where
  rows := s.rows.set i r
  changes := r.changeRequests.foldl syncChange s.changes

def change (s : FindingTables) (cr : ChangeRequest) : FindingTables where
  rows := s.rows.map fun r => r.change cr.id cr.status
  changes := syncChange s.changes cr

def step (settings : Uuid → Option Dict) (s : FindingTables) : FindingEvent → Option FindingTables
  | .deliver payload lookups => some (s.deliver settings payload lookups)
  | .poll organizationId credentials found lookups =>
    some (s.pollCrowdstrike organizationId credentials found lookups)
  | .operate i e => do
    let r ← s.rows[i]?
    let r ← (← lifecycleSystem.step (some r) e)
    some (s.operate i r)
  | .change cr => some (s.change cr)

/-- The newest of the change requests for the asset. -/
def latestChange (s : FindingTables) (assetId : Option Uuid) : Option ChangeRequest :=
  assetId.bind fun id => (s.changes.filter fun cr => id ∈ cr.targetAssetIds).getLast?

/-- The status of a resolved finding that is reported again. -/
def regressedStatus (s : FindingTables) (r : FindingRecord) : String :=
  if (s.latestChange r.finding.assetId).any (·.status = .rolledBack) then "regressed_intentional"
  else "regressed"

end FindingTables

def findingSystem (settings : Uuid → Option Dict) : System FindingTables FindingEvent where
  start s := s.rows = []
  step := FindingTables.step settings

/-- The keys of the findings that a delivery or a poll reports. A poll reports nothing when there
is not one credential. -/
def FindingEvent.reported : FindingEvent → List (Uuid × String × String)
  | .deliver payload _ => payload.reports.filterMap FindingReport.key
  | .poll organizationId [_] found _ =>
    found.filterMap fun f => f.id.map fun id => (organizationId,"crowdstrike",id)
  | _ => []

/-- A resolved finding that is reported again is regressed, and no reported one is resolved. -/
structure RegressionsDetected (tr : List (Transition FindingTables FindingEvent)) : Prop where
  regressed : ∀ t ∈ tr, ∀ r ∈ t.pre.rows, ∀ k ∈ t.label.reported, r.key = some k →
    r.finding.status = "resolved" →
      ∃ r' ∈ t.post.rows, r'.finding.id = r.finding.id ∧
        r'.finding.status = t.pre.regressedStatus r
  unresolved : ∀ t ∈ tr, ∀ r ∈ t.post.rows, ∀ k ∈ t.label.reported, r.key = some k →
    r.finding.status ≠ "resolved"

/-- No resolved finding is reported. -/
def ReportsUnresolved (s : FindingTables) (e : FindingEvent) : Prop :=
  ∀ r ∈ s.rows, ∀ k ∈ e.reported, r.key = some k → r.finding.status ≠ "resolved"

section Rows

variable {settings : Uuid → Option Dict} {s : FindingTables} {rows done done' : List FindingRecord}
  {r : FindingRecord}

/-- Rows that have been stored just now. -/
def Fresh (rows : List FindingRecord) : Prop := ∀ r ∈ rows, r.finding.status ≠ "resolved"

theorem Fresh.snoc (h : Fresh rows) (hr : r.finding.status ≠ "resolved") :
    Fresh (rows ++ [r]) := by
  intro r' hr'
  rcases List.mem_append.mp hr' with hr' | hr'
  · exact h r' hr'
  · obtain rfl := List.mem_singleton.mp hr'
    exact hr

theorem stored_status {t : IngestTask} {f : FindingIngest} {l : InsertLookups}
    (h : t.stored settings rows f l = .ok r) : r.finding.status ≠ "resolved" := by
  unfold IngestTask.stored at h
  split at h
  · cases h
  split at h
  · cases h
  obtain ⟨hours,_,hr⟩ := bind_eq_ok.mp h
  obtain rfl := Except.ok.inj hr
  let finding := f.toFinding l.id t.payload.organizationId t.payload.scanner l.assetId
  rcases applyPolicy_status (r := { finding := finding, sla := newSla f.severity hours l.now })
    l.generation with hopen | hgenerated
  · exact hopen.trans_ne (show "open" ≠ "resolved" by decide)
  · exact hgenerated.trans_ne (by decide)

theorem ingestReported_fresh {payload : WebhookFindingsPayload} {lookups : Nat → InsertLookups}
    {f : FindingIngest × Nat} (hfresh : Fresh done)
    (h : ingestReported settings rows payload lookups done f = .ok done') : Fresh done' := by
  rw [ingestReported] at h
  split at h
  · obtain rfl := pure_eq_ok.mp h
    exact hfresh
  · obtain ⟨r,hr,h⟩ := bind_eq_ok.mp h
    obtain rfl := pure_eq_ok.mp h
    exact hfresh.snoc (stored_status hr)

theorem pollReported_fresh {organizationId : Uuid} {lookups : Nat → PollLookups}
    {f : PolledFinding × Nat} (hfresh : Fresh done)
    (h : pollReported rows organizationId lookups done f = .ok done') : Fresh done' := by
  obtain ⟨existing,_,h⟩ := bind_eq_ok.mp h
  split at h
  · obtain rfl := pure_eq_ok.mp h
    exact hfresh
  · cases h
  · obtain rfl := pure_eq_ok.mp h
    have hopen : (f.1.record organizationId (lookups f.2)).finding.status = "open" := rfl
    exact hfresh.snoc (hopen.trans_ne (by decide))

theorem add_rows {result : Except Exc (List FindingRecord)}
    (h : ∀ done, result = .ok done → Fresh done) :
    ∃ new, (s.add result).rows = s.rows ++ new ∧ Fresh new := by
  cases result with
  | ok done => exact ⟨done,rfl,h done rfl⟩
  | error e => exact ⟨[],(List.append_nil _).symm,List.forall_mem_nil _⟩

theorem deliver_rows (payload : WebhookFindingsPayload) (lookups : Nat → InsertLookups) :
    ∃ new, (s.deliver settings payload lookups).rows = s.rows ++ new ∧ Fresh new :=
  add_rows fun _ => foldlM_invariant (P := Fresh) (fun _ _ _ => ingestReported_fresh)
    (List.forall_mem_nil _)

theorem pollCrowdstrike_rows (organizationId : Uuid) (credentials : List Uuid)
    (found : List PolledFinding) (lookups : Nat → PollLookups) :
    ∃ new, (s.pollCrowdstrike organizationId credentials found lookups).rows = s.rows ++ new ∧
      Fresh new := by
  unfold FindingTables.pollCrowdstrike
  split
  · exact add_rows fun _ => foldlM_invariant (P := Fresh) (fun _ _ _ => pollReported_fresh)
      (List.forall_mem_nil _)
  · exact ⟨[],(List.append_nil _).symm,List.forall_mem_nil _⟩

end Rows

section Runs

variable {settings : Uuid → Option Dict} {s s' : FindingTables} {e : FindingEvent}
  {tr : List (Transition FindingTables FindingEvent)}

/-- A report leaves the rows that are there and adds fresh ones. -/
theorem report_rows (h : s.step settings e = some s') (hreport : e.reported ≠ []) :
    ∃ new, s'.rows = s.rows ++ new ∧ Fresh new := by
  cases e with
  | deliver payload lookups =>
    obtain rfl := Option.some.inj h
    exact deliver_rows payload lookups
  | poll organizationId credentials found lookups =>
    obtain rfl := Option.some.inj h
    exact pollCrowdstrike_rows organizationId credentials found lookups
  | operate | change => exact absurd rfl hreport

theorem unresolved_of_reports (h : s.step settings e = some s') (hnone : ReportsUnresolved s e) :
    ∀ r ∈ s'.rows, ∀ k ∈ e.reported, r.key = some k → r.finding.status ≠ "resolved" := by
  intro r hr k hk hkey
  obtain ⟨new,hrows,hfresh⟩ := report_rows h (List.ne_nil_of_mem hk)
  rw [hrows] at hr
  rcases List.mem_append.mp hr with hr | hr
  · exact hnone r hr k hk hkey
  · exact hfresh r hr

/-- A resolved finding stays resolved when it is reported. -/
theorem reports_of_unresolved (h : s.step settings e = some s')
    (hpost : ∀ r ∈ s'.rows, ∀ k ∈ e.reported, r.key = some k → r.finding.status ≠ "resolved") :
    ReportsUnresolved s e := by
  intro r hr k hk hkey
  obtain ⟨new,hrows,_⟩ := report_rows h (List.ne_nil_of_mem hk)
  exact hpost r (hrows ▸ List.mem_append_left _ hr) k hk hkey

/-- Regressions are detected in the runs in which there are none. -/
theorem regressionsDetected_iff (h : Run (findingSystem settings) tr s) :
    RegressionsDetected tr ↔ ∀ t ∈ tr, ReportsUnresolved t.pre t.label := by
  constructor
  · intro hdetected t ht
    obtain ⟨_,hstep⟩ := h.transition t ht
    exact reports_of_unresolved hstep (hdetected.unresolved t ht)
  · intro hnone
    refine ⟨fun t ht r hr k hk hkey hresolved => ?_,fun t ht => ?_⟩
    · exact (hnone t ht r hr k hk hkey hresolved).elim
    · obtain ⟨_,hstep⟩ := h.transition t ht
      exact unresolved_of_reports hstep (hnone t ht)

end Runs

section Samples

def nessusPayload : WebhookFindingsPayload where
  scanner := "nessus"
  organizationId := "o1"
  findings := [{ scannerFindingId := some "n-1", findingType := "cve", severity := "high" }]

def nessusDelivery : FindingEvent :=
  .deliver nessusPayload fun i => ⟨"f" ++ toString i,some "a1",0,noPolicies,none⟩

def emptyTables : FindingTables := ⟨[],[]⟩

/-- A delivery, its finding resolved along the table, and the same delivery again. -/
def resolvedThenReported : List FindingEvent :=
  [nessusDelivery,.operate 0 (statusUpdate "actionable"),.operate 0 (statusUpdate "remediating"),
    .operate 0 (statusUpdate "verifying"),.operate 0 (statusUpdate "resolved"),nessusDelivery]

theorem run_empty : Run (findingSystem fun _ => none) [] emptyTables := .start rfl

/-- A finding that is delivered twice, with no resolution in between. -/
theorem regressionsDetected_iff_redelivered :
    ∃ tr s, Run (findingSystem fun _ => none) tr s ∧ tr.length = 2 ∧
      (RegressionsDetected tr ↔ ∀ t ∈ tr, ReportsUnresolved t.pre t.label) := by
  have hrun : (findingSystem fun _ => none).replay emptyTables [nessusDelivery,nessusDelivery] =
    some _ := rfl
  exact ⟨_,_,run_empty.replay hrun,rfl,regressionsDetected_iff (run_empty.replay hrun)⟩

/-- The finding is still resolved when the scanner has reported it again. -/
theorem reported_stays_resolved :
    ∃ tr s, Run (findingSystem fun _ => none) tr s ∧
      (∃ r ∈ s.rows, r.key = some ("o1","nessus","n-1") ∧ r.finding.status = "resolved") ∧
      ¬RegressionsDetected tr := by
  have hrun : (findingSystem fun _ => none).replay emptyTables resolvedThenReported =
    some _ := rfl
  refine ⟨_,_,run_empty.replay hrun,?_,fun h => ?_⟩
  · exact ⟨_,List.mem_cons_self,rfl,rfl⟩
  · exact h.unresolved _ List.mem_cons_self _ List.mem_cons_self _ List.mem_cons_self rfl rfl

end Samples

end Nexplane
