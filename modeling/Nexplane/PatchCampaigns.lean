import Nexplane.Entities
import Nexplane.Lib.Float64
import Nexplane.Lib.Lists
import Nexplane.Lib.Runs

set_option autoImplicit false

/-! A patch campaign: its batches, the task that works through them, and the requests of operators
that may come between any two steps of the task. -/

namespace Nexplane
open PyValue Runs

inductive CampaignStatus where
  | draft
  | running
  | paused
  | complete
  | failed
  | aborted
  deriving DecidableEq, Repr

theorem batchSize_default : 1 ≤ 5 ∧ 5 ≤ 100 := by decide

theorem abortThreshold_default : (0 : ℚ) ≤ 1 / 5 ∧ (1 / 5 : ℚ) ≤ 1 := by decide +kernel

/-- The request to create a campaign, within the bounds of its schema. -/
structure CampaignCreate where
  targetAssetIds : List Uuid
  batchSize : Nat := 5
  abortThreshold : ℚ := 1 / 5
  rolloutStrategy : String := "rolling"
  batchSize_bounds : 1 ≤ batchSize ∧ batchSize ≤ 100 := by first | exact batchSize_default | decide
  abortThreshold_bounds : 0 ≤ abortThreshold ∧ abortThreshold ≤ 1 := by
    first | exact abortThreshold_default | decide +kernel

/-- An entry of `batches`. -/
structure BatchResult where
  batchIndex : Nat
  assetIds : List Uuid
  crIds : List Uuid
  failedIds : List Uuid
  status : String

structure PatchCampaign where
  id : Uuid
  organizationId : Uuid
  settings : CampaignCreate
  status : CampaignStatus := .draft
  batches : List BatchResult := []

/-- `range(360)` and `range(120)` of the two loops that wait. -/
def pausePolls : Nat := 360
def completionPolls : Nat := 120

def buildBatches (assetIds : List Uuid) (batchSize : Nat) (strategy : String) :
    List (List Uuid) :=
  if strategy = "canary" ∧ 1 < assetIds.length then [assetIds.take 1,assetIds.drop 1]
  else if strategy = "all_at_once" then [assetIds]
  else (Lists.stepped assetIds.length batchSize).map fun i => (assetIds.drop i).take batchSize

def shouldAbort (batchResult : BatchResult) (threshold : ℚ) : Bool :=
  if batchResult.assetIds = [] then false
  else threshold < Float64.quotient batchResult.failedIds.length batchResult.assetIds.length

/-- The members of the enumeration, each of which has its value as its name. -/
def ChangeRequestStatus.members : List ChangeRequestStatus :=
  [.draft,.planned,.safetyReview,.awaitingApproval,.approved,.executing,.verifying,.completed,
    .failed,.rolledBack,.rollbackPartial,.rollbackFailed,.manualRecoveryRequired,.rejected,
    .cancelled,.queuedForMaintenance,.preflightRunning,.preflightFailed,.batchRunning,
    .batchAborted,.completedWithErrors,.paused,.rolledBackWithWarnings]

/-- The attribute of the class with this name. -/
def ChangeRequestStatus.attribute (name : String) : Except Exc ChangeRequestStatus :=
  match members.find? fun status => status.value = name with
  | some status => .ok status
  | none => .error .attributeError

/-- The columns of a finding from which the package of a change request is taken. -/
structure FindingPackage where
  affectedPackage : Option String
  fixedVersion : Option String

/-- What the database answers while a change request is created: the first finding of the asset
and the first user of the organization, and the id of the committed row. -/
structure CampaignLookups where
  rows : Except Exc (Option FindingPackage × Option Uuid)
  commit : Except Exc Uuid

/-- The change request for one asset; `none` when the organization has no user. -/
def campaignChangeRequest (campaign : PatchCampaign) (assetId : Uuid)
    (lookups : CampaignLookups) : Except Exc (Option ChangeRequest) := do
  let (finding,user) ← lookups.rows
  let pkg := (finding.bind FindingPackage.affectedPackage).getD ""
  let targetVer := (finding.bind FindingPackage.fixedVersion).getD ""
  match user with
  | none => pure none
  | some requesterId =>
    let status ← ChangeRequestStatus.attribute "pending"
    let crId ← lookups.commit
    pure (some {
      id := crId
      organizationId := campaign.organizationId
      requesterId := requesterId
      changeType := .generic "patch_packages"
      targetAssetIds := [assetId]
      desiredOutcome :=
        if pkg = "" then []
        else [("packages",.arr [.obj [("name",.str pkg),("target_version",.str targetVer)]])]
      status := status
      riskLevel := some .medium
      changePlan := none
      applicationSequence := none })

/-- A batch that the task works on, the batches after it and the results of the ones before. -/
structure OpenBatch where
  assetIds : List Uuid
  crIds : List Uuid := []
  failedIds : List Uuid := []
  later : List (List Uuid)
  results : List BatchResult

def OpenBatch.result (b : OpenBatch) : BatchResult where
  batchIndex := b.results.length
  assetIds := b.assetIds
  crIds := b.crIds
  failedIds := b.failedIds
  status := if b.failedIds = [] then "passed" else "failed"

/-- Where `execute_campaign` stands between two of its database sessions. -/
inductive CampaignTask where
  | created
  | between (batches : List (List Uuid)) (results : List BatchResult)
  /-- In the loop that waits for the end of a pause. -/
  | held (polls : Nat) (b : OpenBatch)
  | creating (assetIds : List Uuid) (b : OpenBatch)
  /-- In the loop that waits for the change requests. -/
  | polling (polls : Nat) (b : OpenBatch)
  | gate (b : OpenBatch)
  | ended

/-- The row, the change requests that the campaign has created, and its task. -/
structure CampaignState where
  row : PatchCampaign
  changeRequests : List ChangeRequest
  task : CampaignTask

/-- One reading of the change requests: whether all are done, and the failed assets. -/
def pollChangeRequests (store : List ChangeRequest) : List Uuid → List Uuid → Bool × List Uuid
  | [], failedIds => (true,failedIds)
  | crId :: crIds, failedIds =>
    match store.find? fun cr => cr.id = crId with
    | none => pollChangeRequests store crIds failedIds
    | some cr =>
      match cr.status with
      | .completed | .completedWithErrors => pollChangeRequests store crIds failedIds
      | .failed | .rolledBack =>
        pollChangeRequests store crIds (cr.targetAssetIds.foldl
          (fun failedIds aid => if aid ∈ failedIds then failedIds else failedIds ++ [aid])
          failedIds)
      | _ => (false,failedIds)

namespace CampaignState

def setStatus (s : CampaignState) (status : CampaignStatus) : CampaignState :=
  { s with row := { s.row with status := status } }

def setBatches (s : CampaignState) (batches : List BatchResult) : CampaignState :=
  { s with row := { s.row with batches := batches } }

def goto (s : CampaignState) (task : CampaignTask) : CampaignState := { s with task := task }

@[simp] theorem setStatus_settings (s : CampaignState) (status : CampaignStatus) :
    (s.setStatus status).row.settings = s.row.settings := rfl

@[simp] theorem setBatches_settings (s : CampaignState) (batches : List BatchResult) :
    (s.setBatches batches).row.settings = s.row.settings := rfl

/-- The start of a batch, at which the status is read. -/
def startBatch (s : CampaignState) (b : OpenBatch) : CampaignState :=
  match s.row.status with
  | .aborted => s.goto .ended
  | .paused => s.goto (.held 0 b)
  | _ => s.goto (.creating b.assetIds b)

/-- A round of the loop that waits for the end of a pause. -/
def awaitResume (s : CampaignState) (polls : Nat) (b : OpenBatch) : CampaignState :=
  if s.row.status ≠ .paused ∨ polls + 1 = pausePolls then s.goto (.creating b.assetIds b)
  else s.goto (.held (polls + 1) b)

def createNext (s : CampaignState) (assetId : Uuid) (rest : List Uuid) (b : OpenBatch)
    (lookups : CampaignLookups) : CampaignState :=
  match campaignChangeRequest s.row assetId lookups with
  | .ok (some cr) =>
    { s with
      changeRequests := s.changeRequests ++ [cr]
      task := .creating rest { b with crIds := b.crIds ++ [cr.id] } }
  | _ => s.goto (.creating rest { b with failedIds := b.failedIds ++ [assetId] })

/-- A round of the loop that waits for the change requests. -/
def awaitCompletion (s : CampaignState) (polls : Nat) (b : OpenBatch) : CampaignState :=
  let (allDone,failedIds) := pollChangeRequests s.changeRequests b.crIds b.failedIds
  let b := { b with failedIds := failedIds }
  if allDone = true ∨ polls + 1 = completionPolls then s.goto (.gate b)
  else s.goto (.polling (polls + 1) b)

/-- The end of a batch, after the wait for the health gate. -/
def closeBatch (s : CampaignState) (b : OpenBatch) : CampaignState :=
  let results := b.results ++ [b.result]
  if shouldAbort b.result s.row.settings.abortThreshold = true ∧ b.later ≠ [] then
    ((s.setStatus .failed).setBatches results).goto .ended
  else (s.setBatches results).goto (.between b.later results)

def finish (s : CampaignState) (results : List BatchResult) : CampaignState :=
  let anyFailed := results.any fun r => r.failedIds ≠ []
  ((s.setStatus (if anyFailed then .failed else .complete)).setBatches results).goto .ended

/-- `execute_campaign` up to the end of its next database session. -/
def execute (s : CampaignState) (lookups : CampaignLookups) : Option CampaignState :=
  match s.task with
  | .created =>
    let c := s.row.settings
    some ((s.setStatus .running).goto
      (.between (buildBatches c.targetAssetIds c.batchSize c.rolloutStrategy) []))
  | .between [] results => some (s.finish results)
  | .between (assetIds :: later) results =>
    some (s.startBatch { assetIds := assetIds, later := later, results := results })
  | .held polls b => some (s.awaitResume polls b)
  | .creating [] b => some (s.goto (.polling 0 b))
  | .creating (assetId :: rest) b => some (s.createNext assetId rest b lookups)
  | .polling polls b => some (s.awaitCompletion polls b)
  | .gate b => some (s.closeBatch b)
  | .ended => none

def pause (s : CampaignState) : Option CampaignState :=
  if s.row.status = .running then some (s.setStatus .paused) else none

def resume (s : CampaignState) : Option CampaignState :=
  if s.row.status = .paused then some (s.setStatus .running) else none

def abort (s : CampaignState) : CampaignState := s.setStatus .aborted

/-- A workflow writes the status of a change request. -/
def change (s : CampaignState) (crId : Uuid) (status : ChangeRequestStatus) : CampaignState :=
  { s with
    changeRequests := s.changeRequests.map fun cr =>
      if cr.id = crId then { cr with status := status } else cr }

end CampaignState

inductive CampaignEvent where
  | pause
  | resume
  | abort
  | execute (lookups : CampaignLookups)
  | change (crId : Uuid) (status : ChangeRequestStatus)

def campaignSystem : System CampaignState CampaignEvent where
  start s := s.row.status = .draft ∧ s.row.batches = [] ∧ s.changeRequests = [] ∧
    s.task = .created
  step s e := match e with
    | .pause => s.pause
    | .resume => s.resume
    | .abort => some s.abort
    | .execute lookups => s.execute lookups
    | .change crId status => some (s.change crId status)

section Fruitless

/-- No asset of the batch was patched. -/
def BatchResult.Fruitless (r : BatchResult) : Prop := r.failedIds = r.assetIds ∧ r.crIds = []

/-- The assets before `todo` have failed, and each earlier batch has passed its gate. -/
structure OpenBatch.Fruitless (c : CampaignCreate) (todo : List Uuid) (b : OpenBatch) : Prop where
  crIds : b.crIds = []
  failedIds : b.failedIds ++ todo = b.assetIds
  targets : (b.results.map BatchResult.assetIds).flatten ++ (b.assetIds ++ b.later.flatten) =
    c.targetAssetIds
  results : ∀ r ∈ b.results, r.Fruitless ∧ shouldAbort r c.abortThreshold = false

def CampaignTask.Fruitless (c : CampaignCreate) : CampaignTask → Prop
  | .created => True
  | .between batches results =>
    (results.map BatchResult.assetIds).flatten ++ batches.flatten = c.targetAssetIds ∧
      ∀ r ∈ results, r.Fruitless ∧ (batches ≠ [] → shouldAbort r c.abortThreshold = false)
  | .held _ b => b.Fruitless c b.assetIds
  | .creating todo b => b.Fruitless c todo
  | .polling _ b => b.Fruitless c []
  | .gate b => b.Fruitless c []
  | .ended => True

/-- No change request was ever created, and a campaign that is complete had no target. -/
structure CampaignState.Fruitless (s : CampaignState) : Prop where
  changeRequests : s.changeRequests = []
  task : s.task.Fruitless s.row.settings
  complete : s.row.status = .complete → s.row.settings.targetAssetIds = []

theorem pending_not_member : ChangeRequestStatus.attribute "pending" = .error .attributeError := rfl

theorem campaignChangeRequest_ne_some (campaign : PatchCampaign) (assetId : Uuid)
    (lookups : CampaignLookups) (cr : ChangeRequest) :
    campaignChangeRequest campaign assetId lookups ≠ .ok (some cr) := by
  unfold campaignChangeRequest
  rcases lookups.rows with e | ⟨finding,user⟩
  · simp [bind,Except.bind]
  · cases user with
    | none => simp [bind,Except.bind,pure,Except.pure]
    | some requesterId => simp [bind,Except.bind,pending_not_member]

theorem buildBatches_flatten (c : CampaignCreate) :
    (buildBatches c.targetAssetIds c.batchSize c.rolloutStrategy).flatten = c.targetAssetIds := by
  unfold buildBatches
  split
  · simp [-List.drop_one]
  split
  · simp
  · exact Lists.flatten_stepped _ c.batchSize_bounds.1

variable {s s' : CampaignState} {b : OpenBatch} {c : CampaignCreate} {todo : List Uuid}

theorem createNext_eq (assetId : Uuid) (lookups : CampaignLookups) :
    s.createNext assetId todo b lookups =
      s.goto (.creating todo { b with failedIds := b.failedIds ++ [assetId] }) := by
  unfold CampaignState.createNext
  split
  · exact absurd ‹_› (campaignChangeRequest_ne_some _ _ _ _)
  · rfl

theorem awaitCompletion_eq (polls : Nat) (h : b.crIds = []) :
    s.awaitCompletion polls b = s.goto (.gate b) := by
  cases b
  cases h
  rfl

/-- A batch in which all assets failed is let through by the threshold 1 only. -/
theorem fruitless_shouldAbort {r : BatchResult} (h : r.Fruitless) (threshold : ℚ) :
    shouldAbort r threshold = true ↔ r.assetIds ≠ [] ∧ threshold < 1 := by
  unfold shouldAbort
  split
  · simp [*]
  · next hne =>
    rw [h.1,Float64.quotient_self (List.length_pos_iff.mpr hne)]
    simp [hne]

theorem OpenBatch.Fruitless.result (h : b.Fruitless c []) : b.result.Fruitless := by
  have hfailed := h.failedIds
  rw [List.append_nil] at hfailed
  exact ⟨hfailed,h.crIds⟩

theorem CampaignState.Fruitless.goto {task : CampaignTask} (h : s.Fruitless)
    (htask : task.Fruitless s.row.settings) : (s.goto task).Fruitless :=
  ⟨h.changeRequests,htask,h.complete⟩

theorem CampaignState.Fruitless.setStatus {status : CampaignStatus} (h : s.Fruitless)
    (hstatus : status = .complete → s.row.settings.targetAssetIds = []) :
    (s.setStatus status).Fruitless :=
  ⟨h.changeRequests,h.task,hstatus⟩

theorem CampaignState.Fruitless.setBatches (h : s.Fruitless) (batches : List BatchResult) :
    (s.setBatches batches).Fruitless :=
  ⟨h.changeRequests,h.task,h.complete⟩

theorem startBatch_fruitless (h : s.Fruitless) (hb : b.Fruitless s.row.settings b.assetIds) :
    (s.startBatch b).Fruitless := by
  unfold CampaignState.startBatch
  split
  · exact h.goto trivial
  · exact h.goto hb
  · exact h.goto hb

theorem awaitResume_fruitless (polls : Nat) (h : s.Fruitless)
    (hb : b.Fruitless s.row.settings b.assetIds) : (s.awaitResume polls b).Fruitless := by
  unfold CampaignState.awaitResume
  split
  · exact h.goto hb
  · exact h.goto hb

theorem createNext_fruitless {assetId : Uuid} (lookups : CampaignLookups) (h : s.Fruitless)
    (hb : b.Fruitless s.row.settings (assetId :: todo)) :
    (s.createNext assetId todo b lookups).Fruitless := by
  have hfailed := hb.failedIds
  rw [createNext_eq]
  exact h.goto ⟨hb.crIds,by simpa using hfailed,hb.targets,hb.results⟩

theorem closeBatch_fruitless (h : s.Fruitless) (hb : b.Fruitless s.row.settings []) :
    (s.closeBatch b).Fruitless := by
  unfold CampaignState.closeBatch
  dsimp only
  split
  · exact ((h.setStatus (by simp)).setBatches _).goto trivial
  · next hgate =>
    refine (h.setBatches _).goto ⟨?_,?_⟩
    · rw [CampaignState.setBatches_settings,← hb.targets]
      simp [OpenBatch.result]
    · intro r hr
      rcases List.mem_append.mp hr with hr | hr
      · exact (hb.results r hr).imp_right fun hpassed _ => hpassed
      · obtain rfl := List.mem_singleton.mp hr
        refine ⟨hb.result,fun hlater => ?_⟩
        by_contra habort
        exact hgate ⟨by simpa using habort,hlater⟩

/-- The threshold does not matter for the last batch. -/
theorem closeBatch_last (h : b.later = []) :
    s.closeBatch b =
      (s.setBatches (b.results ++ [b.result])).goto (.between [] (b.results ++ [b.result])) := by
  simp [CampaignState.closeBatch,h]

/-- Only a campaign without targets has a batch without failures at its end. -/
theorem finish_fruitless {results : List BatchResult} (h : s.Fruitless)
    (htargets : (results.map BatchResult.assetIds).flatten = s.row.settings.targetAssetIds)
    (hresults : ∀ r ∈ results, r.Fruitless) : (s.finish results).Fruitless := by
  unfold CampaignState.finish
  refine ((h.setStatus fun hstatus => ?_).setBatches _).goto trivial
  rw [← htargets,List.flatten_eq_nil_iff,List.forall_mem_map]
  intro r hr
  have hpassed : ∀ r ∈ results, r.failedIds = [] := by simpa using hstatus
  rw [← (hresults r hr).1,hpassed r hr]

theorem execute_fruitless {lookups : CampaignLookups} (h : s.Fruitless)
    (hs : s.execute lookups = some s') : s'.Fruitless := by
  have htask := h.task
  unfold CampaignState.execute at hs
  cases hat : s.task with
  | created =>
    rw [hat] at hs
    obtain rfl := Option.some.inj hs
    exact (h.setStatus (by simp)).goto ⟨by simp [buildBatches_flatten],by simp⟩
  | between batches results =>
    rw [hat] at hs htask
    obtain ⟨htargets,hresults⟩ := htask
    cases batches with
    | nil =>
      obtain rfl := Option.some.inj hs
      exact finish_fruitless h (by simpa using htargets) fun r hr => (hresults r hr).1
    | cons assetIds later =>
      obtain rfl := Option.some.inj hs
      refine startBatch_fruitless h ⟨rfl,rfl,htargets,fun r hr => ?_⟩
      exact (hresults r hr).imp_right fun hpassed => hpassed (by simp)
  | held polls b =>
    rw [hat] at hs htask
    obtain rfl := Option.some.inj hs
    exact awaitResume_fruitless polls h htask
  | creating todo b =>
    rw [hat] at hs htask
    cases todo with
    | nil =>
      obtain rfl := Option.some.inj hs
      exact h.goto htask
    | cons assetId rest =>
      obtain rfl := Option.some.inj hs
      exact createNext_fruitless lookups h htask
  | polling polls b =>
    rw [hat] at hs htask
    obtain rfl := Option.some.inj hs
    rw [awaitCompletion_eq polls htask.crIds]
    exact h.goto htask
  | gate b =>
    rw [hat] at hs htask
    obtain rfl := Option.some.inj hs
    exact closeBatch_fruitless h htask
  | ended =>
    rw [hat] at hs
    cases hs

/-- Only an operator aborts a campaign. -/
theorem aborted_of_execute {lookups : CampaignLookups} (hs : s.execute lookups = some s')
    (haborted : s'.row.status = .aborted) : s.row.status = .aborted := by
  unfold CampaignState.execute at hs
  cases hat : s.task with
  | created =>
    rw [hat] at hs
    obtain rfl := Option.some.inj hs
    cases haborted
  | between batches results =>
    rw [hat] at hs
    cases batches with
    | nil =>
      obtain rfl := Option.some.inj hs
      simp only [CampaignState.finish] at haborted
      split at haborted <;> cases haborted
    | cons assetIds later =>
      obtain rfl := Option.some.inj hs
      unfold CampaignState.startBatch at haborted
      split at haborted <;> exact haborted
  | held polls b =>
    rw [hat] at hs
    obtain rfl := Option.some.inj hs
    unfold CampaignState.awaitResume at haborted
    split at haborted <;> exact haborted
  | creating todo b =>
    rw [hat] at hs
    cases todo with
    | nil =>
      obtain rfl := Option.some.inj hs
      exact haborted
    | cons assetId rest =>
      obtain rfl := Option.some.inj hs
      rw [createNext_eq] at haborted
      exact haborted
  | polling polls b =>
    rw [hat] at hs
    obtain rfl := Option.some.inj hs
    simp only [CampaignState.awaitCompletion] at haborted
    split at haborted <;> exact haborted
  | gate b =>
    rw [hat] at hs
    obtain rfl := Option.some.inj hs
    simp only [CampaignState.closeBatch] at haborted
    split at haborted
    · cases haborted
    · exact haborted
  | ended =>
    rw [hat] at hs
    cases hs

theorem campaign_fruitless : Inductive campaignSystem CampaignState.Fruitless where
  start := by
    rintro s ⟨hstatus,-,hrequests,htask⟩
    exact ⟨hrequests,by rw [htask]; trivial,by simp [hstatus]⟩
  step := by
    intro s e s' h hs
    cases e with
    | pause =>
      obtain ⟨-,hs⟩ := Option.ite_none_right_eq_some.mp hs
      obtain rfl := Option.some.inj hs
      exact h.setStatus (by simp)
    | resume =>
      obtain ⟨-,hs⟩ := Option.ite_none_right_eq_some.mp hs
      obtain rfl := Option.some.inj hs
      exact h.setStatus (by simp)
    | abort =>
      obtain rfl := Option.some.inj hs
      exact h.setStatus (by simp)
    | execute lookups => exact execute_fruitless h hs
    | change crId status =>
      obtain rfl := Option.some.inj hs
      refine ⟨?_,h.task,h.complete⟩
      simp [CampaignState.change,h.changeRequests]

end Fruitless

end Nexplane
