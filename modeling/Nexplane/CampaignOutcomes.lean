import Nexplane.PatchCampaigns

set_option autoImplicit false

/-! What the outcomes of its change requests mean for a patch campaign. -/

namespace Nexplane
open Runs

/-- The execution of the change request is over. -/
def ChangeRequestStatus.terminal : ChangeRequestStatus → Bool
  | .completed | .failed | .rolledBack | .rollbackPartial | .rollbackFailed
  | .manualRecoveryRequired | .rejected | .cancelled | .preflightFailed | .batchAborted
  | .completedWithErrors | .rolledBackWithWarnings => true
  | _ => false

namespace CampaignState

def statusOf (s : CampaignState) (crId : Uuid) : Option ChangeRequestStatus :=
  (s.changeRequests.find? fun cr => cr.id = crId).map ChangeRequest.status

/-- A completed change request of the campaign has patched the asset. -/
def patched (s : CampaignState) (assetId : Uuid) : Bool :=
  s.changeRequests.any fun cr => cr.status = .completed && assetId ∈ cr.targetAssetIds

end CampaignState

/-- The share of the assets of a batch that no completed change request has patched. -/
def BatchResult.unpatched (r : BatchResult) (s : CampaignState) : ℚ :=
  r.assetIds.countP (fun a => !s.patched a) / r.assetIds.length

/-- The step begins a batch. -/
def Begins (t : Transition CampaignState CampaignEvent) (b : OpenBatch) : Prop :=
  (t.pre.task = .between (b.assetIds :: b.later) b.results ∨
    ∃ polls, t.pre.task = .held polls b) ∧ t.post.task = .creating b.assetIds b

/-- No operator interferes, the database answers, and each wait for the change requests of a batch
ends with all of them completed. -/
structure AllCompleted (tr : List (Transition CampaignState CampaignEvent)) : Prop where
  undisturbed : ∀ t ∈ tr, t.label ≠ .pause ∧ t.label ≠ .resume ∧ t.label ≠ .abort
  answered : ∀ t ∈ tr, ∀ lookups, t.label = .execute lookups →
    (∃ finding requesterId, lookups.rows = .ok (finding,some requesterId)) ∧
      ∃ crId, lookups.commit = .ok crId
  completed : ∀ t ∈ tr, ∀ polls b b', t.pre.task = .polling polls b → t.post.task = .gate b' →
    ∀ crId ∈ b.crIds, t.pre.statusOf crId = some .completed

/-- The campaign gates on the outcomes of its change requests. -/
structure GatesOnOutcomes (c : CampaignCreate) : Prop where
  partition : (buildBatches c.targetAssetIds c.batchSize c.rolloutStrategy).flatten =
    c.targetAssetIds
  completes : ∀ tr s, Run campaignSystem tr s → s.row.settings = c → AllCompleted tr →
    s.task = .ended → s.row.status = .complete ∧ ∀ a ∈ c.targetAssetIds, s.patched a = true
  gated : ∀ tr s, Run campaignSystem tr s → ∀ t ∈ tr, t.pre.row.settings = c →
    ∀ b, Begins t b → ∀ r, b.results.getLast? = some r →
      (∀ crId ∈ r.crIds, ∃ status, t.pre.statusOf crId = some status ∧ status.terminal = true) ∧
        r.unpatched t.pre ≤ c.abortThreshold
  complete : ∀ s, Reachable campaignSystem s → s.row.settings = c → s.row.status = .complete →
    ∀ a ∈ c.targetAssetIds, s.patched a = true

section Gates

variable {c : CampaignCreate} {s : CampaignState}

theorem fruitless_unpatched {r : BatchResult} (hs : s.changeRequests = []) (hr : r.assetIds ≠ []) :
    r.unpatched s = 1 := by
  have hall : r.assetIds.countP (fun a => !s.patched a) = r.assetIds.length := by
    simp [CampaignState.patched,hs]
  have hpos : (r.assetIds.length : ℚ) ≠ 0 := by simpa using hr
  rw [BatchResult.unpatched,hall,div_self hpos]

theorem fruitless_gate {r : BatchResult} (hs : s.changeRequests = []) (hr : r.Fruitless)
    (hpassed : shouldAbort r c.abortThreshold = false) :
    (∀ crId ∈ r.crIds, ∃ status, s.statusOf crId = some status ∧ status.terminal = true) ∧
      r.unpatched s ≤ c.abortThreshold := by
  refine ⟨by simp [hr.2],?_⟩
  by_cases hempty : r.assetIds = []
  · simpa [BatchResult.unpatched,hempty] using c.abortThreshold_bounds.1
  · rw [fruitless_unpatched hs hempty]
    by_contra hlt
    have habort := (fruitless_shouldAbort hr c.abortThreshold).mpr ⟨hempty,lt_of_not_ge hlt⟩
    rw [habort] at hpassed
    cases hpassed

/-- The results before a batch that begins are those of batches that passed their gate. -/
theorem begins_results {t : Transition CampaignState CampaignEvent} {b : OpenBatch}
    (h : t.pre.Fruitless) (hb : Begins t b) :
    ∀ r ∈ b.results, r.Fruitless ∧ shouldAbort r t.pre.row.settings.abortThreshold = false := by
  have htask := h.task
  intro r hr
  rcases hb.1 with hpre | ⟨polls,hpre⟩
  · rw [hpre] at htask
    exact (htask.2 r hr).imp_right fun hpassed => hpassed (List.cons_ne_nil _ _)
  · rw [hpre] at htask
    exact htask.results r hr

end Gates

section Alone

/-- What the database answers when it has a user and no fault. -/
def patchLookups : CampaignLookups where
  rows := .ok (none,some "u1")
  commit := .ok "cr1"

/-- The task alone takes steps, and the database answers. -/
def RunsAlone (tr : List (Transition CampaignState CampaignEvent)) : Prop :=
  ∀ t ∈ tr, t.label = .execute patchLookups

def batchWork (batches : List (List Uuid)) : Nat :=
  (batches.map fun assetIds => assetIds.length + 4).sum + 1

/-- The steps that the task takes at most, unless it is paused. -/
def CampaignTask.work (c : CampaignCreate) : CampaignTask → Nat
  | .created => batchWork (buildBatches c.targetAssetIds c.batchSize c.rolloutStrategy) + 1
  | .between batches _ => batchWork batches
  | .held _ b => b.assetIds.length + 4 + batchWork b.later
  | .creating todo b => todo.length + 3 + batchWork b.later
  | .polling _ b => 2 + batchWork b.later
  | .gate b => 1 + batchWork b.later
  | .ended => 0

variable {c : CampaignCreate} {s : CampaignState}
  {tr : List (Transition CampaignState CampaignEvent)}

/-- The step of a task that is not paused brings it closer to its end. -/
structure CloserToEnd (s s' : CampaignState) : Prop where
  settings : s'.row.settings = s.row.settings
  status : s.row.status ≠ .paused → s'.row.status ≠ .paused
  work : s.row.status ≠ .paused → s'.task.work s.row.settings < s.task.work s.row.settings

theorem advances_goto {task : CampaignTask}
    (hwork : task.work s.row.settings < s.task.work s.row.settings) : CloserToEnd s (s.goto task) :=
  ⟨rfl,id,fun _ => hwork⟩

theorem finish_advances {results : List BatchResult} (hat : s.task = .between [] results) :
    CloserToEnd s (s.finish results) := by
  refine ⟨rfl,fun _ => ?_,fun _ => ?_⟩
  · simp only [CampaignState.finish,CampaignState.goto,CampaignState.setBatches,
      CampaignState.setStatus]
    split <;> simp
  · simp [hat,CampaignState.finish,CampaignState.goto,CampaignTask.work,batchWork]

theorem startBatch_advances {b : OpenBatch}
    (hat : s.task = .between (b.assetIds :: b.later) b.results) :
    CloserToEnd s (s.startBatch b) := by
  unfold CampaignState.startBatch
  split
  · exact advances_goto (by simp [hat,CampaignTask.work,batchWork])
  · next hpaused => exact ⟨rfl,id,fun hne => absurd hpaused hne⟩
  · refine advances_goto ?_
    simp [hat,CampaignTask.work,batchWork]
    omega

theorem awaitResume_advances {polls : Nat} {b : OpenBatch} (hat : s.task = .held polls b) :
    CloserToEnd s (s.awaitResume polls b) := by
  unfold CampaignState.awaitResume
  split
  · exact advances_goto (by simp [hat,CampaignTask.work])
  · next hheld => exact ⟨rfl,id,fun hne => absurd (Or.inl hne) hheld⟩

theorem closeBatch_advances {b : OpenBatch} (hat : s.task = .gate b) :
    CloserToEnd s (s.closeBatch b) := by
  simp only [CampaignState.closeBatch]
  split
  · refine ⟨rfl,fun _ => by simp [CampaignState.goto,CampaignState.setBatches,
      CampaignState.setStatus],fun _ => ?_⟩
    simp [hat,CampaignState.goto,CampaignTask.work]
  · refine ⟨rfl,id,fun _ => ?_⟩
    simp [hat,CampaignState.goto,CampaignTask.work]

theorem execute_advances (lookups : CampaignLookups) (h : s.Fruitless) (hended : s.task ≠ .ended) :
    ∃ s', s.execute lookups = some s' ∧ CloserToEnd s s' := by
  have htask := h.task
  unfold CampaignState.execute
  cases hat : s.task with
  | created =>
    refine ⟨_,rfl,rfl,fun _ => by simp [CampaignState.goto,CampaignState.setStatus],fun _ => ?_⟩
    simp [hat,CampaignState.goto,CampaignTask.work]
  | between batches results =>
    cases batches with
    | nil => exact ⟨_,rfl,finish_advances hat⟩
    | cons assetIds later => exact ⟨_,rfl,startBatch_advances hat⟩
  | held polls b => exact ⟨_,rfl,awaitResume_advances hat⟩
  | creating todo b =>
    cases todo with
    | nil => exact ⟨_,rfl,advances_goto (by simp [hat,CampaignTask.work])⟩
    | cons assetId rest =>
      refine ⟨_,rfl,?_⟩
      rw [createNext_eq]
      exact advances_goto (by simp [hat,CampaignTask.work])
  | polling polls b =>
    rw [hat] at htask
    refine ⟨_,rfl,?_⟩
    rw [awaitCompletion_eq polls htask.crIds]
    exact advances_goto (by simp [hat,CampaignTask.work])
  | gate b => exact ⟨_,rfl,closeBatch_advances hat⟩
  | ended => exact absurd hat hended

/-- A task that nothing disturbs comes to its end. -/
theorem task_ends (h : Run campaignSystem tr s) (halone : RunsAlone tr)
    (hpaused : s.row.status ≠ .paused) :
    ∃ tr' s', Run campaignSystem tr' s' ∧ RunsAlone tr' ∧ s'.task = .ended ∧
      s'.row.settings = s.row.settings := by
  induction hwork : s.task.work s.row.settings using Nat.strongRecOn generalizing s tr with
  | ind n ih =>
    by_cases hended : s.task = .ended
    · exact ⟨tr,s,h,halone,hended,rfl⟩
    · obtain ⟨s',hs,hadv⟩ := execute_advances patchLookups (h.invariant campaign_fruitless) hended
      have hstep : campaignSystem.step s (.execute patchLookups) = some s' := hs
      have hless := hadv.work hpaused
      rw [hwork,← hadv.settings] at hless
      obtain ⟨tr',s'',hrun,halone,hend,hsettings⟩ :=
        ih _ hless (h.step hstep) (List.forall_mem_cons.mpr ⟨rfl,halone⟩) (hadv.status hpaused) rfl
      exact ⟨tr',s'',hrun,halone,hend,hsettings.trans hadv.settings⟩

/-- No change request is awaited, so none is awaited in vain. -/
theorem alone_allCompleted (h : Run campaignSystem tr s) (halone : RunsAlone tr) :
    AllCompleted tr where
  undisturbed t ht := by simp [halone t ht]
  answered t ht lookups hlabel := by
    rw [halone t ht] at hlabel
    obtain rfl := CampaignEvent.execute.inj hlabel
    exact ⟨⟨none,"u1",rfl⟩,"cr1",rfl⟩
  completed t ht polls b b' hpolling _ crId hcr := by
    have htask := ((h.transition t ht).1.invariant campaign_fruitless).task
    rw [hpolling] at htask
    rw [htask.crIds] at hcr
    exact absurd hcr List.not_mem_nil

end Alone

section Empty

variable {s s' : CampaignState} {b : OpenBatch}

theorem results_pass {results : List BatchResult} (hresults : ∀ r ∈ results, r.Fruitless)
    (hempty : (results.map BatchResult.assetIds).flatten = []) :
    (results.any fun r => r.failedIds ≠ []) = false := by
  rw [List.flatten_eq_nil_iff,List.forall_mem_map] at hempty
  have hfailed : ∀ r ∈ results, r.failedIds = [] := fun r hr =>
    (hresults r hr).1.trans (hempty r hr)
  simpa using hfailed

/-- A campaign without targets ends complete, unless it is aborted. -/
theorem execute_empty {lookups : CampaignLookups} (h : s.Fruitless)
    (hempty : s.row.settings.targetAssetIds = []) (habort : s.row.status ≠ .aborted)
    (hs : s.execute lookups = some s') (hended : s'.task = .ended) :
    s'.row.status = .complete := by
  have htask := h.task
  unfold CampaignState.execute at hs
  cases hat : s.task with
  | created =>
    rw [hat] at hs
    obtain rfl := Option.some.inj hs
    cases hended
  | between batches results =>
    rw [hat] at hs htask
    cases batches with
    | nil =>
      obtain rfl := Option.some.inj hs
      have htargets : (results.map BatchResult.assetIds).flatten = [] := by
        simpa [hempty] using htask.1
      simp only [CampaignState.finish,
        results_pass (fun r hr => (htask.2 r hr).1) htargets]
      rfl
    | cons assetIds later =>
      obtain rfl := Option.some.inj hs
      unfold CampaignState.startBatch at hended
      split at hended
      · next haborted => exact absurd haborted habort
      · cases hended
      · cases hended
  | held polls b =>
    rw [hat] at hs
    obtain rfl := Option.some.inj hs
    unfold CampaignState.awaitResume at hended
    split at hended <;> cases hended
  | creating todo b =>
    rw [hat] at hs
    cases todo with
    | nil =>
      obtain rfl := Option.some.inj hs
      cases hended
    | cons assetId rest =>
      obtain rfl := Option.some.inj hs
      rw [createNext_eq] at hended
      cases hended
  | polling polls b =>
    rw [hat] at hs htask
    obtain rfl := Option.some.inj hs
    rw [awaitCompletion_eq polls htask.crIds] at hended
    cases hended
  | gate b =>
    rw [hat] at hs htask
    obtain rfl := Option.some.inj hs
    have hassets : b.assetIds = [] := by
      have htargets := htask.targets
      simp only [hempty,List.append_eq_nil_iff] at htargets
      exact htargets.2.1
    have hpassed : shouldAbort b.result s.row.settings.abortThreshold = false := by
      simp [shouldAbort,OpenBatch.result,hassets]
    simp [CampaignState.closeBatch,hpassed,CampaignState.goto] at hended
  | ended =>
    rw [hat] at hs
    cases hs

/-- How a campaign without targets ends when no operator takes part. -/
structure EmptyEnds (s : CampaignState) : Prop where
  fruitless : s.Fruitless
  unaborted : s.row.status ≠ .aborted
  complete : s.row.settings.targetAssetIds = [] → s.task = .ended → s.row.status = .complete

theorem empty_ends : InductiveUnder campaignSystem
    (fun _ e => e ≠ .pause ∧ e ≠ .resume ∧ e ≠ .abort) EmptyEnds where
  start := by
    intro s h0
    refine ⟨campaign_fruitless.start s h0,by simp [h0.1],fun _ hended => ?_⟩
    rw [h0.2.2.2] at hended
    cases hended
  step := by
    rintro s e s' h ⟨hpause,hresume,habort⟩ hs
    have hfruitless := campaign_fruitless.step s e s' h.fruitless hs
    cases e with
    | pause => exact absurd rfl hpause
    | resume => exact absurd rfl hresume
    | abort => exact absurd rfl habort
    | execute lookups =>
      refine ⟨hfruitless,fun haborted => h.unaborted (aborted_of_execute hs haborted),?_⟩
      intro hempty hended
      have hlive : s.task ≠ .ended := by
        intro hat
        simp [campaignSystem,CampaignState.execute,hat] at hs
      obtain ⟨s'',hnext,hadv⟩ := execute_advances lookups h.fruitless hlive
      obtain rfl := Option.some.inj (hnext.symm.trans hs)
      rw [hadv.settings] at hempty
      exact execute_empty h.fruitless hempty h.unaborted hs hended
    | change crId status =>
      obtain rfl := Option.some.inj hs
      exact ⟨hfruitless,h.unaborted,h.complete⟩

end Empty

theorem complete_without_targets {s : CampaignState} (h : Reachable campaignSystem s)
    (hstatus : s.row.status = .complete) : s.row.settings.targetAssetIds = [] :=
  (h.invariant campaign_fruitless).complete hstatus

/-- The campaign gates on outcomes exactly when it has nothing to patch. -/
theorem gates_on_outcomes_iff (c : CampaignCreate) :
    GatesOnOutcomes c ↔ c.targetAssetIds = [] := by
  constructor
  · intro h
    let s : CampaignState := ⟨{ id := "c1", organizationId := "o1", settings := c },[],.created⟩
    have hstart : Run campaignSystem [] s := .start ⟨rfl,rfl,rfl,rfl⟩
    obtain ⟨tr,s',hrun,halone,hended,hsettings⟩ :=
      task_ends hstart (by simp [RunsAlone]) (by simp [s])
    have hcomplete := (h.completes tr s' hrun hsettings
      (alone_allCompleted hrun halone) hended).1
    have htargets := complete_without_targets hrun.reachable hcomplete
    rwa [hsettings] at htargets
  · intro hempty
    refine ⟨buildBatches_flatten c,?_,?_,?_⟩
    · intro tr s hrun hc hall hended
      have hends := hrun.guarded empty_ends hall.undisturbed
      exact ⟨hends.complete (by rw [hc,hempty]) hended,by simp [hempty]⟩
    · intro tr s hrun t ht hc b hbegins r hr
      have hpre := (hrun.transition t ht).1.invariant campaign_fruitless
      have hresult := begins_results hpre hbegins r (List.mem_of_getLast? hr)
      rw [hc] at hresult
      exact fruitless_gate hpre.changeRequests hresult.1 hresult.2
    · simp [hempty]

def onePatch : CampaignState where
  row := { id := "c1", organizationId := "o1", settings := { targetAssetIds := ["a1"] } }
  changeRequests := []
  task := .created

def onePatchGate : CampaignState where
  row := { onePatch.row with status := .running }
  changeRequests := []
  task := .gate { assetIds := ["a1"], failedIds := ["a1"], later := [], results := [] }

/-- A campaign with one target fails, though nothing goes wrong. -/
theorem patched_campaign_fails : ¬GatesOnOutcomes { targetAssetIds := ["a1"] } := by
  intro h
  have hstart : Run campaignSystem [] onePatch := .start ⟨rfl,rfl,rfl,rfl⟩
  let steps : List CampaignEvent := List.replicate 5 (.execute patchLookups)
  have hrun : campaignSystem.replay onePatch steps = some onePatchGate := rfl
  have hmeets : campaignSystem.Meets (fun _ e => e = .execute patchLookups) onePatch steps :=
    ⟨rfl,rfl,rfl,rfl,rfl,trivial⟩
  have hbefore : RunsAlone (campaignSystem.history [] onePatch steps) :=
    System.history_meets hmeets (by simp)
  have hclose : campaignSystem.step onePatchGate (.execute patchLookups) = some _ :=
    congrArg some (closeBatch_last rfl)
  have hended := ((hstart.replay hrun).step hclose).step (a := .execute patchLookups) rfl
  have hcompleted := alone_allCompleted hended
    (List.forall_mem_cons.mpr ⟨rfl,List.forall_mem_cons.mpr ⟨rfl,hbefore⟩⟩)
  have hcomplete := (h.completes _ _ hended rfl hcompleted rfl).1
  cases hcomplete

end Nexplane
