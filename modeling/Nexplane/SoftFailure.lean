import Nexplane.WorkflowRecords

set_option autoImplicit false

/-! Failures that the executor of a plan step reports in its result. The step loop does not look at
them, and the workflow looks at one flag of the first step's result. -/

namespace Nexplane
open PyValue

variable {ω : Type}

/-- The statuses with which executors report a failure. -/
def failureStatuses : List String :=
  ["upgrade_failed", "verify_failed", "service_health_failed", "failed",
    "failed_and_rolled_back", "blocked", "preflight_blocked"]

/-- A result that signals failure, by a flag or by its status. -/
def signalsFailure (result : Json) : Bool :=
  match result with
  | .obj d =>
    (Dict.getD d "failed" .null).isTrue || (Dict.getD d "aborted" .null).isTrue ||
      failureStatuses.any fun status => (Dict.getD d "status" .null).isStr status
  | _ => false

/-- The step loop of a change with a risk level has run to its end with these records. -/
structure StepsReturn (env : Env ω) (w : World ω) (rs : List StepRecord) (site : Site ω) :
    Prop where
  executor : workflowExecutor w.cr.changeType = .planSteps
  riskLevel : w.cr.riskLevel.isSome
  returned : runSteps env (w.markStatus .executing).cr w.connectors [] w.cr.steps w.site =
    (.ok rs,site)

/-- No step is executed after one that signals failure, and the change is not completed then. -/
def FailuresStop (rs : List StepRecord) (status : ChangeRequestStatus) : Prop :=
  ∀ before r after, rs = before ++ r :: after → signalsFailure r.result = true →
    after = [] ∧ status ≠ .completed

/-- What the workflow takes for the result of the executor reports a failure. -/
def firstReportsFailed : List StepRecord → Bool
  | [] => false
  | r :: _ => reportsFailed r.result

/-- The change type has a hook after its execution, and this raises. -/
def hookRaises (env : Env ω) (w : World ω) (rs : List StepRecord) (site : Site ω) : Bool :=
  hasPostHook w.cr.changeType &&
    !(env.postHook w.cr.changeType w.cr.targetAssetIds (stepRecords rs) site.outside).1.isOk

/-- No step reports a failure, or the last executed one does and the workflow sees it: it is the
first step too and sets the failure flag, or a hook raises. -/
def FailuresSeen (env : Env ω) (w : World ω) (rs : List StepRecord) (site : Site ω) : Prop :=
  (∀ r ∈ rs, signalsFailure r.result = false) ∨
    ∃ before r, rs = before ++ [r] ∧ (∀ b ∈ before, signalsFailure b.result = false) ∧
      w.cr.changeType ≠ .adDcParallelUpgrade ∧
      (before = [] ∧ reportsFailed r.result = true ∨ hookRaises env w rs site = true)

section Executor

variable {env : Env ω} {connectorType actionId : String} {parameters : Dict}
  {assetIds : List String} {connector : Option Connector} {s s' : Site ω} {result : Json}

/-- Replacing the payload of an inventory entry by its identifier keeps the signals. -/
theorem signalsFailure_autoAsset (d : Dict) (id : Json) :
    signalsFailure (.obj ((Dict.erase d "_auto_asset").set "_auto_asset_id" id)) =
      signalsFailure (.obj d) := by
  have hkeep : ∀ k, k ≠ "_auto_asset" → k ≠ "_auto_asset_id" →
      Dict.getD ((Dict.erase d "_auto_asset").set "_auto_asset_id" id) k .null =
        Dict.getD d k .null := by
    intro k hk hid
    rw [Dict.getD,Dict.get?_set_of_ne hid,Dict.get?_erase_of_ne hk,Dict.getD]
  simp only [signalsFailure,hkeep "failed" (by decide) (by decide),
    hkeep "aborted" (by decide) (by decide),hkeep "status" (by decide) (by decide)]

end Executor

section Records

variable {env : Env ω} {w v : World ω} {rs : List StepRecord} {site : Site ω}

theorem reportsFailed_signals {result : Json} (h : reportsFailed result = true) :
    signalsFailure result = true := by
  cases result with
  | obj d =>
    have hflag : (Dict.getD d "failed" .null).isTrue = true := h
    simp [signalsFailure,hflag]
  | _ => cases h

theorem executorResult_records (rs : List StepRecord) :
    ∃ checked, executorResult (stepRecords rs) = .ok checked ∧
      reportsFailed checked = firstReportsFailed rs := by
  cases rs with
  | nil => exact ⟨_,rfl,rfl⟩
  | cons r rs =>
    refine ⟨if r.result.isDict then r.result else stepRecords (r :: rs),rfl,?_⟩
    cases hr : r.result <;> simp [Json.isDict,firstReportsFailed,hr] <;> rfl

theorem activityExecuteChange_returns (h : StepsReturn env w rs site) :
    activityExecuteChange env (w.markStatus .executing) =
      (.ok (stepRecords rs),{ w.markStatus .executing with site := site.close }) := by
  have hrun : onSite (session (runSteps env (w.markStatus .executing).cr
      (w.markStatus .executing).connectors [] (w.markStatus .executing).cr.steps))
      (w.markStatus .executing) =
        (.ok rs,{ w.markStatus .executing with site := site.close }) := by
    rw [World.markStatus_connectors,World.markStatus_steps]
    simp only [onSite,Py.zoom_run,session_run,World.markStatus_site,h.returned]
  rw [activityExecuteChange_planSteps (by simpa using h.executor),executePlanSteps,Py.get_bind,
    Py.bind_ok hrun]
  rfl

theorem markStatus_of_ne {status : ChangeRequestStatus} (h : status ≠ .completed) :
    w.markStatus status = w.setStatus status := by
  rw [World.markStatus,if_neg (by simp [h])]

theorem updateExecutionRunStatus_keeps (p : ChangeRequest → Prop) (run : Option Nat)
    (status : ExecutionStatus) (result : Dict) :
    Py.Keeps (fun u : World ω => p u.cr) (updateExecutionRunStatus run status result) := by
  cases run with
  | some i => exact .modify fun _ h => h
  | none => exact .pure _

theorem recordOutcome_plan (h : workflowExecutor w.cr.changeType = .planSteps)
    (hdc : w.cr.changeType ≠ .adDcParallelUpgrade) (run : Option Nat) (plan : Option ChangePlan)
    (steps : List PlanStep) (result : Json) :
    recordOutcome env run plan steps w.cr.changeType result =
      recordPlan env run plan steps result := by
  cases hct : w.cr.changeType <;>
    simp_all [workflowExecutor,isFanOutChangeType,recordOutcome]

theorem verifyChange_status (run : Option Nat) (plan : Option ChangePlan) (steps : List PlanStep)
    (result : Json) : (verifyChange env run plan steps result v).2.cr.status = .completed := by
  have hpass : (runVerificationChecks
      ((plan.map ChangePlan.verificationChecks).getD [])).allPassed = true := rfl
  rw [verifyChange,updateChangeRequestStatus,Py.modify_bind,if_pos hpass,
    updateChangeRequestStatus,Py.modify_bind]
  have hk : Py.Keeps (fun u : World ω => u.cr.status = .completed) (do
      updateExecutionRunStatus run .completed
        [("execution",result),("verification",(runVerificationChecks
          ((plan.map ChangePlan.verificationChecks).getD [])).toJson
            ((plan.map ChangePlan.successCriteria).getD ""))]
      let w ← Py.get
      onOutside (env.postCompletionDiscovery w.cr)) :=
    .bind (updateExecutionRunStatus_keeps (fun cr => cr.status = .completed) _ _ _) fun _ =>
      .bind .get fun _ => onSite_frame (fun _ _ h => h) _
  exact hk _ (by simp)

/-- Only a failure flag of the first step fails the change. -/
theorem recordPlan_status (run : Option Nat) (plan : Option ChangePlan) (steps : List PlanStep) :
    (recordPlan env run plan steps (stepRecords rs) v).2.cr.status =
      if firstReportsFailed rs then .failed
      else if hookRaises env v rs v.site then v.cr.status
      else .completed := by
  obtain ⟨checked,hchecked,hfailed⟩ := executorResult_records rs
  rw [recordPlan,hchecked,Py.ofExcept_ok_bind,hfailed]
  cases hf : firstReportsFailed rs with
  | true =>
    have hk : Py.Keeps (fun u : World ω => u.cr.status = .failed)
        (updateExecutionRunStatus run .failed
          [("execution",stepRecords rs),("soft_failure",.bool true)]) :=
      updateExecutionRunStatus_keeps (fun cr => cr.status = .failed) _ _ _
    exact hk (v.markStatus .failed) (by simp)
  | false =>
    rw [if_neg Bool.false_ne_true,if_neg Bool.false_ne_true,Py.get_bind]
    cases hhook : hasPostHook v.cr.changeType with
    | false =>
      have hquiet : ¬hookRaises env v rs v.site = true := by simp [hookRaises,hhook]
      rw [if_neg Bool.false_ne_true,if_neg hquiet]
      exact verifyChange_status run plan steps (stepRecords rs)
    | true =>
      rw [if_pos rfl,Py.bind_run,onOutside,onSite,Py.zoom_run,outside,Py.zoom_run]
      rcases hout : env.postHook v.cr.changeType v.cr.targetAssetIds (stepRecords rs)
        v.site.outside with ⟨outcome,o⟩
      cases outcome with
      | error e => simp [hookRaises,hhook,hout,Except.isOk,Except.toBool]
      | ok u =>
        have hquiet : ¬hookRaises env v rs v.site = true := by
          simp [hookRaises,hhook,hout,Except.isOk,Except.toBool]
        rw [if_neg hquiet]
        exact verifyChange_status run plan steps (stepRecords rs)

theorem firstReportsFailed_concat {before : List StepRecord} {r : StepRecord}
    (h : ∀ b ∈ before, signalsFailure b.result = false) :
    firstReportsFailed (before ++ [r]) = true ↔ before = [] ∧ reportsFailed r.result = true := by
  cases before with
  | nil => simp [firstReportsFailed]
  | cons b before =>
    have hb := h b List.mem_cons_self
    have hno : reportsFailed b.result = false := by
      cases hf : reportsFailed b.result with
      | false => rfl
      | true => exact absurd (reportsFailed_signals hf) (by simp [hb])
    simp [firstReportsFailed,hno]

theorem workflow_status (h : StepsReturn env w rs site) :
    (executeChangeWorkflow env w).2.cr.status =
      if w.cr.changeType = .adDcParallelUpgrade then .completed
      else if firstReportsFailed rs then .failed
      else if hookRaises env w rs site then .executing
      else .completed := by
  rw [executeChangeWorkflow_eq h.riskLevel,activityExecuteChange_returns h,
    markStatus_of_ne (by decide)]
  by_cases hdc : w.cr.changeType = .adDcParallelUpgrade
  · rw [if_pos hdc,World.recordExecution,hdc]
    have hk : Py.Keeps (fun u : World ω => u.cr.status = .completed)
        (updateExecutionRunStatus (latestRun (fun _ => true) w.runs) .completed
          (inExecution (stepRecords rs))) :=
      updateExecutionRunStatus_keeps (fun cr => cr.status = .completed) _ _ _
    exact hk (World.markStatus _ .completed) (by simp)
  · rw [if_neg hdc,World.recordExecution,recordOutcome_plan h.executor hdc,recordPlan_status]
    rfl

/-- Up to the status, a run stops at its failures when at most its last step fails. -/
theorem failuresStop_iff {status : ChangeRequestStatus} :
    FailuresStop rs status ↔ (∀ r ∈ rs, signalsFailure r.result = false) ∨
      ∃ before r, rs = before ++ [r] ∧ (∀ b ∈ before, signalsFailure b.result = false) ∧
        status ≠ .completed := by
  constructor
  · intro h
    by_cases hall : ∀ r ∈ rs, signalsFailure r.result = false
    · exact Or.inl hall
    · simp only [not_forall,Bool.not_eq_false] at hall
      obtain ⟨r,hr,hfail⟩ := hall
      obtain ⟨before,after,rfl⟩ := List.append_of_mem hr
      obtain ⟨rfl,hstatus⟩ := h before r after rfl hfail
      refine Or.inr ⟨before,r,rfl,fun b hb => ?_,hstatus⟩
      -- A failing step before the last one would have a step after it.
      cases hfailed : signalsFailure b.result with
      | false => rfl
      | true =>
        obtain ⟨early,late,rfl⟩ := List.append_of_mem hb
        have hnil := (h early b (late ++ [r]) (by simp) hfailed).1
        simp at hnil
  · rintro (hall | ⟨last,x,rfl,hlast,hstatus⟩) before r after hrs hfail
    · have hno := hall r (by simp [hrs])
      rw [hfail] at hno
      cases hno
    · refine ⟨?_,hstatus⟩
      rcases List.eq_nil_or_concat after with hnil | ⟨late,y,rfl⟩
      · exact hnil
      · have hcut : last ++ [x] = (before ++ r :: late) ++ [y] := by simpa using hrs
        obtain ⟨rfl,_⟩ := List.append_inj' hcut rfl
        have hno := hlast r (by simp)
        rw [hfail] at hno
        cases hno

end Records

/-- Reported failures stop a plan and its completion exactly when the workflow sees them. -/
theorem failures_stop_iff {env : Env ω} {w : World ω} {rs : List StepRecord} {site : Site ω}
    (h : StepsReturn env w rs site) :
    FailuresStop rs (executeChangeWorkflow env w).2.cr.status ↔ FailuresSeen env w rs site := by
  rw [failuresStop_iff,workflow_status h,FailuresSeen]
  refine or_congr_right ?_
  constructor
  · rintro ⟨before,r,rfl,hbefore,hstatus⟩
    by_cases hdc : w.cr.changeType = .adDcParallelUpgrade
    · exact absurd (if_pos hdc) hstatus
    · refine ⟨before,r,rfl,hbefore,hdc,?_⟩
      rw [← firstReportsFailed_concat hbefore]
      cases hf : firstReportsFailed (before ++ [r]) with
      | true => exact Or.inl rfl
      | false =>
        cases hr : hookRaises env w (before ++ [r]) site with
        | true => exact Or.inr rfl
        | false => simp [hdc,hf,hr] at hstatus
  · rintro ⟨before,r,rfl,hbefore,hdc,hseen⟩
    refine ⟨before,r,rfl,hbefore,?_⟩
    rw [← firstReportsFailed_concat hbefore] at hseen
    rcases hseen with hf | hr
    · simp [hdc,hf]
    · cases hf : firstReportsFailed (before ++ [r]) <;> simp [hdc,hr]

/-- Modules whose actions report what their name says. -/
def reportingModules : Env Unit := Env.ofModules fun _ action => .ok
  ⟨fun _ _ _ => pure (.obj [("status",.str action)]),none⟩

def sampleUpgrades (actions : List String) : World Unit :=
  sampleApproved (.generic "catalog_action")
    (some ⟨actions.zipIdx.map fun a => ⟨a.2 + 1,none,some a.1,some "nexplane_agent",none,none,none,
      none,none⟩,[],[],""⟩) []

def sampleReport (number : Int) (action : String) : StepRecord :=
  ⟨number,none,action,"nexplane_agent",none,.obj [("status",.str action)]⟩

/-- The site after both steps of a plan have been executed. -/
def sampleUpgradedSite (actions : List String) : Site Unit :=
  (runSteps reportingModules (sampleUpgrades actions).cr (sampleUpgrades actions).connectors []
    (sampleUpgrades actions).cr.steps (sampleUpgrades actions).site).2

theorem sample_failures_stop :
    FailuresStop [sampleReport 1 "upgraded",sampleReport 2 "restarted"]
        (executeChangeWorkflow reportingModules
          (sampleUpgrades ["upgraded","restarted"])).2.cr.status ↔
      FailuresSeen reportingModules (sampleUpgrades ["upgraded","restarted"])
        [sampleReport 1 "upgraded",sampleReport 2 "restarted"]
        (sampleUpgradedSite ["upgraded","restarted"]) :=
  failures_stop_iff ⟨rfl,rfl,rfl⟩

/-- After a failed upgrade the next step is executed, and the change is completed. -/
theorem failed_upgrade_completes :
    (∃ site, StepsReturn reportingModules (sampleUpgrades ["upgrade_failed","restarted"])
      [sampleReport 1 "upgrade_failed",sampleReport 2 "restarted"] site) ∧
      (executeChangeWorkflow reportingModules
        (sampleUpgrades ["upgrade_failed","restarted"])).2.cr.status = .completed ∧
      ¬FailuresStop [sampleReport 1 "upgrade_failed",sampleReport 2 "restarted"]
        (executeChangeWorkflow reportingModules
          (sampleUpgrades ["upgrade_failed","restarted"])).2.cr.status := by
  refine ⟨⟨_,rfl,rfl,rfl⟩,rfl,fun h => ?_⟩
  have hnil := (h [] (sampleReport 1 "upgrade_failed") [sampleReport 2 "restarted"] rfl rfl).1
  cases hnil

end Nexplane
