import Nexplane.ExecutorRollback
import Nexplane.Lib.Orm
import Nexplane.Lib.Saga
import Nexplane.SoftFailure

set_option autoImplicit false

/-! Plans whose steps have run: what the workflow keeps of the steps, and how a rollback that ends
in rolled back has gone over them. -/

namespace Nexplane
open PyValue Saga

variable {ω : Type}

/-- A completed step: the connector that it ran with, its record, and what it left outside. -/
structure StepDone (ω : Type) where
  step : PlanStep
  used : Option Uuid
  record : StepRecord
  left : ω

/-- The step has run in the state `s`, and `s'` is the state after it. -/
structure StepDone.Runs (env : Env ω) (cr : ChangeRequest) (connectors : List Connector)
    (carried : Dict) (d : StepDone ω) (s s' : Site ω) : Prop where
  connector : ∃ c, stepConnector env cr connectors s.assetConnectors d.step = .ok c ∧
    c.map Connector.id = d.used
  ran : runStep env cr connectors carried d.step s = (.ok d.record,s')
  left : s'.outside = d.left

/-- The loop over the steps has come to its end, or was left early, after the steps of `ds`. -/
inductive StepsRan (env : Env ω) (cr : ChangeRequest) (connectors : List Connector) :
    Dict → List PlanStep → Site ω → List (StepDone ω) → Site ω → Prop
  | done (carried : Dict) (s : Site ω) : StepsRan env cr connectors carried [] s [] s
  | raised {carried : Dict} {step : PlanStep} {steps : List PlanStep} {s s' : Site ω} {e : Exc}
      (h : runStep env cr connectors carried step s = (.error e,s')) :
      StepsRan env cr connectors carried (step :: steps) s [] s'
  | stopped {carried : Dict} {d : StepDone ω} {steps : List PlanStep} {s s' : Site ω}
      (h : d.Runs env cr connectors carried s s') (hstop : stopsLoop d.record = true) :
      StepsRan env cr connectors carried (d.step :: steps) s [d] s'
  | completed {carried : Dict} {d : StepDone ω} {steps : List PlanStep} {s t s' : Site ω}
      {ds : List (StepDone ω)} (h : d.Runs env cr connectors carried s t)
      (hgo : stopsLoop d.record = false)
      (hrest : StepsRan env cr connectors (carry carried d.record.result) steps t ds s') :
      StepsRan env cr connectors carried (d.step :: steps) s (d :: ds) s'

/-- The step has run, with whatever was carried into it. -/
def ActsStep (env : Env ω) (cr : ChangeRequest) (connectors : List Connector) (d : StepDone ω)
    (s s' : Site ω) : Prop := ∃ carried, d.Runs env cr connectors carried s s'

/-- The workflow of a change has ended after the steps of `ds`, and `site` is what these left. Its
run is the newest one, no run of a rollback, and no run of the change has completed before. -/
structure ExecutedChange (env : Env ω) (w w₁ : World ω) (ds : List (StepDone ω)) (site : Site ω) :
    Prop where
  executor : workflowExecutor w.cr.changeType = .planSteps
  run : ∃ earlier r, w.runs = earlier ++ [r] ∧ hasText "rollback" r.workflowId = false
  first : ∀ r ∈ w.runs, r.status ≠ .completed
  ran : StepsRan env (w.markStatus .executing).cr w.connectors [] w.cr.steps w.site ds site
  recorded : executeChangeWorkflow env w = (.ok (),w₁)

/-- The answer of an undo has no error, which is all that the rollback asks for. -/
def NoError (answer : Json) : Prop := answer.contains "error" = .ok false

section Steps

variable {env : Env ω} {cr : ChangeRequest} {connectors : List Connector} {carried : Dict}
  {step : PlanStep} {steps : List PlanStep} {s s' : Site ω} {r : StepRecord}
  {d : StepDone ω} {ds : List (StepDone ω)}

theorem StepsRan.returns (h : StepsRan env cr connectors carried steps s ds s')
    (hc : ds.map StepDone.step = steps) :
    runSteps env cr connectors carried steps s = (.ok (ds.map StepDone.record),s') := by
  induction h with
  | done carried s => rfl
  | raised h => simp at hc
  | @stopped carried d steps s s' h hstop =>
    obtain rfl : [] = steps := by simpa using hc
    rw [runSteps,Py.bind_ok h.ran,if_pos hstop]
    rfl
  | @completed carried d steps s t s' ds h hgo hrest ih =>
    have hrun := ih (by simpa using hc)
    rw [runSteps,Py.bind_ok h.ran,if_neg (by simp [hgo]),Py.bind_ok hrun]
    rfl

theorem StepsRan.chain (h : StepsRan env cr connectors carried steps s ds s')
    (hc : ds.map StepDone.step = steps) :
    Chain (ActsStep env cr connectors) ds s s' := by
  induction h with
  | done carried s => exact .nil s
  | raised h => simp at hc
  | stopped h hstop => exact .cons ⟨_,h⟩ (.nil _)
  | completed h hgo hrest ih => exact .cons ⟨_,h⟩ (ih (by simpa using hc))

/-- A step that has run is one run of its executor module, with the connector of the step. -/
theorem runStep_returns (h : runStep env cr connectors carried step s = (.ok r,s')) :
    ∃ c module attached parameters raw,
      stepConnector env cr connectors s.assetConnectors step = .ok c ∧
      env.getExecutor (actualType (step.connectorType.getD "") c) (step.actionId.getD "") =
        .ok module ∧
      attached.map Connector.id = c.map Connector.id ∧
      module.execute parameters cr.targetAssetIds attached s.outside = (.ok raw,s'.outside) ∧
      RecordedAs raw r.result ∧ r.stepNumber = step.stepNumber ∧
      r.actionId = step.actionId.getD "" ∧
      r.connectorType = actualType (step.connectorType.getD "") c := by
  rw [runStep,Py.get_bind] at h
  obtain ⟨c,hc,h⟩ := Py.ofExcept_bind_eq_ok.mp h
  obtain ⟨result,t,hexec,h⟩ := Py.bind_eq_ok.mp h
  rw [Py.modify_bind] at h
  obtain ⟨hr,rfl⟩ := Prod.mk.inj h
  obtain rfl := Except.ok.inj hr
  obtain ⟨module,attached,raw,hmodule,hid,hraw,hrecorded⟩ := executeAction_returns hexec
  refine ⟨c,module,attached,_,raw,hc,hmodule,?_,hraw,hrecorded,rfl,rfl,rfl⟩
  rw [hid]
  cases c <;> rfl

theorem chain_numbers {cr : ChangeRequest} {connectors : List Connector} {s s' : Site ω}
    (h : Chain (ActsStep env cr connectors) ds s s') :
    ∀ d ∈ ds, d.record.stepNumber = d.step.stepNumber := by
  induction h with
  | nil s => simp
  | cons hrun _ ih =>
    obtain ⟨carried,hrun⟩ := hrun
    obtain ⟨_,_,_,_,_,_,_,_,_,_,hnumber,_,_⟩ := runStep_returns hrun.ran
    simpa [hnumber] using ih

end Steps

section Stored

variable {env : Env ω} {w w₁ w₂ v v' : World ω} {rs : List StepRecord} {site : Site ω} {i : Nat}
  {plan : Option ChangePlan} {steps : List PlanStep} {ds : List (StepDone ω)}

/-- Unless the workflow is left by an exception, the run keeps the result of the steps. -/
theorem recordPlan_run
    (h : recordPlan env (some i) plan steps (stepRecords rs) v = (.ok (),v')) :
    ∃ status rest, v'.runs = v.runs.modify i fun r =>
      { r with status := status, result := ("execution",stepRecords rs) :: rest } := by
  obtain ⟨checked,hchecked,_⟩ := executorResult_records rs
  have hverify : ∀ u : World ω, u.runs = v.runs →
      verifyChange env (some i) plan steps (stepRecords rs) u = (.ok (),v') →
        ∃ status rest, v'.runs = v.runs.modify i fun r =>
          { r with status := status, result := ("execution",stepRecords rs) :: rest } := by
    intro u hruns hu
    obtain ⟨verification,hverified⟩ := verifyChange_run env u i plan steps (stepRecords rs)
    rw [hu,hruns] at hverified
    exact ⟨_,_,hverified⟩
  rw [recordPlan,hchecked,Py.ofExcept_ok_bind] at h
  split at h
  · rw [updateChangeRequestStatus,Py.modify_bind,updateExecutionRunStatus] at h
    obtain ⟨_,rfl⟩ := Prod.mk.inj h
    refine ⟨.failed,[("soft_failure",.bool true)],?_⟩
    simp only [World.setRun,World.markStatus_runs]
  · rw [Py.get_bind] at h
    split at h
    · obtain ⟨_,u,hhook,h⟩ := Py.bind_eq_ok.mp h
      obtain ⟨_,rfl⟩ := Prod.mk.inj hhook
      refine hverify _ ?_ h
      rfl
    · exact hverify v rfl h

theorem StepsReturn.run {earlier : List ExecutionRun} {r : ExecutionRun}
    (h : StepsReturn env w rs site) (hruns : w.runs = earlier ++ [r])
    (hok : executeChangeWorkflow env w = (.ok (),w₁)) :
    ∃ status rest, w₁.runs = earlier ++
      [⟨r.workflowId,status,("execution",stepRecords rs) :: rest⟩] := by
  have hlast : latestRun (fun _ => true) w.runs = some earlier.length := by
    rw [hruns]
    exact latestRun_concat rfl
  have hkept : (w.markStatus .executing).runs = earlier ++ [r] := by
    rw [World.markStatus_runs,hruns]
  rw [executeChangeWorkflow_eq h.riskLevel,activityExecuteChange_returns h,
    World.recordExecution,hlast] at hok
  by_cases hdc : w.cr.changeType = .adDcParallelUpgrade
  · rw [hdc] at hok
    obtain rfl : World.completedWith _ earlier.length (stepRecords rs) = w₁ :=
      congrArg Prod.snd hok
    refine ⟨.completed,[],?_⟩
    rw [World.completedWith_runs]
    simp only [hkept,modify_concat,inExecution]
  · rw [recordOutcome_plan h.executor hdc] at hok
    obtain ⟨status,rest,hw₁⟩ := recordPlan_run hok
    refine ⟨status,rest,?_⟩
    rw [hw₁]
    simp only [hkept,modify_concat]

theorem stepResultByNumber_stored (hne : rs ≠ []) (rest : Dict) :
    stepResultByNumber (.obj (("execution",stepRecords rs) :: rest)) =
      .ok (rs.map fun r => (.int r.stepNumber,r.result)) := by
  have hstored : storedSteps (.obj (("execution",stepRecords rs) :: rest)) =
      .ok (rs.map StepRecord.toJson) := by
    cases rs with
    | nil => exact absurd rfl hne
    | cons r rs => rfl
  rw [stepResultByNumber,hstored,Checks.ok_bind,List.mapM_map]
  exact List.mapM_pure

/-- Under numbers of their own, each step is given its own result. -/
theorem priorResult_own {r : StepRecord} (hnodup : (rs.map StepRecord.stepNumber).Nodup)
    (hr : r ∈ rs) :
    priorResult (rs.map fun r => (.int r.stepNumber,r.result)) r.stepNumber = r.result := by
  rw [priorResult,← List.map_reverse,List.find?_map]
  have hfound : rs.reverse.find? (fun q => Json.eq (.int q.stepNumber) (.int r.stepNumber)) =
      some r := by
    have hkeys : (rs.reverse.map StepRecord.stepNumber).Nodup := by
      rw [List.map_reverse]
      exact List.nodup_reverse.mpr hnodup
    have hquery : ∀ q : StepRecord, Json.eq (.int q.stepNumber) (.int r.stepNumber) = true →
        q.stepNumber = r.stepNumber := fun q hq => by simpa [Json.eq] using hq
    rw [Orm.find?_eq_some hkeys hquery]
    exact ⟨List.mem_reverse.mpr hr,by simp [Json.eq]⟩
  simp [Function.comp_def,hfound]

theorem ExecutedChange.stored (h : ExecutedChange env w w₁ ds site) (hne : w.cr.steps ≠ [])
    (hc : ds.map StepDone.step = w.cr.steps) (hl : AwaitsRollback w w₁ w₂) :
    stepResultByNumber w₂.storedResult =
      .ok ((ds.map StepDone.record).map fun r => (.int r.stepNumber,r.result)) := by
  obtain ⟨earlier,r,hruns,hid⟩ := h.run
  obtain ⟨later,hw₂,hlater⟩ := hl.runs
  have hrisk : w.cr.riskLevel.isSome := by
    cases hr : w.cr.riskLevel with
    | some risk => rfl
    | none =>
      have hrecorded := h.recorded
      simp [executeChangeWorkflow,hr] at hrecorded
  have hreturn : StepsReturn env w (ds.map StepDone.record) site :=
    ⟨h.executor,hrisk,h.ran.returns hc⟩
  obtain ⟨status,rest,hw₁⟩ := hreturn.run hruns h.recorded
  have hearlier : ∀ s ∈ earlier, s.status ≠ .completed := fun s hs =>
    h.first s (by simp [hruns,hs])
  rw [hw₁] at hw₂
  have hresult : w₂.storedResult =
      .obj (("execution",stepRecords (ds.map StepDone.record)) :: rest) :=
    congrArg Json.obj (runResult_executed hw₂ hearlier hid hlater)
  rw [hresult]
  refine stepResultByNumber_stored (fun hnil => hne ?_) rest
  rw [← hc,List.map_eq_nil_iff.mp hnil]
  rfl

end Stored

section Outcome

variable {env : Env ω} {w w' : World ω} {records : List UndoRecord}

theorem normalizeSteps_entries (successes : List Bool) :
    normalizeSteps (successes.map successEntry) = .ok (successes.map successEntry) := by
  cases successes <;> rfl

theorem undoOutcome_entry {r : UndoRecord} {entry : Json}
    (h : undoOutcome r.toJson = .ok entry) :
    ∃ failed, r.result.contains "error" = .ok failed ∧ entry = successEntry !failed := by
  obtain ⟨result,hresult,h⟩ := Checks.bind_eq_ok.mp h
  obtain rfl := Except.ok.inj hresult
  obtain ⟨failed,hfailed,h⟩ := Checks.bind_eq_ok.mp h
  exact ⟨failed,hfailed,(Except.ok.inj h).symm⟩

theorem undoOutcomes_entries {entries : List Json}
    (h : (records.map UndoRecord.toJson).mapM undoOutcome = .ok entries) :
    ∃ successes : List Bool, entries = successes.map successEntry ∧
      successes.length = records.length ∧
      ∀ r ∈ records, ∃ success ∈ successes, r.result.contains "error" = .ok !success := by
  rw [List.mapM_map] at h
  have hall := Checks.mapM_forall₂ h
  clear h
  induction hall with
  | nil => exact ⟨[],rfl,rfl,by simp⟩
  | cons hentry _ ih =>
    obtain ⟨successes,rfl,hlength,hrest⟩ := ih
    obtain ⟨failed,hfailed,rfl⟩ := undoOutcome_entry hentry
    refine ⟨(!failed) :: successes,rfl,by simp [hlength],fun r hr => ?_⟩
    rcases List.mem_cons.mp hr with rfl | hr
    · exact ⟨!failed,List.mem_cons_self,by simpa using hfailed⟩
    · obtain ⟨success,hmem,hsuccess⟩ := hrest r hr
      exact ⟨success,List.mem_cons_of_mem _ hmem,hsuccess⟩

theorem determineRollbackStatus_rolledBack {successes : List Bool} {ran : Bool}
    (h : determineRollbackStatus successes ran = .rolledBack) : ∀ b ∈ successes, b = true := by
  unfold determineRollbackStatus at h
  split at h
  · cases h
  · split at h
    · rename_i hall
      simpa using hall
    · split at h <;> cases h

theorem readSuccesses (successes : List Bool) :
    ((successes.map successEntry).mapM fun s => do
      let success ← s.get "success" (.bool false)
      pure success.truthy) = Except.ok (ε := Exc) successes := by
  rw [List.mapM_map]
  refine List.mapM_pure.trans (congrArg Except.ok ?_)
  exact List.map_id' _

/-- The conversion of `execute_cr_rollback`, where an undo was planned. -/
theorem rollbackOutcome_records (hne : records ≠ []) :
    rollbackOutcome (undoRecords records) = (do
      let entries ← (records.map UndoRecord.toJson).mapM undoOutcome
      let successes ← entries.mapM fun s => do
        let success ← s.get "success" (.bool false)
        pure success.truthy
      pure (determineRollbackStatus successes true)) := by
  cases hrecords : records with
  | nil => exact absurd hrecords hne
  | cons first rest =>
    have hreported : reportedSteps [("rollback_steps",.arr (records.map UndoRecord.toJson))] =
        (records.map UndoRecord.toJson).mapM undoOutcome := by
      rw [hrecords]
      rfl
    rw [← hrecords,undoRecords,rollbackOutcome,hreported]
    cases hentries : (records.map UndoRecord.toJson).mapM undoOutcome with
    | error e => rfl
    | ok entries =>
      obtain ⟨successes,rfl,hlength,_⟩ := undoOutcomes_entries hentries
      rw [Checks.ok_bind,Checks.ok_bind,normalizeSteps_entries,Checks.ok_bind]
      cases successes with
      | nil => simp [hrecords] at hlength
      | cons success successes => rfl

/-- In a change that is rolled back no undo has reported an error. -/
theorem rollbackOutcome_rolledBack (h : rollbackOutcome (undoRecords records) = .ok .rolledBack) :
    ∀ r ∈ records, NoError r.result := by
  intro r hr
  rw [rollbackOutcome_records (List.ne_nil_of_mem hr)] at h
  obtain ⟨entries,hentries,h⟩ := Checks.bind_eq_ok.mp h
  obtain ⟨successes,rfl,_,hall⟩ := undoOutcomes_entries hentries
  rw [readSuccesses] at h
  have hstatus : determineRollbackStatus successes true = .rolledBack := Except.ok.inj h
  obtain ⟨success,hmem,hsuccess⟩ := hall r hr
  rwa [determineRollbackStatus_rolledBack hstatus success hmem] at hsuccess

/-- A rollback that ends in rolled back has undone the steps of the plan without an error. -/
theorem executeCrRollback_undoes {results : List (Json × Json)} {result : Json}
    (hexec : workflowExecutor w.cr.changeType = .planSteps)
    (hdeclares : w.cr.steps.any declaresRollback = true)
    (hresults : stepResultByNumber w.storedResult = .ok results)
    (h : executeCrRollback env [] w = (.ok result,w')) (hst : w'.cr.status = .rolledBack) :
    ∃ records t, Py.each (undoStep env w.cr w.connectors results) (plannedUndos w.cr.steps)
        w.site = (.ok records,t) ∧ w'.site.outside = t.outside ∧
      ∀ r ∈ records, NoError r.result := by
  obtain ⟨answer,v,hundo,hstatus,rfl⟩ := executeCrRollback_rolledBack hexec h hst
  rw [undoPlan,Py.get_bind,if_pos hdeclares,activityExecuteRollback_planSteps hexec,hresults,
    Py.ofExcept_ok_bind] at hundo
  obtain ⟨records,u,hrecords,hundo⟩ := Py.bind_eq_ok.mp hundo
  obtain ⟨hanswer,rfl⟩ := Prod.mk.inj hundo
  obtain rfl := Except.ok.inj hanswer
  obtain ⟨hloop,rfl⟩ := Prod.mk.inj hrecords
  exact ⟨records,_,Prod.ext hloop rfl,rfl,rollbackOutcome_rolledBack hstatus⟩

end Outcome

end Nexplane
