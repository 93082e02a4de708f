import Nexplane.CompletedPlans
import Nexplane.FanOutRollback
import Nexplane.ImageTransfer

set_option autoImplicit false

/-! The terminal status of a rollback on its two paths: the automatic rollback of the workflow and
`execute_cr_rollback`. -/

namespace Nexplane
open PyValue

variable {ω : Type}

/-- The result of an undo carries an error. -/
def carriesError : Json → Bool
  | .obj d => (Dict.get? d "error").isSome
  | _ => false

/-- The result of an undo says that it failed: by an error, by `rolled_back`, by its status or by
`success`. -/
def undoFails : Json → Bool
  | .obj d =>
    (Dict.get? d "error").isSome || (Dict.getD d "rolled_back" .null matches .bool false) ||
      (Dict.getD d "status" .null).isStr "error" ||
      (Dict.getD d "success" .null matches .bool false)
  | _ => false

/-- The status that results amount to, of which some are taken for failures. -/
def statusBy (fails : Json → Bool) (results : List Json) : ChangeRequestStatus :=
  if results.all fun r => !fails r then .rolledBack
  else if results.any fun r => !fails r then .rollbackPartial
  else .rollbackFailed

/-- What the results of the undos amount to. -/
def truthfulStatus (results : List Json) : ChangeRequestStatus := statusBy undoFails results

/-- Every failed undo carries an error; or one does and another one succeeded. -/
def FailuresCarried (results : List Json) : Prop :=
  (∀ r ∈ results, undoFails r = true → carriesError r = true) ∨
    (∃ r ∈ results, carriesError r = true) ∧ ∃ r ∈ results, undoFails r = false

/-- The undo steps of the plan have been gone through, and each one has answered a dictionary; for
one that raised, the rollback has put a dictionary itself. -/
structure UndoneSteps (env : Env ω) (w : World ω) (executionResult : Json)
    (records : List UndoRecord) : Prop where
  executor : workflowExecutor w.cr.changeType = .planSteps
  undone : ∃ results site, stepResultByNumber executionResult = .ok results ∧
    undoSteps env w.cr w.connectors results w.cr.steps w.site = (.ok records,site)
  dicts : ∀ r ∈ records, r.result.isDict = true

/-- The automatic rollback leaves the change in the status that its undos amount to. -/
def AutomaticTruthful (env : Env ω) (run : Option Nat) (w : World ω) (executionResult : Json)
    (records : List UndoRecord) : Prop :=
  (rollBackFailed env run w.cr.steps executionResult w).2.cr.status =
    truthfulStatus (records.map UndoRecord.result)

/-- So does `execute_cr_rollback`. -/
def ExecutorTruthful (env : Env ω) (extra : Dict) (w : World ω) (records : List UndoRecord) :
    Prop :=
  (executeCrRollback env extra w).2.cr.status = truthfulStatus (records.map UndoRecord.result)

/-- The execution result that `execute_cr_rollback` works on. -/
def World.mergedResult (w : World ω) (extra : Dict) : Json :=
  .obj (Dict.merge (w.runResult (loadedRun w.runs)) extra)

section Conversion

variable {records : List UndoRecord} {successes : List Bool}

/-- The conversion of the workflow, where an undo was planned. -/
theorem automaticRollbackStatus_records (hne : records ≠ []) :
    automaticRollbackStatus (undoRecords records) = (do
      let entries ← (records.map UndoRecord.toJson).mapM undoOutcome
      let successes ← entries.mapM fun s => do
        let success ← s.get "success" (.bool false)
        pure success.truthy
      pure (determineRollbackStatus successes true)) := by
  cases records with
  | nil => exact absurd rfl hne
  | cons r records => rfl

theorem undoOutcomes_dicts (hdicts : ∀ r ∈ records, r.result.isDict = true) :
    (records.map UndoRecord.toJson).mapM undoOutcome =
      .ok ((records.map fun r => !carriesError r.result).map successEntry) := by
  induction records with
  | nil => rfl
  | cons r records ih =>
    have hfirst : undoOutcome r.toJson = .ok (successEntry !carriesError r.result) := by
      have hdict := hdicts r List.mem_cons_self
      obtain ⟨number,action,result⟩ := r
      cases result with
      | obj d => rfl
      | _ => cases hdict
    rw [List.map_cons,List.mapM_cons,hfirst,ih fun r hr => hdicts r (List.mem_cons_of_mem _ hr)]
    rfl

theorem determine_statusBy {fails : Json → Bool} {results : List Json} (hne : results ≠ []) :
    determineRollbackStatus (results.map fun r => !fails r) true = statusBy fails results := by
  simp [determineRollbackStatus,statusBy,hne]

theorem automaticRollbackStatus_dicts (hne : records ≠ [])
    (hdicts : ∀ r ∈ records, r.result.isDict = true) :
    automaticRollbackStatus (undoRecords records) =
      .ok (statusBy carriesError (records.map UndoRecord.result)) := by
  rw [automaticRollbackStatus_records hne,undoOutcomes_dicts hdicts,Checks.ok_bind,readSuccesses,
    Checks.ok_bind,← determine_statusBy (by simpa using hne),List.map_map]
  rfl

theorem rollbackOutcome_dicts (hdicts : ∀ r ∈ records, r.result.isDict = true) :
    rollbackOutcome (undoRecords records) =
      .ok (statusBy carriesError (records.map UndoRecord.result)) := by
  by_cases hne : records = []
  · rw [hne]
    rfl
  · rw [rollbackOutcome_records hne,undoOutcomes_dicts hdicts,Checks.ok_bind,readSuccesses,
      Checks.ok_bind,← determine_statusBy (by simpa using hne),List.map_map]
    rfl

end Conversion

section Statuses

variable {f g : Json → Bool} {results : List Json}

theorem statusBy_congr (h : ∀ r ∈ results, f r = g r) :
    statusBy f results = statusBy g results := by
  have hmap : results.map f = results.map g := List.map_congr_left h
  have hread : ∀ f : Json → Bool, statusBy f results =
      if (results.map f).all (!·) then .rolledBack
      else if (results.map f).any (!·) then .rollbackPartial
      else .rollbackFailed := by
    intro f
    rw [List.all_map,List.any_map]
    rfl
  rw [hread f,hread g,hmap]

theorem statusBy_rolledBack : statusBy f results = .rolledBack ↔ ∀ r ∈ results, f r = false := by
  unfold statusBy
  split
  · rename_i hall
    simpa using hall
  · rename_i hall
    have hsome : ¬∀ r ∈ results, f r = false := by simpa using hall
    split <;> simpa using hsome

theorem statusBy_mixed : statusBy f results = .rollbackPartial ↔
    (∃ r ∈ results, f r = true) ∧ ∃ r ∈ results, f r = false := by
  unfold statusBy
  split
  · rename_i hall
    have hnone : ∀ r ∈ results, f r = false := by simpa using hall
    simp only [reduceCtorEq,false_iff]
    rintro ⟨⟨r,hr,hf⟩,_⟩
    rw [hnone r hr] at hf
    cases hf
  · rename_i hall
    have hsome : ∃ r ∈ results, f r = true := by simpa using hall
    split
    · rename_i hany
      simpa [hsome] using hany
    · rename_i hany
      have hno : ¬∃ r ∈ results, f r = false := by simpa using hany
      simp [hno]

theorem carriesError_fails {r : Json} (h : carriesError r = true) : undoFails r = true := by
  cases r with
  | obj d =>
    have herror : (Dict.get? d "error").isSome = true := h
    simp [undoFails,herror]
  | _ => cases h

/-- Going by errors alone is right exactly when no failure goes without one, or the rollback is a
partial one either way. -/
theorem statusBy_truthful_iff :
    statusBy carriesError results = truthfulStatus results ↔ FailuresCarried results := by
  constructor
  · intro heq
    by_cases hcarried : ∀ r ∈ results, undoFails r = true → carriesError r = true
    · exact Or.inl hcarried
    obtain ⟨silent,hmem,hfails,hsilent⟩ : ∃ r ∈ results, undoFails r = true ∧
        carriesError r = false := by simpa using hcarried
    have hnot : truthfulStatus results ≠ .rolledBack := fun h => by
      rw [statusBy_rolledBack.mp h silent hmem] at hfails
      cases hfails
    have hsome : ∃ r ∈ results, carriesError r = true := by
      by_contra hnone
      refine hnot (heq.symm.trans (statusBy_rolledBack.mpr fun r hr => ?_))
      cases hr' : carriesError r with
      | false => rfl
      | true => exact absurd ⟨r,hr,hr'⟩ hnone
    have hpartial := heq.symm.trans (statusBy_mixed.mpr ⟨hsome,silent,hmem,hsilent⟩)
    exact Or.inr ⟨hsome,(statusBy_mixed.mp hpartial).2⟩
  · rintro (hcarried | ⟨⟨r,hr,herror⟩,s,hs,hsuccess⟩)
    · refine statusBy_congr fun r hr => ?_
      cases hfails : undoFails r with
      | true => exact hcarried r hr hfails
      | false =>
        cases herror : carriesError r with
        | false => rfl
        | true =>
          rw [carriesError_fails herror] at hfails
          cases hfails
    · have hclean : carriesError s = false := by
        cases h : carriesError s with
        | false => rfl
        | true =>
          rw [carriesError_fails h] at hsuccess
          cases hsuccess
      rw [statusBy_mixed.mpr ⟨⟨r,hr,herror⟩,s,hs,hclean⟩,truthfulStatus,
        statusBy_mixed.mpr ⟨⟨r,hr,carriesError_fails herror⟩,s,hs,hsuccess⟩]

end Statuses

section Paths

variable {env : Env ω} {w : World ω} {executionResult : Json} {extra : Dict}
  {records : List UndoRecord}

theorem UndoneSteps.activity (h : UndoneSteps env w executionResult records) :
    ∃ site, activityExecuteRollback env w.cr.steps executionResult w =
      (.ok (undoRecords records),{ w with site := site }) := by
  obtain ⟨results,site,hresults,hundone⟩ := h.undone
  refine ⟨site,?_⟩
  rw [activityExecuteRollback_planSteps h.executor,hresults,Py.ofExcept_ok_bind,onSite,Py.bind_run,
    Py.zoom_run,hundone]
  rfl

/-- The workflow first marks its run. -/
theorem rollBackFailed_marked (env : Env ω) (w : World ω) (run : Option Nat)
    (steps : List PlanStep) (executionResult : Json) : ∃ runs,
    rollBackFailed env run steps executionResult w = (do
      let rollbackResult ← activityExecuteRollback env steps executionResult
      let status ← Py.ofExcept (automaticRollbackStatus rollbackResult)
      updateChangeRequestStatus status
      match run with
      | some _ => do
        let runStatus ← Py.ofExcept (ExecutionStatus.ofValue status.value)
        updateExecutionRunStatus run runStatus
          [("rollback",rollbackResult),("reason",.str "verification_failed")]
      | none => pure ()) { w with runs := runs } := by
  cases run with
  | none => exact ⟨w.runs,rfl⟩
  | some i => exact ⟨w.runs.modify i fun r => { r with status := .rollingBack, result := [] },rfl⟩

theorem rollBackFailed_status {run : Option Nat} {status : ChangeRequestStatus}
    (h : UndoneSteps env w executionResult records)
    (hstatus : automaticRollbackStatus (undoRecords records) = .ok status) :
    (rollBackFailed env run w.cr.steps executionResult w).2.cr.status = status := by
  obtain ⟨runs,hmarked⟩ := rollBackFailed_marked env w run w.cr.steps executionResult
  have hundone : UndoneSteps env { w with runs := runs } executionResult records :=
    ⟨h.executor,h.undone,h.dicts⟩
  obtain ⟨site,hactivity⟩ := hundone.activity
  rw [hmarked,Py.bind_ok hactivity,hstatus,Py.ofExcept_ok_bind,updateChangeRequestStatus,
    Py.modify_bind]
  cases run with
  | none => simp
  | some i =>
    cases hvalue : ExecutionStatus.ofValue status.value <;> simp [updateExecutionRunStatus]

theorem executeCrRollback_merged (h : workflowExecutor w.cr.changeType = .planSteps) :
    executeCrRollback env extra w = rollbackPlan env (w.mergedResult extra) w := by
  rw [executeCrRollback,Py.get_bind]
  cases hct : w.cr.changeType <;>
    simp_all [workflowExecutor,isFanOutChangeType,World.mergedResult]

theorem executeCrRollback_status {status : ChangeRequestStatus}
    (hdeclares : w.cr.steps.any declaresRollback = true)
    (h : UndoneSteps env w (w.mergedResult extra) records)
    (hstatus : rollbackOutcome (undoRecords records) = .ok status) :
    (executeCrRollback env extra w).2.cr.status = status := by
  obtain ⟨site,hactivity⟩ := h.activity
  have hundo : undoPlan env (w.mergedResult extra) w =
      (.ok (undoRecords records),{ w with site := site }) := by
    rw [undoPlan,Py.get_bind,if_pos hdeclares,hactivity]
  rw [executeCrRollback_merged h.executor,rollbackPlan,Py.bind_ok hundo,hstatus,
    Py.ofExcept_ok_bind]
  rfl

end Paths

/-- Each path leaves the change in the status that its undos amount to exactly when their failures
carry errors where it matters, and on the automatic path one is undone at all. -/
theorem rollback_status_truthful_iff (env : Env ω) (w : World ω) (run : Option Nat)
    (executionResult : Json) (extra : Dict) :
    (∀ records, UndoneSteps env w executionResult records →
      (AutomaticTruthful env run w executionResult records ↔
        records ≠ [] ∧ FailuresCarried (records.map UndoRecord.result))) ∧
    ∀ records, w.cr.steps.any declaresRollback = true →
      UndoneSteps env w (w.mergedResult extra) records →
        (ExecutorTruthful env extra w records ↔
          FailuresCarried (records.map UndoRecord.result)) := by
  constructor
  · intro records h
    by_cases hne : records = []
    · subst hne
      have hstatus : (rollBackFailed env run w.cr.steps executionResult w).2.cr.status =
          .rollbackFailed := rollBackFailed_status h rfl
      rw [AutomaticTruthful,hstatus]
      exact iff_of_false (by decide) (by simp)
    · rw [AutomaticTruthful,rollBackFailed_status h (automaticRollbackStatus_dicts hne h.dicts),
        statusBy_truthful_iff]
      simp [hne]
  · intro records hdeclares h
    rw [ExecutorTruthful,executeCrRollback_status hdeclares h (rollbackOutcome_dicts h.dicts),
      statusBy_truthful_iff]

/-- Every module answers its undo in one way. -/
def sampleUndos (answer : Py Unit Json) : Env Unit :=
  Env.ofModules fun _ _ => .ok ⟨fun _ _ _ => pure (.obj []),some fun _ _ _ => answer⟩

def sampleUndoStep : PlanStep where
  stepNumber := 1
  genericAction := none
  actionId := some "apply"
  connectorType := some "aws"
  connectorId := none
  parameters := none
  rollbackAction := some "undo"
  rollbackActionId := none
  rollbackConnectorType := some "aws"

def sampleUndoable : World Unit :=
  sampleApproved (.generic "patch") (some { generatedSteps := [sampleUndoStep] }) []

theorem sampleUndoable_undone {answer : Py Unit Json} {result : Json}
    (h : undoSteps (sampleUndos answer) sampleUndoable.cr sampleUndoable.connectors []
      [sampleUndoStep] sampleUndoable.site = (.ok [⟨1,"undo",result⟩],sampleUndoable.site.log
        (.undo sampleUndoStep (.obj []))))
    (hdict : result.isDict = true) :
    UndoneSteps (sampleUndos answer) sampleUndoable (.obj []) [⟨1,"undo",result⟩] :=
  ⟨rfl,⟨[],_,rfl,h⟩,by simpa using hdict⟩

/-- An undo that raises leaves the change in the status that it amounts to. -/
theorem sample_status_truthful :
    AutomaticTruthful (sampleUndos (Py.raise (.other "unreachable"))) (some 0) sampleUndoable
        (.obj []) [⟨1,"undo",undoFailure (.other "unreachable")⟩] ∧
      ExecutorTruthful (sampleUndos (Py.raise (.other "unreachable"))) [] sampleUndoable
        [⟨1,"undo",undoFailure (.other "unreachable")⟩] := by
  have hundone : UndoneSteps (sampleUndos (Py.raise (.other "unreachable"))) sampleUndoable
      (.obj []) [⟨1,"undo",undoFailure (.other "unreachable")⟩] :=
    sampleUndoable_undone rfl rfl
  have hcarried : FailuresCarried [undoFailure (.other "unreachable")] :=
    Or.inl fun r hr _ => by
      obtain rfl := List.mem_singleton.mp hr
      rfl
  obtain ⟨hautomatic,hexecutor⟩ := rollback_status_truthful_iff
    (sampleUndos (Py.raise (.other "unreachable"))) sampleUndoable (some 0) (.obj []) []
  exact ⟨(hautomatic _ hundone).mpr ⟨by simp,hcarried⟩,(hexecutor _ rfl hundone).mpr hcarried⟩

def sampleRefusal : Json :=
  .obj [("rolled_back",.bool false),("reason",.str "no previous image recorded")]

/-- The undo answers that nothing was rolled back, and the change ends rolled back. -/
theorem refused_undo_rolled_back :
    UndoneSteps (sampleUndos (pure sampleRefusal)) sampleUndoable (.obj [])
        [⟨1,"undo",sampleRefusal⟩] ∧
      (executeCrRollback (sampleUndos (pure sampleRefusal)) [] sampleUndoable).2.cr.status =
        .rolledBack ∧
      ¬AutomaticTruthful (sampleUndos (pure sampleRefusal)) (some 0) sampleUndoable (.obj [])
        [⟨1,"undo",sampleRefusal⟩] ∧
      ¬ExecutorTruthful (sampleUndos (pure sampleRefusal)) [] sampleUndoable
        [⟨1,"undo",sampleRefusal⟩] := by
  refine ⟨sampleUndoable_undone rfl rfl,rfl,fun h => ?_,fun h => ?_⟩
  · have hstatus : ChangeRequestStatus.rolledBack = .rollbackFailed := h
    cases hstatus
  · have hstatus : ChangeRequestStatus.rolledBack = .rollbackFailed := h
    cases hstatus

/-- A report of a rollback without steps and without the mark of a no-op. -/
def FlatReport (report : Json) : Prop :=
  ∃ d, report = .obj d ∧ Dict.get? d "execution" = none ∧ Dict.get? d "steps" = none ∧
    Dict.get? d "rollback_steps" = none ∧ Dict.get? d "_rollback_no_op" = none

def reportsRolledBack : Json → Bool
  | .obj d => (Dict.getD d "rolled_back" .null).isTrue
  | _ => false

/-- The result takes the same defaults on both paths: a fan-out or an image transfer does not
report that it was rolled back, and a plan has an undo step. -/
def ConvertsAlike (changeType : ChangeType) (steps : List PlanStep) (result : Json) : Prop :=
  if isFanOutChangeType changeType = true ∨ changeType = .containerImageTransfer then
    reportsRolledBack result = false
  else changeType = .scanForReferences ∨ plannedUndos steps ≠ []

section Agreement

variable {result : Json}

theorem flatReport_agrees (h : FlatReport result) :
    automaticRollbackStatus result = rollbackOutcome result ↔ reportsRolledBack result = false := by
  obtain ⟨d,rfl,hexecution,hsteps,hundone,hnoOp⟩ := h
  have hautomatic : automaticRollbackStatus (.obj d) = .ok .rollbackFailed := by
    have hread : (Json.obj d).orElse (.obj []) = .obj d := by cases d <;> rfl
    have hnone : ∀ ran, determineRollbackStatus [] ran = .rollbackFailed := by
      simp [determineRollbackStatus]
    simp only [automaticRollbackStatus,hread,Json.get_obj,Checks.ok_bind,Dict.getD,hundone,hsteps]
    exact congrArg Except.ok (hnone _)
  have houtcome : rollbackOutcome (.obj d) =
      .ok (if (Dict.getD d "rolled_back" .null).isTrue then .rolledBack else .rollbackFailed) := by
    have hreported : reportedSteps d = .ok [] := by
      simp only [reportedSteps,Dict.getD,hexecution,hsteps,hundone]
      rfl
    have hnot : Dict.truthy d "_rollback_no_op" = false := by
      simp only [Dict.truthy,Dict.getD,hnoOp]
      rfl
    rw [rollbackOutcome,hreported,Checks.ok_bind,hnot]
    cases Dict.getD d "rolled_back" .null with
    | bool b => cases b <;> rfl
    | _ => rfl
  rw [hautomatic,houtcome,reportsRolledBack]
  cases (Dict.getD d "rolled_back" .null).isTrue <;> simp

theorem fanOutRollback_flat {ρ : Type} {ops : FanOutOps ρ} {executionResult report : Json}
    {s s' : FanOutStore ρ} (h : fanOutRollback ops executionResult s = (.ok report,s')) :
    FlatReport report := by
  rcases fanOutRollback_cases h with rfl | ⟨rollbacks,rfl⟩ <;> exact ⟨_,rfl,rfl,rfl,rfl,rfl⟩

theorem transferRollback_flat {registry : RegistryOps ω} {parameters : Dict}
    {executionResult report : Json} {s s' : ω}
    (h : transferRollback registry parameters executionResult s = (.ok report,s')) :
    FlatReport report := by
  rcases transferRollback_cases h with rfl | ⟨destImage,ok,note,rfl⟩ | ⟨e,rfl⟩ <;>
    exact ⟨_,rfl,rfl,rfl,rfl,rfl⟩

theorem noRecords_differ :
    automaticRollbackStatus (undoRecords []) ≠ rollbackOutcome (undoRecords []) := by
  intro h
  have hstatus : Except.ok (ε := Exc) ChangeRequestStatus.rollbackFailed = .ok .rolledBack := h
  cases hstatus

/-- The results of one plan convert alike exactly when there is one. -/
theorem undoRecords_agree (records : List UndoRecord) :
    automaticRollbackStatus (undoRecords records) = rollbackOutcome (undoRecords records) ↔
      records ≠ [] := by
  by_cases hne : records = []
  · rw [hne]
    exact iff_of_false noRecords_differ (by simp)
  · rw [automaticRollbackStatus_records hne,rollbackOutcome_records hne]
    simp [hne]

end Agreement

section Environment

variable {env : Env ω} {w w' : World ω} {steps : List PlanStep} {executionResult result : Json}

theorem activityExecuteRollback_fanOut (hfan : isFanOutChangeType w.cr.changeType = true) :
    activityExecuteRollback env steps executionResult w =
      onOutside (env.fanOutRollback w.cr.desiredOutcome executionResult) w := by
  rw [activityExecuteRollback,Py.get_bind,if_pos hfan]

theorem activityExecuteRollback_transfer (htransfer : w.cr.changeType = .containerImageTransfer) :
    activityExecuteRollback env steps executionResult w = (do
      let inner ← Py.ofExcept (executionResult.get "execution" executionResult)
      onOutside (env.transferRollback w.cr.desiredOutcome inner)) w := by
  rw [activityExecuteRollback,Py.get_bind,htransfer]
  rfl

theorem activityExecuteRollback_plan (hfan : isFanOutChangeType w.cr.changeType ≠ true)
    (htransfer : w.cr.changeType ≠ .containerImageTransfer)
    (hscan : w.cr.changeType ≠ .scanForReferences) :
    activityExecuteRollback env steps executionResult w = (do
      let results ← Py.ofExcept (stepResultByNumber executionResult)
      let records ← onSite (undoSteps env w.cr w.connectors results steps)
      pure (undoRecords records)) w := by
  rw [activityExecuteRollback,Py.get_bind,if_neg hfan]
  cases hct : w.cr.changeType <;> simp_all

/-- Any other change, but for a scan, goes through the undo steps of its plan. -/
theorem activityExecuteRollback_undone (hfan : isFanOutChangeType w.cr.changeType ≠ true)
    (htransfer : w.cr.changeType ≠ .containerImageTransfer)
    (hscan : w.cr.changeType ≠ .scanForReferences)
    (h : activityExecuteRollback env steps executionResult w = (.ok result,w')) :
    ∃ records, result = undoRecords records ∧ records.length = (plannedUndos steps).length := by
  rw [activityExecuteRollback_plan hfan htransfer hscan] at h
  obtain ⟨results,_,h⟩ := Py.ofExcept_bind_eq_ok.mp h
  obtain ⟨records,v,hrecords,h⟩ := Py.bind_eq_ok.mp h
  refine ⟨records,(Except.ok.inj (Prod.mk.inj h).1).symm,?_⟩
  exact Py.each_ok_length (Prod.ext (Prod.mk.inj hrecords).1 rfl)

end Environment

/-- The two conversions of what `activity_execute_rollback` returned agree exactly when the result
takes the same defaults on both paths. -/
theorem rollback_statuses_agree_iff {ρ : Type} (env : Env (FanOutStore ρ)) (ops : FanOutOps ρ)
    (modules : String → String → Except Exc (ExecutorModule ρ))
    (registry : RegistryOps (FanOutStore ρ)) (steps : List PlanStep) (executionResult : Json)
    (w w' : World (FanOutStore ρ)) (result : Json)
    (h : activityExecuteRollback ((env.withFanOut ops modules).withTransfers registry) steps
      executionResult w = (.ok result,w')) :
    automaticRollbackStatus result = rollbackOutcome result ↔
      ConvertsAlike w.cr.changeType steps result := by
  by_cases hfan : isFanOutChangeType w.cr.changeType = true
  · rw [activityExecuteRollback_fanOut hfan] at h
    rw [ConvertsAlike,if_pos (Or.inl hfan)]
    have hreport : (fanOutRollback ops executionResult w.site.outside).1 = .ok result :=
      (Prod.mk.inj h).1
    exact flatReport_agrees (fanOutRollback_flat (Prod.ext hreport rfl))
  by_cases htransfer : w.cr.changeType = .containerImageTransfer
  · rw [activityExecuteRollback_transfer htransfer] at h
    obtain ⟨inner,_,h⟩ := Py.ofExcept_bind_eq_ok.mp h
    rw [ConvertsAlike,if_pos (Or.inr htransfer)]
    have hreport : (transferRollback registry w.cr.desiredOutcome inner w.site.outside).1 =
        .ok result := (Prod.mk.inj h).1
    exact flatReport_agrees (transferRollback_flat (Prod.ext hreport rfl))
  rw [ConvertsAlike,if_neg (by simp [hfan,htransfer])]
  by_cases hscan : w.cr.changeType = .scanForReferences
  · rw [activityExecuteRollback,Py.get_bind,if_neg hfan,hscan] at h
    obtain rfl := Except.ok.inj (Prod.mk.inj h).1
    exact iff_of_true rfl (Or.inl hscan)
  · obtain ⟨records,rfl,hlength⟩ := activityExecuteRollback_undone hfan htransfer hscan h
    rw [undoRecords_agree,or_iff_right hscan,← List.length_pos_iff,← List.length_pos_iff,hlength]

/-- No registry is known, and a plan step undoes as its module says. -/
def sampleRegistry : RegistryOps (FanOutStore Unit) where
  loadCredsByConnectorId := fun _ => Py.raise (.valueError "Connector not found")
  deleteTag := fun _ _ _ _ => pure ()
  restoreTagByDigest := fun _ _ _ _ _ => pure false

def sampleUndoModules (answer : Json) : String → String → Except Exc (ExecutorModule Unit) :=
  fun _ _ => .ok ⟨fun _ _ _ => pure (.obj []),some fun _ _ _ => pure answer⟩

def samplePlanWorld (steps : List PlanStep) : World (FanOutStore Unit) :=
  sampleFanOutWorld { sampleLockoutRequest with
    changeType := .generic "patch"
    changePlan := some { generatedSteps := steps } } ⟨[],[],()⟩

def sampleUndoEnv (answer : Json) : Env (FanOutStore Unit) :=
  ((sampleFanOutEnv (.ok ())).withFanOut (sampleFanOutOps (.ok ()))
    (sampleUndoModules answer)).withTransfers sampleRegistry

/-- Both paths convert the result of one failed undo alike. -/
theorem sample_statuses_agree :
    automaticRollbackStatus (undoRecords [⟨1,"undo",undoFailure (.other "unreachable")⟩]) =
      rollbackOutcome (undoRecords [⟨1,"undo",undoFailure (.other "unreachable")⟩]) :=
  (rollback_statuses_agree_iff (sampleFanOutEnv (.ok ())) (sampleFanOutOps (.ok ()))
    (sampleUndoModules (undoFailure (.other "unreachable"))) sampleRegistry [sampleUndoStep]
    (.obj []) (samplePlanWorld [sampleUndoStep]) _ _ rfl).mpr (Or.inr (by decide))

def sampleHalfDeclared : PlanStep := { sampleUndoStep with rollbackConnectorType := none }

/-- A plan whose undo action has no connector type fails to roll back on one path, and is rolled
back on the other. -/
theorem empty_undo_differs :
    (activityExecuteRollback (sampleUndoEnv (.obj [])) [sampleHalfDeclared] (.obj [])
        (samplePlanWorld [sampleHalfDeclared])).1 = .ok (undoRecords []) ∧
      automaticRollbackStatus (undoRecords []) ≠ rollbackOutcome (undoRecords []) ∧
      (rollBackFailed (sampleUndoEnv (.obj [])) (some 0) [sampleHalfDeclared] (.obj [])
        (samplePlanWorld [sampleHalfDeclared])).2.cr.status = .rollbackFailed ∧
      (executeCrRollback (sampleUndoEnv (.obj [])) []
        (samplePlanWorld [sampleHalfDeclared])).2.cr.status = .rolledBack :=
  ⟨rfl,noRecords_differ,rfl,rfl⟩

end Nexplane
