import Nexplane.WorkflowRecords
import Nexplane.RollbackExecutor

set_option autoImplicit false

/-! The rollback of a change whose step loop was left by an exception. The workflow keeps the text
of the exception only, so the rollback knows neither which steps completed nor their results. -/

namespace Nexplane
open PyValue

variable {ω : Type}

/-- The loop over the steps completes some of them, with these records, and is left by the
exception that the next one raises. -/
inductive StepFails (env : Env ω) (cr : ChangeRequest) (connectors : List Connector) :
    Dict → List PlanStep → Site ω → List StepRecord → Exc → Site ω → Prop
  | raised {carried : Dict} {step : PlanStep} {steps : List PlanStep} {s s' : Site ω} {e : Exc}
      (h : runStep env cr connectors carried step s = (.error e,s')) :
      StepFails env cr connectors carried (step :: steps) s [] e s'
  | completed {carried : Dict} {step : PlanStep} {steps : List PlanStep} {s t s' : Site ω}
      {r : StepRecord} {rs : List StepRecord} {e : Exc}
      (h : runStep env cr connectors carried step s = (.ok r,t)) (hgo : stopsLoop r = false)
      (hrest : StepFails env cr connectors (carry carried r.result) steps t rs e s') :
      StepFails env cr connectors carried (step :: steps) s (r :: rs) e s'

section Forward

variable {env : Env ω} {cr : ChangeRequest} {connectors : List Connector} {carried : Dict}
  {steps : List PlanStep} {s s' : Site ω} {rs : List StepRecord} {e : Exc}

theorem runSteps_error_iff :
    runSteps env cr connectors carried steps s = (.error e,s') ↔
      ∃ rs, StepFails env cr connectors carried steps s rs e s' := by
  induction steps generalizing carried s with
  | nil =>
    constructor
    · intro h
      simp [runSteps] at h
    · rintro ⟨rs,h⟩
      cases h
  | cons step steps ih =>
    rw [runSteps]
    constructor
    · intro h
      rcases Py.bind_eq_error.mp h with h | ⟨r,t,hr,h⟩
      · exact ⟨[],.raised h⟩
      · split at h
        · simp at h
        · rename_i hgo
          rcases Py.bind_eq_error.mp h with h | ⟨rs,u,_,h⟩
          · obtain ⟨rs,hrs⟩ := ih.mp h
            exact ⟨r :: rs,.completed hr (by simpa using hgo) hrs⟩
          · simp at h
    · rintro ⟨rs,h⟩
      cases h with
      | raised h => exact Py.bind_error h
      | completed h hgo hrest =>
        rw [Py.bind_ok h,if_neg (by simp [hgo])]
        exact Py.bind_error (ih.mpr ⟨_,hrest⟩)

end Forward

/-- The generic workflow of a change has failed at a step, after the steps of `rs`. Its run is the
newest one, no run of a rollback, and no run of the change has completed before. -/
structure FailedChange (env : Env ω) (w w₁ : World ω) (rs : List StepRecord) : Prop where
  executor : workflowExecutor w.cr.changeType = .planSteps
  run : ∃ earlier r, w.runs = earlier ++ [r] ∧ hasText "rollback" r.workflowId = false
  first : ∀ r ∈ w.runs, r.status ≠ .completed
  failed : ∃ e site, StepFails env (w.markStatus .executing).cr w.connectors [] w.cr.steps w.site
    rs e site
  recorded : executeChangeWorkflow env w = (.ok (),w₁)

/-- A later state of the change, in which only runs of rollbacks have been added. -/
structure AwaitsRollback (w w₁ w₂ : World ω) : Prop where
  changeType : w₂.cr.changeType = w.cr.changeType
  steps : w₂.cr.steps = w.cr.steps
  runs : ∃ later, w₂.runs = w₁.runs ++ later ∧ ∀ r ∈ later,
    r.status ≠ .completed ∧ hasText "rollback" r.workflowId = true

/-- An invocation of an undo. -/
def Call.isUndo : Call → Bool
  | .undo _ _ => true
  | .executorRollback _ _ _ => true
  | _ => false

def Site.undos (s : Site ω) : List Call := s.calls.filter Call.isUndo

/-- The undo of each completed step that declares one, in reverse order and with the result that
the step has returned. -/
def completedUndos (steps : List PlanStep) (rs : List StepRecord) : List Call :=
  ((steps.zip rs).reverse.filter fun p => (declaredUndo p.1).isSome).map fun p =>
    .undo p.1 p.2.result

section Forward

variable {env : Env ω} {w w₁ w₂ : World ω} {rs : List StepRecord}

/-- All that is left of a failed execution is the text of its exception. -/
theorem FailedChange.runs (h : FailedChange env w w₁ rs) : ∃ earlier r e,
    w.runs = earlier ++ [r] ∧ hasText "rollback" r.workflowId = false ∧
      w₁.runs = earlier ++ [⟨r.workflowId,.failed,[("error",.str e)]⟩] := by
  obtain ⟨earlier,r,hruns,hid⟩ := h.run
  obtain ⟨e,site,hfail⟩ := h.failed
  have hloop : activityExecuteChange env (w.markStatus .executing) =
      (.error e,{ w.markStatus .executing with site := site.close }) := by
    rw [activityExecuteChange_planSteps (by simpa using h.executor)]
    have hsteps := runSteps_error_iff.mpr ⟨rs,hfail⟩
    have hrun : onSite (session (runSteps env (w.markStatus .executing).cr
        (w.markStatus .executing).connectors [] (w.markStatus .executing).cr.steps))
        (w.markStatus .executing) =
          (.error e,{ w.markStatus .executing with site := site.close }) := by
      rw [World.markStatus_connectors,World.markStatus_steps]
      simp only [onSite,Py.zoom_run,session_run,World.markStatus_site,hsteps]
    rw [executePlanSteps,Py.get_bind]
    exact Py.bind_error hrun
  refine ⟨earlier,r,e.str,hruns,hid,?_⟩
  have hlast : latestRun (fun _ => true) w.runs = some earlier.length := by
    rw [hruns]
    exact latestRun_concat rfl
  rcases executeChangeWorkflow_ok h.recorded with ⟨e',v,hexec,hrec⟩ | ⟨result,v,hexec,_⟩
  · obtain ⟨he,rfl⟩ := Prod.mk.inj (hloop.symm.trans hexec)
    obtain rfl := Except.error.inj he
    rw [hlast] at hrec
    obtain ⟨_,rfl⟩ := Prod.mk.inj hrec
    simp [World.setRun,hruns,modify_concat]
  · rw [hloop] at hexec
    cases hexec

end Forward

section Undo

variable {env : Env ω} {cr : ChangeRequest} {connectors : List Connector} {cs : List Call}

theorem executeAction_undos (connectorType actionId : String) (parameters : Dict)
    (assetIds : List String) (connector : Option Connector) :
    Py.Keeps (fun s : Site ω => s.undos = cs)
      (executeAction env connectorType actionId parameters assetIds connector) := by
  refine .bind (.modify fun s h => by simpa [Site.undos,Call.isUndo] using h) fun _ =>
    .bind (.ofExcept _) fun connector => .bind (.ofExcept _) fun executor =>
    .bind (outside_keeps (fun _ _ h => h) _) fun result => .bind (.ofExcept _) fun hasAsset => ?_
  split
  · exact .bind (.ofExcept _) fun _ => .bind (.ofExcept _) fun _ =>
      .bind (upsertAutoAsset_keeps (fun _ _ _ h => h) _ _ _) fun _ => .pure _
  · exact .pure _

theorem invokeUndo_undos (rollbackConnector rollbackAction : String) (parameters prior : Dict)
    (connector : Option Connector) : Py.Keeps (fun s : Site ω => s.undos = cs)
      (invokeUndo env rollbackConnector rollbackAction parameters prior connector) := by
  unfold invokeUndo
  split
  · exact outside_keeps (fun _ _ h => h) _
  · exact executeAction_undos _ _ _ _ _

theorem removeTerminated_undos (rollbackAction : String) (parameters prior : Dict)
    (connector : Option Connector) : Py.Keeps (fun s : Site ω => s.undos = cs)
      (removeTerminated rollbackAction parameters prior connector) := by
  cases connector with
  | none => exact .pure _
  | some c => exact .ite (.modify fun _ h => h) (.pure _)

/-- Without a stored result the undo of a step is given an empty one. -/
theorem tryUndo_undos (env : Env ω) (step : PlanStep) (rollbackConnector rollbackAction : String)
    (parameters : Dict) (connector : Option Connector) (s : Site ω) :
    (tryUndo env step rollbackConnector rollbackAction parameters [] connector s).2.undos =
      s.undos ++ [.undo step (.obj [])] := by
  have hk : Py.Keeps (fun t : Site ω => t.undos = s.undos ++ [.undo step (.obj [])]) (do
      let result ← invokeUndo env rollbackConnector rollbackAction parameters [] connector
      removeTerminated rollbackAction parameters [] connector
      pure result) :=
    .bind (invokeUndo_undos _ _ _ _ _) fun _ => .bind (removeTerminated_undos _ _ _ _)
      fun _ => .pure _
  exact hk (s.log (.undo step (.obj []))) (by simp [Site.undos,Call.isUndo])

/-- The connector of an undo can be opened. -/
def undoOpens (env : Env ω) (cr : ChangeRequest) (connectors : List Connector)
    (undo : PlanStep × String × String) : Bool :=
  (undoConnector env cr connectors undo.1 undo.2.2).isOk

theorem undoStep_opens (undo : PlanStep × String × String) (s : Site ω)
    (h : undoOpens env cr connectors undo = true) :
    ∃ r s', undoStep env cr connectors [] undo s = (.ok r,s') ∧
      s'.undos = s.undos ++ [.undo undo.1 (.obj [])] := by
  unfold undoOpens at h
  cases hc : undoConnector env cr connectors undo.1 undo.2.2 with
  | error e => simp [hc,Except.isOk,Except.toBool] at h
  | ok connector =>
    have hundos := tryUndo_undos env undo.1 (actualType undo.2.2 connector) undo.2.1
      (undoParameters cr undo.1 []) connector s
    rcases ht : tryUndo env undo.1 (actualType undo.2.2 connector) undo.2.1
      (undoParameters cr undo.1 []) [] connector s with ⟨outcome,t⟩
    rw [ht] at hundos
    cases outcome with
    | ok result =>
      refine ⟨⟨undo.1.stepNumber,undo.2.1,result⟩,t,?_,hundos⟩
      simp [undoStep,hc,priorResult,Py.bind_run,Py.tryExcept,ht]
    | error e =>
      refine ⟨⟨undo.1.stepNumber,undo.2.1,undoFailure e⟩,t,?_,hundos⟩
      simp [undoStep,hc,priorResult,Py.bind_run,Py.tryExcept,ht]

theorem undoStep_shut (undo : PlanStep × String × String) (s : Site ω)
    (h : undoOpens env cr connectors undo = false) :
    ∃ e, undoStep env cr connectors [] undo s = (.error e,s) := by
  unfold undoOpens at h
  cases hc : undoConnector env cr connectors undo.1 undo.2.2 with
  | error e => exact ⟨e,by simp [undoStep,hc]⟩
  | ok connector => simp [hc,Except.isOk,Except.toBool] at h

/-- Every planned undo is invoked up to the first one whose connector cannot be opened. -/
theorem undoSteps_undos (steps : List PlanStep) (s : Site ω) :
    (undoSteps env cr connectors [] steps s).2.undos =
      s.undos ++ ((plannedUndos steps).takeWhile (undoOpens env cr connectors)).map fun u =>
        .undo u.1 (.obj []) := by
  have hloop : (Py.each (undoStep env cr connectors []) (plannedUndos steps) s).2.undos =
      s.undos ++ ((plannedUndos steps).takeWhile (undoOpens env cr connectors)).flatMap fun u =>
        [.undo u.1 (.obj [])] :=
    Py.each_prefix undoStep_opens undoStep_shut _ s
  rwa [← List.map_eq_flatMap] at hloop

end Undo

section Rollback

variable {env : Env ω} {w : World ω} {executionResult : Json}

theorem executeCrRollback_planSteps (h : workflowExecutor w.cr.changeType = .planSteps) :
    executeCrRollback env [] w =
      rollbackPlan env (.obj (w.runResult (loadedRun w.runs))) w := by
  rw [executeCrRollback,Py.get_bind]
  cases hct : w.cr.changeType <;> simp_all [workflowExecutor,isFanOutChangeType,Dict.merge]

theorem rollbackPlan_site :
    (rollbackPlan env executionResult w).2.site = (undoPlan env executionResult w).2.site := by
  rw [rollbackPlan,Py.bind_run]
  rcases undoPlan env executionResult w with ⟨r,v⟩
  cases r with
  | error e => rfl
  | ok result => cases hs : rollbackOutcome result <;> simp [hs,World.setStatus]

theorem activityExecuteRollback_planSteps (h : workflowExecutor w.cr.changeType = .planSteps)
    (steps : List PlanStep) :
    activityExecuteRollback env steps executionResult w = (do
      let results ← Py.ofExcept (stepResultByNumber executionResult)
      let records ← onSite (undoSteps env w.cr w.connectors results steps)
      pure (undoRecords records)) w := by
  rw [activityExecuteRollback,Py.get_bind]
  cases hct : w.cr.changeType <;> simp_all [workflowExecutor,isFanOutChangeType]

theorem activityExecuteRollback_site (h : workflowExecutor w.cr.changeType = .planSteps)
    {results : List (Json × Json)} (hresults : stepResultByNumber executionResult = .ok results)
    (steps : List PlanStep) :
    (activityExecuteRollback env steps executionResult w).2.site =
      (undoSteps env w.cr w.connectors results steps w.site).2 := by
  rw [activityExecuteRollback_planSteps h,hresults,Py.ofExcept_ok_bind,Py.bind_run,onSite,
    Py.zoom_run]
  rcases undoSteps env w.cr w.connectors results steps w.site with ⟨r,t⟩
  cases r <;> rfl

/-- The fallback finds an executor module with a rollback function. -/
def fallbackFound (env : Env ω) (cr : ChangeRequest) : Bool :=
  match fallbackModule env cr none none with
  | some (_,_,⟨_,some _⟩) => true
  | _ => false

/-- Without plan steps to undo, the rollback function that is found is invoked. -/
theorem executorFallback_undos (env : Env ω) (cr : ChangeRequest) (connectors : List Connector)
    (message : String) (s : Site ω) :
    (executorFallback env cr connectors (.obj [("error",.str message)]) s).2.undos = s.undos ↔
      fallbackFound env cr = false := by
  have hread : executorFallback env cr connectors (.obj [("error",.str message)]) s =
      Py.tryExcept
        (match fallbackModule env cr none none with
        | some (t,name,⟨_,some rollback⟩) => do
          Py.modify fun s => s.log
            (.executorRollback t name (.obj [("error",.str message)]))
          let result ← outside (rollback cr.desiredOutcome (.obj [("error",.str message)]) none)
          pure (markNoOp result)
        | _ => pure (.obj [("rolled_back",.bool false),
            ("reason",.str "no_rollback_function_found")]))
        (fun e => pure (.obj [("rolled_back",.bool false),("reason",.str e.str)])) s := rfl
  rw [hread,fallbackFound]
  split
  · rename_i t name execute rollback heq
    have hk : Py.Keeps (fun u : Site ω => u.undos =
        s.undos ++ [.executorRollback t name (.obj [("error",.str message)])]) (Py.tryExcept (do
          let result ← outside (rollback cr.desiredOutcome (.obj [("error",.str message)]) none)
          pure (markNoOp result))
        fun e => pure (.obj [("rolled_back",.bool false),("reason",.str e.str)])) :=
      .tryExcept (.bind (outside_keeps (fun _ _ h => h) _) fun _ => .pure _) fun _ => .pure _
    have hundos := hk (s.log (.executorRollback t name (.obj [("error",.str message)])))
      (by simp [Site.undos,Call.isUndo])
    refine iff_of_false (fun h => ?_) (by simp)
    exact absurd (hundos.symm.trans h) (by simp)
  · exact iff_of_true rfl rfl

end Rollback

section Lists

variable {α β : Type}

theorem map_undo_eq {as : List α} {bs : List β} {x : α → PlanStep} {y : β → PlanStep}
    {result : β → Json} :
    as.map (fun a => Call.undo (x a) (.obj [])) = bs.map (fun b => Call.undo (y b) (result b)) ↔
      as.map x = bs.map y ∧ ∀ b ∈ bs, result b = .obj [] := by
  induction as generalizing bs with
  | nil => cases bs <;> simp
  | cons a as ih =>
    cases bs with
    | nil => simp
    | cons b bs =>
      simp only [List.map_cons,List.cons.injEq,Call.undo.injEq,ih,List.mem_cons,forall_eq_or_imp]
      constructor
      · rintro ⟨⟨hx,hr⟩,hxs,hrs⟩
        exact ⟨⟨hx,hxs⟩,hr.symm,hrs⟩
      · rintro ⟨⟨hx,hxs⟩,hr,hrs⟩
        exact ⟨⟨hx,hr.symm⟩,hxs,hrs⟩

theorem map_fst_zip_take (as : List α) (bs : List β) :
    (as.zip bs).map Prod.fst = as.take bs.length := by
  induction as generalizing bs with
  | nil => simp
  | cons a as ih =>
    cases bs with
    | nil => simp
    | cons b bs => simp [ih]

end Lists

/-- The steps with an undo, in the order in which a rollback takes them up. -/
def undoableSteps (steps : List PlanStep) : List PlanStep :=
  steps.reverse.filter fun step => (declaredUndo step).isSome

/-- The steps whose undo a rollback starts: the undoable ones of the whole plan, up to the first
whose connector cannot be opened. -/
def undoneSteps (env : Env ω) (cr : ChangeRequest) (connectors : List Connector) : List PlanStep :=
  ((plannedUndos cr.steps).takeWhile (undoOpens env cr connectors)).map Prod.fst

/-- The steps undone are the completed ones, and these have returned nothing to hand on. -/
structure UndoesBlindly (env : Env ω) (w : World ω) (rs : List StepRecord) : Prop where
  steps : undoneSteps env w.cr w.connectors = undoableSteps (w.cr.steps.take rs.length)
  results : ∀ p ∈ w.cr.steps.zip rs, (declaredUndo p.1).isSome → p.2.result = .obj []

/-- A rollback invokes exactly the undos of the completed steps. -/
def UndoesCompleted (env : Env ω) (w : World ω) (rs : List StepRecord) : Prop :=
  (executeCrRollback env [] w).2.site.undos = w.site.undos ++ completedUndos w.cr.steps rs

section Main

variable {env env' : Env ω} {w w₁ w₂ : World ω} {rs : List StepRecord}

/-- The rollback reads the run that the workflow has left with the text of the exception. -/
theorem FailedChange.loaded (h : FailedChange env w w₁ rs) (hl : AwaitsRollback w w₁ w₂) :
    ∃ e, w₂.runResult (loadedRun w₂.runs) = [("error",.str e)] := by
  obtain ⟨earlier,r,e,hw,hid,hw₁⟩ := h.runs
  obtain ⟨later,hw₂,hlater⟩ := hl.runs
  rw [hw₁] at hw₂
  have hearlier : ∀ s ∈ earlier, s.status ≠ .completed := fun s hs =>
    h.first s (by simp [hw,hs])
  exact ⟨e,runResult_executed hw₂ hearlier hid hlater⟩

theorem declaredUndo_declares {step : PlanStep} (h : (declaredUndo step).isSome) :
    declaresRollback step = true := by
  unfold declaredUndo at h
  unfold declaresRollback
  cases ha : (truthyText step.rollbackAction).or (truthyText step.rollbackActionId) with
  | none => simp [ha] at h
  | some action => rfl

theorem completedUndos_eq_nil {steps : List PlanStep} (h : steps.any declaresRollback = false) :
    completedUndos steps rs = [] := by
  have hnone : ∀ p ∈ (steps.zip rs).reverse, ¬(declaredUndo p.1).isSome = true := by
    intro p hp hsome
    have hmem := (List.of_mem_zip (List.mem_reverse.mp hp)).1
    have hany := List.any_eq_true.mpr ⟨p.1,hmem,declaredUndo_declares hsome⟩
    rw [h] at hany
    cases hany
  rw [completedUndos,List.filter_eq_nil_iff.mpr hnone,List.map_nil]

theorem undoableSteps_take (steps : List PlanStep) :
    ((steps.zip rs).reverse.filter fun p => (declaredUndo p.1).isSome).map Prod.fst =
      undoableSteps (steps.take rs.length) := by
  rw [undoableSteps,← map_fst_zip_take,← List.map_reverse,List.filter_map]
  rfl

end Main

/-- A step of an action with an undo, if one is given. -/
def sampleStep (number : Int) (action : String) (undo : Option String) : PlanStep :=
  ⟨number,none,some action,some "aws",none,none,undo,none,some "aws"⟩

/-- Modules that answer with a result, except that volumes cannot be attached. -/
def volumeModules (result : Dict) : Env Unit := Env.ofModules fun _ action => .ok
  ⟨fun _ _ _ => if action = "attach_volume" then Py.raise (.other "volume is busy")
    else pure (.obj result),none⟩

def sampleVolumes (undo : Option String) : World Unit :=
  sampleApproved (.generic "catalog_action") (some ⟨[sampleStep 1 "create_volume" (some "delete_volume"),
    sampleStep 2 "attach_volume" undo],[],[],""⟩) []

def sampleCreated (result : Dict) : StepRecord := ⟨1,none,"create_volume","aws",
  some "12345678-1234-5678-1234-567812345678",.obj result⟩

/-- The failed change, with the run that a rollback request adds. -/
def sampleFailedVolumes (result : Dict) (undo : Option String) : World Unit :=
  let w := (executeChangeWorkflow (volumeModules result) (sampleVolumes undo)).2
  { w with runs := w.runs ++ [⟨"wf-rollback-cr-1",.rollingBack,[]⟩] }

def sampleVolumeId : Dict := [("volume_id",.str "vol-1")]

end Nexplane
