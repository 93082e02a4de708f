import Mathlib.Data.List.Forall2
import Nexplane.RollbackRecords
import Nexplane.PartialRollback

set_option autoImplicit false

/-! The rollback of a plan that declares no rollback actions. One rollback function stands in for
all completed steps. -/

namespace Nexplane
open PyValue

variable {ω : Type}

/-- An answer that counts as success: it says rolled back, all of its steps succeeded, or it
declares that there is nothing to undo. -/
def ReportsSuccess (answer : Json) : Prop := rollbackOutcome (markNoOp answer) = .ok .rolledBack

/-- The call is the rollback of the step's own executor, with the step's own result, and reports
success. -/
def UndoesRecord (env : Env ω) (cr : ChangeRequest) (r : StepRecord) (call : Call) : Prop :=
  ∃ t name execute rollback connector o answer, call = .executorRollback t name r.result ∧
    env.getExecutor t name = env.getExecutor r.connectorType r.actionId ∧
    env.getExecutor t name = .ok ⟨execute,some rollback⟩ ∧
    (rollback cr.desiredOutcome r.result connector o).1 = .ok answer ∧ ReportsSuccess answer

/-- A rollback that ends in rolled back has undone every completed step, last one first. -/
def RolledBackTruly (env : Env ω) (w : World ω) (rs : List StepRecord) : Prop :=
  ∀ result w', executeCrRollback env [] w = (.ok result,w') → w'.cr.status = .rolledBack →
    ∃ calls, w'.site.undos = w.site.undos ++ calls ∧
      List.Forall₂ (UndoesRecord env w.cr) rs.reverse calls

/-- What the rollback reads. -/
def World.storedResult (w : World ω) : Json := .obj (w.runResult (loadedRun w.runs))

/-- A rollback function is found for the change as a whole, under the key `t`, `name`, and reports
success when it is given `prior`. -/
structure FallbackSucceeds (env : Env ω) (w : World ω) (t name : String) (prior : Json) :
    Prop where
  found : ∃ steps connectorType actionId connectorId connector execute rollback answer,
    storedSteps w.storedResult = .ok steps ∧
    firstRecorded "connector_type" steps = .ok connectorType ∧
    firstRecorded "action_id" steps = .ok actionId ∧
    firstRecorded "connector_id" steps = .ok connectorId ∧
    recordedConnector env w.cr w.connectors connectorId connectorType = .ok connector ∧
    fallbackModule env w.cr connectorType actionId = some (t,name,⟨execute,some rollback⟩) ∧
    firstStepResult w.storedResult steps = .ok prior ∧
    (rollback w.cr.desiredOutcome prior connector w.site.outside).1 = .ok answer ∧
    ReportsSuccess answer

/-- The function stands in for one step only, and is this step's own. -/
def StandsForOne (env : Env ω) (rs : List StepRecord) (t name : String) (prior : Json) : Prop :=
  ∃ r, rs = [r] ∧ prior = r.result ∧
    env.getExecutor t name = env.getExecutor r.connectorType r.actionId

section
variable {env : Env ω} {w w' : World ω} {cr : ChangeRequest} {connectors : List Connector}
  {executionResult result : Json} {s s' : Site ω} {t name : String}

theorem firstExecutor_ok {actionId : String} {types : List String} {module : ExecutorModule ω}
    (h : firstExecutor env actionId types = some (t,module)) :
    env.getExecutor t actionId = .ok module := by
  induction types with
  | nil => cases h
  | cons t' types ih =>
    rw [firstExecutor] at h
    cases hg : env.getExecutor t' actionId with
    | ok module' =>
      rw [hg] at h
      obtain ⟨rfl,rfl⟩ := Prod.mk.inj (Option.some.inj h)
      exact hg
    | error e =>
      rw [hg] at h
      exact ih h

theorem fallbackModule_ok {connectorType actionId : Option Json} {module : ExecutorModule ω}
    (h : fallbackModule env cr connectorType actionId = some (t,name,module)) :
    env.getExecutor t name = .ok module := by
  unfold fallbackModule at h
  dsimp only at h
  split at h
  · rename_i heq
    obtain ⟨rfl,hrest⟩ := Prod.mk.inj (Option.some.inj h)
    obtain ⟨rfl,rfl⟩ := Prod.mk.inj hrest
    exact firstExecutor_ok heq
  · obtain ⟨other,_,h⟩ := Option.bind_eq_some_iff.mp h
    obtain ⟨found,hfound,h⟩ := Option.bind_eq_some_iff.mp h
    obtain ⟨rfl,hrest⟩ := Prod.mk.inj (Option.some.inj h)
    obtain ⟨rfl,rfl⟩ := Prod.mk.inj hrest
    exact firstExecutor_ok hfound

theorem fallback_reason_failed (reason : String) :
    rollbackOutcome (.obj [("rolled_back",.bool false),("reason",.str reason)]) =
      .ok .rollbackFailed := rfl

/-- The fallback comes to a success in one way: one rollback function, called once. -/
theorem executorFallback_success (h : executorFallback env cr connectors executionResult s =
    (.ok result,s')) (hr : rollbackOutcome result = .ok .rolledBack) :
    ∃ steps connectorType actionId connectorId connector t name execute rollback prior answer,
      storedSteps executionResult = .ok steps ∧
      firstRecorded "connector_type" steps = .ok connectorType ∧
      firstRecorded "action_id" steps = .ok actionId ∧
      firstRecorded "connector_id" steps = .ok connectorId ∧
      recordedConnector env cr connectors connectorId connectorType = .ok connector ∧
      fallbackModule env cr connectorType actionId = some (t,name,⟨execute,some rollback⟩) ∧
      firstStepResult executionResult steps = .ok prior ∧
      (rollback cr.desiredOutcome prior connector s.outside).1 = .ok answer ∧
      result = markNoOp answer ∧ s'.undos = s.undos ++ [.executorRollback t name prior] := by
  have hno : ∀ reason, result ≠ .obj [("rolled_back",.bool false),("reason",.str reason)] := by
    rintro reason rfl
    rw [fallback_reason_failed] at hr
    cases hr
  rcases Py.tryExcept_eq_ok.mp h with h | ⟨e,u,_,h⟩
  · obtain ⟨steps,hsteps,h⟩ := Py.ofExcept_bind_eq_ok.mp h
    obtain ⟨connectorType,htype,h⟩ := Py.ofExcept_bind_eq_ok.mp h
    obtain ⟨actionId,haction,h⟩ := Py.ofExcept_bind_eq_ok.mp h
    obtain ⟨connectorId,hid,h⟩ := Py.ofExcept_bind_eq_ok.mp h
    obtain ⟨connector,hconnector,h⟩ := Py.ofExcept_bind_eq_ok.mp h
    rcases hmodule : fallbackModule env cr connectorType actionId with
      _ | ⟨t,name,execute,_ | rollback⟩ <;> rw [hmodule] at h
    case some.none | none =>
      obtain ⟨hres,_⟩ := Prod.mk.inj h
      exact absurd (Except.ok.inj hres).symm (hno _)
    obtain ⟨prior,hprior,h⟩ := Py.ofExcept_bind_eq_ok.mp h
    rw [Py.modify_bind] at h
    obtain ⟨answer,hanswer,h⟩ := Py.zoom_bind_eq_ok.mp h
    obtain ⟨hres,rfl⟩ := Prod.mk.inj h
    exact ⟨steps,connectorType,actionId,connectorId,connector,t,name,execute,rollback,prior,
      answer,hsteps,htype,haction,hid,hconnector,hmodule,hprior,hanswer,
      (Except.ok.inj hres).symm,by simp [Site.undos,Call.isUndo]⟩
  · obtain ⟨hres,_⟩ := Prod.mk.inj h
    exact absurd (Except.ok.inj hres).symm (hno _)

/-- The status of a plan that is rolled back is read off what its undo has returned. -/
theorem executeCrRollback_rolledBack (hexec : workflowExecutor w.cr.changeType = .planSteps)
    (h : executeCrRollback env [] w = (.ok result,w')) (hst : w'.cr.status = .rolledBack) :
    ∃ answer v, undoPlan env w.storedResult w = (.ok answer,v) ∧
      rollbackOutcome answer = .ok .rolledBack ∧ w' = v.setStatus .rolledBack := by
  rw [executeCrRollback_planSteps hexec,rollbackPlan] at h
  obtain ⟨answer,v,hundo,h⟩ := Py.bind_eq_ok.mp h
  obtain ⟨status,hstatus,h⟩ := Py.ofExcept_bind_eq_ok.mp h
  obtain ⟨_,rfl⟩ := Prod.mk.inj h
  obtain rfl : status = .rolledBack := hst
  exact ⟨answer,v,hundo,hstatus,rfl⟩

theorem executeCrRollback_fallback (hexec : workflowExecutor w.cr.changeType = .planSteps)
    (hplan : w.cr.steps.any declaresRollback = false)
    (h : executeCrRollback env [] w = (.ok result,w')) (hst : w'.cr.status = .rolledBack) :
    ∃ t name prior, FallbackSucceeds env w t name prior ∧
      w'.site.undos = w.site.undos ++ [.executorRollback t name prior] := by
  obtain ⟨answer,v,hundo,hstatus,rfl⟩ := executeCrRollback_rolledBack hexec h hst
  rw [undoPlan,Py.get_bind,hplan,if_neg Bool.false_ne_true,onSite,Py.zoom_run] at hundo
  obtain ⟨hok,rfl⟩ := Prod.mk.inj hundo
  obtain ⟨steps,connectorType,actionId,connectorId,connector,t,name,execute,rollback,prior,raw,
    hsteps,htype,haction,hid,hconnector,hmodule,hprior,hanswer,rfl,hcall⟩ :=
      executorFallback_success (Prod.ext hok rfl) hstatus
  exact ⟨t,name,prior,⟨steps,connectorType,actionId,connectorId,connector,execute,rollback,raw,
    hsteps,htype,haction,hid,hconnector,hmodule,hprior,hanswer,hstatus⟩,hcall⟩

theorem FallbackSucceeds.rolledBack {prior : Json}
    (hexec : workflowExecutor w.cr.changeType = .planSteps)
    (hplan : w.cr.steps.any declaresRollback = false) (h : FallbackSucceeds env w t name prior) :
    ∃ result w', executeCrRollback env [] w = (.ok result,w') ∧ w'.cr.status = .rolledBack ∧
      w'.site.undos = w.site.undos ++ [.executorRollback t name prior] := by
  obtain ⟨steps,connectorType,actionId,connectorId,connector,execute,rollback,answer,hsteps,htype,
    haction,hid,hconnector,hmodule,hprior,hanswer,hsuccess⟩ := h.found
  have hfallback : executorFallback env w.cr w.connectors w.storedResult w.site =
      (.ok (markNoOp answer),
        { w.site.log (.executorRollback t name prior) with
          outside := (rollback w.cr.desiredOutcome prior connector w.site.outside).2 }) := by
    refine Py.tryExcept_ok ?_ _
    rw [hsteps,Py.ofExcept_ok_bind,htype,Py.ofExcept_ok_bind,haction,Py.ofExcept_ok_bind,hid,
      Py.ofExcept_ok_bind,hconnector,Py.ofExcept_ok_bind,hmodule]
    exact Py.ofExcept_bind_eq_ok.mpr
      ⟨prior,hprior,Py.zoom_bind_eq_ok.mpr ⟨answer,hanswer,rfl⟩⟩
  have hundo : undoPlan env w.storedResult w = (.ok (markNoOp answer),{ w with site :=
      { w.site.log (.executorRollback t name prior) with
        outside := (rollback w.cr.desiredOutcome prior connector w.site.outside).2 } }) := by
    rw [undoPlan,Py.get_bind,hplan,if_neg Bool.false_ne_true,onSite,Py.zoom_run,hfallback]
  have hrun : executeCrRollback env [] w = (.ok (markNoOp answer),World.setStatus { w with site :=
      { w.site.log (.executorRollback t name prior) with
        outside := (rollback w.cr.desiredOutcome prior connector w.site.outside).2 } }
      .rolledBack) := by
    rw [executeCrRollback_planSteps hexec]
    exact Py.bind_eq_ok.mpr ⟨_,_,hundo,Py.ofExcept_bind_eq_ok.mpr ⟨_,hsuccess,rfl⟩⟩
  exact ⟨_,_,hrun,rfl,by simp [World.setStatus,Site.undos,Call.isUndo]⟩

end

/-- A plan without rollback actions is truly rolled back exactly when no rollback function for the
change reports success, or one step was completed and the function is that step's own. -/
theorem rolled_back_truly_iff {env : Env ω} {w : World ω} (rs : List StepRecord)
    (hexec : workflowExecutor w.cr.changeType = .planSteps)
    (hplan : w.cr.steps.any declaresRollback = false) :
    RolledBackTruly env w rs ↔
      ∀ t name prior, FallbackSucceeds env w t name prior → StandsForOne env rs t name prior := by
  constructor
  · intro htruly t name prior hsucc
    obtain ⟨result,w',hrun,hst,hundos⟩ := hsucc.rolledBack hexec hplan
    obtain ⟨calls,hcalls,hall⟩ := htruly result w' hrun hst
    obtain rfl := List.append_cancel_left (hundos.symm.trans hcalls)
    obtain ⟨r,rest,hundoes,hrest,hrs⟩ := List.forall₂_cons_right_iff.mp hall
    obtain rfl := List.forall₂_nil_right_iff.mp hrest
    obtain ⟨t',name',execute,rollback,connector,o,answer,hcall,hown,_⟩ := hundoes
    cases hcall
    exact ⟨r,by simpa using congrArg List.reverse hrs,rfl,hown⟩
  · intro hone result w' hrun hst
    obtain ⟨t,name,prior,hsucc,hundos⟩ := executeCrRollback_fallback hexec hplan hrun hst
    obtain ⟨r,rfl,rfl,hown⟩ := hone t name prior hsucc
    obtain ⟨steps,connectorType,actionId,connectorId,connector,execute,rollback,answer,_,_,_,_,_,
      hmodule,_,hanswer,hreports⟩ := hsucc.found
    refine ⟨_,hundos,.cons ⟨t,name,execute,rollback,connector,w.site.outside,answer,rfl,hown,
      fallbackModule_ok hmodule,hanswer,hreports⟩ .nil⟩

/-- An approved change with steps whose executors can undo them and whose plan declares no
rollback actions. -/
def sampleUndeclared (actions : List String) : World Unit :=
  sampleApproved (.generic "catalog_action")
    (some ⟨actions.mapIdx fun i action => sampleStep (i + 1) action none,[],[],""⟩) []

def sampleOk (number : Int) (action : String) : StepRecord := ⟨number,none,action,"aws",
  some "12345678-1234-5678-1234-567812345678",.obj [("ok",.bool true)]⟩

def sampleUndeclaredDone (actions : List String) : World Unit :=
  (executeChangeWorkflow sampleModules (sampleUndeclared actions)).2

theorem sample_rolled_back_truly :
    (RolledBackTruly sampleModules (sampleUndeclaredDone ["create_volume"])
        [sampleOk 1 "create_volume"] ↔
      ∀ t name prior, FallbackSucceeds sampleModules (sampleUndeclaredDone ["create_volume"])
        t name prior → StandsForOne sampleModules [sampleOk 1 "create_volume"] t name prior) ∧
    (executeCrRollback sampleModules [] (sampleUndeclaredDone ["create_volume"])).2.cr.status =
      .rolledBack := by
  have hexec : workflowExecutor (sampleUndeclaredDone ["create_volume"]).cr.changeType =
      .planSteps := rfl
  exact ⟨rolled_back_truly_iff _ hexec rfl,rfl⟩

/-- Two steps have run, and undoing the first one leaves the change rolled back. -/
theorem second_step_not_undone :
    (sampleUndeclaredDone ["create_volume","attach_volume"]).storedResult.get "execution" .null =
        .ok (stepRecords [sampleOk 1 "create_volume",sampleOk 2 "attach_volume"]) ∧
      (executeCrRollback sampleModules []
        (sampleUndeclaredDone ["create_volume","attach_volume"])).2.cr.status = .rolledBack ∧
      (executeCrRollback sampleModules []
        (sampleUndeclaredDone ["create_volume","attach_volume"])).2.site.undos =
          [.executorRollback "aws" "create_volume" (.obj [("ok",.bool true)])] ∧
      ¬RolledBackTruly sampleModules (sampleUndeclaredDone ["create_volume","attach_volume"])
        [sampleOk 1 "create_volume",sampleOk 2 "attach_volume"] := by
  refine ⟨rfl,rfl,rfl,fun h => ?_⟩
  obtain ⟨calls,hcalls,hall⟩ := h _ _ rfl rfl
  have hone : calls.length = 1 := (congrArg List.length hcalls).symm
  have htwo : [sampleOk 1 "create_volume",sampleOk 2 "attach_volume"].reverse.length =
      calls.length := hall.length_eq
  rw [hone] at htwo
  cases htwo

end Nexplane
