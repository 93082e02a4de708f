import Nexplane.PartialRollback

set_option autoImplicit false

/-! What executions and rollbacks leave alone on the site: properties that every action, and every
call to the outside, keeps. -/

namespace Nexplane
open PyValue

variable {ω : Type} {env : Env ω} {J : Site ω → Prop}

/-- A property that the writes of an execution to the site keep. -/
structure SiteWrites (env : Env ω) (J : Site ω → Prop) : Prop where
  action : ∀ connectorType actionId parameters assetIds connector,
    Py.Keeps J (executeAction env connectorType actionId parameters assetIds connector)
  outside : ∀ (s : Site ω) o, J s → J { s with outside := o }
  commit : ∀ s, J s → J s.commit
  close : ∀ s, J s → J s.close

theorem onSite_site {α : Type} {x : Py (Site ω) α} (hx : Py.Keeps J x) :
    Py.Keeps (fun w : World ω => J w.site) (onSite x) := fun w hw => hx w.site hw

theorem persistFanout_site (cr : ChangeRequest) (run : Option Nat) (result : Dict) :
    Py.Keeps (fun w : World ω => J w.site) (persistFanout cr run result) := by
  cases run with
  | some i => exact fun _ h => h
  | none => exact fun _ h => h

theorem pauseFanout_site (cr : ChangeRequest) (run : Option Nat) (consumers : List Json)
    (rotation : Json) (phase : String) :
    Py.Keeps (fun w : World ω => J w.site) (pauseFanout cr run consumers rotation phase) :=
  .bind (.ofExcept _) fun _ => .bind (persistFanout_site _ _ _) fun _ =>
    .bind (.modify fun _ h => h) fun _ => .pure _

section Execution

variable {cr : ChangeRequest} {connectors : List Connector} (hJ : SiteWrites env J)

include hJ

theorem SiteWrites.rows : RowWrites fun w : World ω => J w.site :=
  ⟨fun _ _ _ h => h,fun _ _ h => h,fun w o h => hJ.outside w.site o h⟩

theorem SiteWrites.workflow : WorkflowWrites fun w : World ω => J w.site :=
  ⟨fun _ _ h => by simpa using h,fun _ _ _ h => h,fun w o h => hJ.outside w.site o h⟩

theorem rotateStep_site (step : Json) : Py.Keeps J (rotateStep env cr connectors step) :=
  .bind (.ofExcept _) fun _ => .bind (.ofExcept _) fun _ => .bind (.ofExcept _) fun _ =>
    .bind (.ofExcept _) fun _ => (hJ.action _ _ _ _ _).bind fun _ =>
    .bind (.modify hJ.commit) fun _ => .pure _

theorem runSteps_site (carried : Dict) (steps : List PlanStep) :
    Py.Keeps J (runSteps env cr connectors carried steps) := by
  have hstep : ∀ carried step, Py.Keeps J (runStep env cr connectors carried step) := by
    intro carried step
    exact .bind .get fun _ => .bind (.ofExcept _) fun _ => (hJ.action _ _ _ _ _).bind fun _ =>
      .bind (.modify hJ.commit) fun _ => .pure _
  induction steps generalizing carried with
  | nil => exact .pure _
  | cons step steps ih =>
    exact .bind (hstep _ _) fun r => .ite (.pure _) (.bind (ih _) fun _ => .pure _)

theorem executePlanSteps_site :
    Py.Keeps (fun w : World ω => J w.site) (executePlanSteps env) :=
  .bind .get fun _ => .bind (onSite_site fun s hs =>
    hJ.close _ (runSteps_site hJ _ _ s hs)) fun _ => .pure _

theorem verifyConsumers_site (run : Option Nat) (searchTerms scanScope : Json)
    (consumers : List Json) (rotation : Json) : Py.Keeps (fun w : World ω => J w.site)
      (verifyConsumers env cr connectors run searchTerms scanScope consumers rotation) :=
  .bind (onOutside_keeps hJ.rows.results _) fun _ => .bind (.ofExcept _) fun _ =>
    .bind (.ofExcept _) fun _ => .bind (.ofExcept _) fun _ =>
    .ite (pauseFanout_site _ _ _ _ _) (.bind (.ofExcept _) fun _ =>
      .bind (persistFanout_site _ _ _) fun _ => .bind (.modify fun _ h => h) fun _ => .pure _)

theorem updateAndVerify_site (run : Option Nat) (phase newValue rotation : Json)
    (consumers : List Json) : Py.Keeps (fun w : World ω => J w.site)
      (updateAndVerify env cr connectors run phase newValue rotation consumers) := by
  refine .ite ?_ (.ite (verifyConsumers_site hJ _ _ _ _ _) (.bind (.ofExcept _) fun _ => .pure _))
  have hupdate : Py.Keeps (fun w : World ω => J w.site)
      (updatePhase env cr connectors run newValue rotation consumers) :=
    .bind (onOutside_keeps hJ.rows.results _) fun _ => .bind (.ofExcept _) fun _ =>
      .ite (.bind (pauseFanout_site _ _ _ _ _) fun _ => .pure _)
        (.bind (.ofExcept _) fun _ => .bind (persistFanout_site _ _ _) fun _ => .pure _)
  refine hupdate.bind fun outcome => ?_
  rcases outcome with paused | ⟨run,updated⟩
  · exact .pure _
  · exact verifyConsumers_site hJ _ _ _ _ _

theorem rotatePhase_site (progress : FanoutProgress) (rotateSpec : Json) (consumers : List Json) :
    Py.Keeps (fun w : World ω => J w.site)
      (rotatePhase env cr connectors progress rotateSpec consumers) := by
  have hrotate : Py.Keeps (fun w : World ω => J w.site)
      (rotateCredential env cr connectors rotateSpec) :=
    .bind (.ofExcept _) fun _ => .bind (.ofExcept _) fun _ => .tryExcept
      (.bind (.ofExcept _) fun _ => .bind (.ofExcept _) fun _ =>
        .bind (onSite_site (hJ.action _ _ _ _ _)) fun _ => .bind (.ofExcept _) fun _ => .pure _)
      fun e => .pure _
  have hadopt : ∀ value, Py.Keeps (fun w : World ω => J w.site) (adoptNewValue value) := by
    intro value
    cases value with
    | some v => exact .modify fun _ h => h
    | none => exact .pure _
  exact .ite (hrotate.bind fun _ => .bind (.ofExcept _) fun _ => .bind (hadopt _) fun _ =>
    .bind (persistFanout_site _ _ _) fun _ => .pure _) (.pure _)

theorem executeCredentialRotationFanout_site :
    Py.Keeps (fun w : World ω => J w.site) (executeCredentialRotationFanout env) := by
  refine .bind .get fun w => .bind (.ofExcept _) fun consumers =>
    .bind (rotatePhase_site hJ _ _ _) fun progress => .ite ?_ (updateAndVerify_site hJ _ _ _ _ _)
  have hscan : Py.Keeps (fun w : World ω => J w.site) (scanConsumers env w.cr w.connectors
      progress.run (w.cr.desiredOutcome.getD "search_terms" (.arr []))
      (w.cr.desiredOutcome.getD "scan_scope" (.arr [])) progress.rotation) :=
    .bind (onOutside_keeps hJ.rows.results _) fun _ => .bind (.ofExcept _) fun _ =>
      .bind (.ofExcept _) fun _ => .bind (persistFanout_site _ _ _) fun _ => .pure _
  exact hscan.bind fun _ => updateAndVerify_site hJ _ _ _ _ _

theorem Executor.run_site (executor : Executor) :
    Py.Keeps (fun w : World ω => J w.site) (executor.run env) := by
  cases executor <;> rw [Executor.run]
  case identityFanOut => exact .bind .get fun _ => onOutside_keeps hJ.rows.results _
  case referenceScan => exact .bind .get fun _ => onOutside_keeps hJ.rows.results _
  case executeSteps =>
    exact executeSteps_keeps hJ.rows fun _ _ _ => onSite_site (rotateStep_site hJ _)
  case certificateRotation => exact executeCertificateRotation_keeps hJ.rows
  case credentialFanout => exact executeCredentialRotationFanout_site hJ
  case k8sClusterUpgrade => exact executeK8sClusterUpgrade_keeps hJ.rows
  case imageTransfer => exact .bind .get fun _ => onOutside_keeps hJ.rows.results _
  case planSteps => exact executePlanSteps_site hJ

/-- The execution of a change keeps what its actions keep. -/
theorem executeChangeWorkflow_site :
    Py.Keeps (fun w : World ω => J w.site) (executeChangeWorkflow env) := by
  intro w hw
  cases hrisk : w.cr.riskLevel with
  | none =>
    rw [executeChangeWorkflow,Py.get_bind,if_pos (by simp [hrisk])]
    exact hw
  | some risk =>
    have hkept : J (activityExecuteChange env (w.markStatus .executing)).2.site :=
      Py.Keeps.bind .get (fun _ => Executor.run_site hJ _) (w.markStatus .executing)
        (by simpa using hw)
    rw [executeChangeWorkflow_eq (by simp [hrisk])]
    rcases hrun : activityExecuteChange env (w.markStatus .executing) with ⟨e | result,v⟩
    · rw [hrun] at hkept
      exact recordException_frame hJ.workflow _ e v hkept
    · rw [hrun] at hkept
      exact recordOutcome_frame hJ.workflow _ _ _ _ result v hkept

end Execution

/-- A property that the rollbacks without an inventory of their own keep. -/
structure UndoWrites (J : Site ω → Prop) : Prop where
  log : ∀ (s : Site ω) c, J s → J (s.log c)
  outside : ∀ (s : Site ω) o, J s → J { s with outside := o }

theorem endWarned_site {x : Py (World ω) Json} (hx : Py.Keeps (fun w => J w.site) x) :
    Py.Keeps (fun w : World ω => J w.site) (endWarned x) :=
  hx.bind fun _ => .bind (.modify fun _ h => h) fun _ => .pure _

section Rollback

variable {cr : ChangeRequest} {connectors : List Connector} (hJ : UndoWrites J)

include hJ

theorem filoStep_site (step : Json) : Py.Keeps J (filoStep env cr connectors step) :=
  fun s hs => filoStep_frame hJ.outside step s (hJ.log s _ hs)

theorem undoDependent_site (strategy : String) (dep : Json) :
    Py.Keeps J (undoDependent env cr connectors strategy dep) :=
  fun s hs => undoDependent_frame hJ.outside strategy dep s (hJ.log s _ hs)

theorem undoPool_site (creds : Dict) (provider pool : Json) :
    Py.Keeps J (undoPool env creds provider pool) := by
  refine .bind (.modify fun s h => hJ.log s _ h) fun _ => .bind (.ofExcept _) fun _ =>
    .bind (.ofExcept _) fun _ => .bind (.ofExcept _) fun _ => .ite ?_ (.ite (.pure _) (.pure _))
  refine .bind (.attempt (outside_keeps hJ.outside _)) fun outcome => ?_
  cases outcome with
  | ok fields => exact .pure _
  | error e => exact .pure _

theorem unwindConsumer_site (consumer : Json) :
    Py.Keeps J (unwindConsumer env connectors consumer) :=
  .bind (.ofExcept _) fun _ => .ite
    (.bind (.modify fun s h => hJ.log s _ h) fun _ => .bind (outside_keeps hJ.outside _) fun _ =>
      .bind (.ofExcept _) fun _ => .bind (.ofExcept _) fun _ => .pure _)
    (.bind (.ofExcept _) fun _ => .pure _)

theorem executorFallback_site (executionResult : Json) :
    Py.Keeps J (executorFallback env cr connectors executionResult) := by
  refine .tryExcept ?_ fun e => .pure _
  refine .bind (.ofExcept _) fun steps => .bind (.ofExcept _) fun connectorType =>
    .bind (.ofExcept _) fun actionId => .bind (.ofExcept _) fun connectorId =>
    .bind (.ofExcept _) fun connector => ?_
  rcases fallbackModule env cr connectorType actionId with _ | ⟨t,name,execute,_ | rollback⟩
  · exact .pure _
  · exact .pure _
  · exact .bind (.ofExcept _) fun prior => .bind (.modify fun s h => hJ.log s _ h) fun _ =>
      .bind (outside_keeps hJ.outside _) fun _ => .pure _

theorem onOutside_site {α : Type} (x : Py ω α) :
    Py.Keeps (fun w : World ω => J w.site) (onOutside x) :=
  onSite_site (outside_keeps hJ.outside x)

theorem executeK8sClusterUpgradeRollback_site (executionResult : Json) :
    Py.Keeps (fun w : World ω => J w.site)
      (executeK8sClusterUpgradeRollback env executionResult) := by
  refine .bind .get fun u => .bind (.ofExcept _) fun pools => .ite (.pure _) ?_
  refine .bind (.ofExcept _) fun recorded => ?_
  dsimp only
  split
  · exact .pure _
  · exact .bind (.ofExcept _) fun _ =>
      .bind (onSite_site (.each (fun _ => undoPool_site hJ _ _ _) _)) fun _ => .pure _

/-- The executors that the workflow calls for their own change types are asked to undo. -/
theorem activityExecuteRollback_frame {w : World ω} (steps : List PlanStep) (executionResult : Json)
    (hct : isFanOutChangeType w.cr.changeType = true ∨ w.cr.changeType = .scanForReferences ∨
      w.cr.changeType = .containerImageTransfer) (hw : J w.site) :
    J (activityExecuteRollback env steps executionResult w).2.site := by
  rw [activityExecuteRollback,Py.get_bind]
  rcases hct with hct | hct | hct
  · rw [if_pos hct]
    exact onOutside_site hJ _ w hw
  · rw [hct]
    exact hw
  · rw [hct]
    exact Py.Keeps.bind (.ofExcept _) (fun _ => onOutside_site hJ _) w hw

theorem rollbackPlan_frame {w : World ω} (executionResult : Json)
    (hct : isFanOutChangeType w.cr.changeType = true ∨ w.cr.changeType = .scanForReferences ∨
      w.cr.changeType = .containerImageTransfer) (hw : J w.site) :
    J (rollbackPlan env executionResult w).2.site := by
  rw [rollbackPlan_site,undoPlan,Py.get_bind]
  by_cases hany : w.cr.steps.any declaresRollback = true
  · rw [if_pos hany]
    exact activityExecuteRollback_frame hJ _ _ hct hw
  · rw [if_neg hany]
    exact executorFallback_site hJ _ w.site hw

/-- The rollback of a change that is not executed by its plan steps. -/
theorem executeCrRollback_site {w : World ω} (extra : Dict)
    (hexec : workflowExecutor w.cr.changeType ≠ .planSteps) (hw : J w.site) :
    J (executeCrRollback env extra w).2.site := by
  rw [executeCrRollback,Py.get_bind]
  cases hct : w.cr.changeType <;> rw [hct] at hexec <;> first
    | exact absurd rfl hexec
    | exact rollbackPlan_frame hJ _ (by simp [hct,isFanOutChangeType]) hw
    | skip
  case credentialRotation =>
    exact endWarned_site (.bind .get fun _ => .bind (.ofExcept _) fun _ =>
      .bind (onSite_site (.each (fun _ => filoStep_site hJ _) _)) fun _ =>
      .bind (.ofExcept _) fun _ => .pure _) w hw
  case certificateRotation =>
    exact endWarned_site (.bind .get fun _ => .bind (.ofExcept _) fun _ => .bind (.ofExcept _)
      fun _ => .bind (.ofExcept _) fun _ =>
      .bind (onSite_site (.each (fun _ => undoDependent_site hJ _ _) _)) fun _ => .pure _) w hw
  case credentialRotationFanout =>
    exact endWarned_site (.bind .get fun _ => .bind (.ofExcept _) fun _ =>
      .bind (onSite_site (.each (fun _ => unwindConsumer_site hJ _) _)) fun _ =>
      .bind (.ofExcept _) fun _ => .pure _) w hw
  case k8sClusterUpgrade =>
    exact endWarned_site (executeK8sClusterUpgradeRollback_site hJ _) w hw

end Rollback

end Nexplane
