import Nexplane.ExecutorRollback
import Nexplane.FanOutExecution

set_option autoImplicit false

/-! The rollback of an identity fan-out after its workflow, against what becomes of its children. -/

namespace Nexplane
open PyValue

variable {ρ : Type}

/-- The row of the child says that it has been rolled back. -/
def ChildRolledBack (s : FanOutStore ρ) (id : Uuid) : Prop :=
  ∃ child, (s.children.find? fun c => c.id = id) = some child ∧
    child.status ∈ [ChangeRequestStatus.rolledBack,.rolledBackWithWarnings]

/-- `rolled_back` is false, or the status is partial or failed. -/
def flagsFailure (report : Json) : Bool :=
  match report with
  | .obj d =>
    (match Dict.getD d "rolled_back" .null with
      | .bool false => true
      | _ => false) ||
      (Dict.getD d "status" .null).isStr "partial" || (Dict.getD d "status" .null).isStr "failed"
  | _ => false

/-- The children that a fan-out reports as spawned. -/
def spawnedChildren (reports : List ChildReport) : List Uuid :=
  reports.filterMap fun r => r.outcome.toOption

/-- The workflow of a fan-out has ended, and its executor has returned these reports. -/
structure RecordedFanOut (env : Env (FanOutStore ρ)) (ops : FanOutOps ρ)
    (modules : String → String → Except Exc (ExecutorModule ρ)) (w w₁ : World (FanOutStore ρ))
    (profile : IdentityProfile) (reports : List ChildReport) : Prop where
  fanOut : isFanOutChangeType w.cr.changeType = true
  riskLevel : w.cr.riskLevel.isSome
  runs : w.runs ≠ []
  executed : (fanOutExecute ops (w.setStatus .executing).cr w.site.outside).1 =
    .ok (fanOutResult w.cr profile reports)
  recorded : w₁ = (executeChangeWorkflow (env.withFanOut ops modules) w).2

/-- The parent ends rolled back only if all of these children have been rolled back, and the report
of its executor says so if one has not. -/
structure ChildrenUndone (env : Env (FanOutStore ρ)) (ops : FanOutOps ρ)
    (modules : String → String → Except Exc (ExecutorModule ρ)) (w : World (FanOutStore ρ))
    (ids : List Uuid) : Prop where
  status : ∀ result w', executeCrRollback (env.withFanOut ops modules) [] w = (.ok result,w') →
    w'.cr.status = .rolledBack → ∀ id ∈ ids, ChildRolledBack w'.site.outside id
  report : ∀ report s, fanOutRollback ops w.storedResult w.site.outside = (.ok report,s) →
    (∃ id ∈ ids, ¬ChildRolledBack s id) → flagsFailure report = true

section Reports

variable {ops : FanOutOps ρ} {s s' : FanOutStore ρ} {executionResult report : Json}

def noChildrenReport : Json :=
  .obj [("rolled_back",.bool true),("reason",.str "no child CRs to roll back")]

def childrenReport (rollbacks : List ChildRollback) : Json :=
  .obj [("rolled_back",.bool true),("status",.str (childRollbackStatus rollbacks)),
    ("child_rollbacks",.arr (rollbacks.map ChildRollback.toJson))]

theorem fanOutRollback_cases (h : fanOutRollback ops executionResult s = (.ok report,s')) :
    report = noChildrenReport ∨ ∃ rollbacks, report = childrenReport rollbacks := by
  obtain ⟨childCrs,_,h⟩ := Py.ofExcept_bind_eq_ok.mp h
  obtain ⟨ids,_,h⟩ := Py.ofExcept_bind_eq_ok.mp h
  split at h
  · exact Or.inl (Except.ok.inj (Prod.mk.inj h).1).symm
  · obtain ⟨_,_,h⟩ := Py.ofExcept_bind_eq_ok.mp h
    obtain ⟨rollbacks,t,_,h⟩ := Py.bind_eq_ok.mp h
    exact Or.inr ⟨rollbacks,(Except.ok.inj (Prod.mk.inj h).1).symm⟩

/-- In the envelope of the workflow there are no children to be found. -/
theorem fanOutRollback_nested (ops : FanOutOps ρ) (result verification : Json) (s : FanOutStore ρ) :
    fanOutRollback ops (.obj [("execution",result),("verification",verification)]) s =
      (.ok noChildrenReport,s) := rfl

end Reports

section Rollback

variable {env : Env (FanOutStore ρ)} {ops : FanOutOps ρ}
  {modules : String → String → Except Exc (ExecutorModule ρ)} {w w₁ w₂ : World (FanOutStore ρ)}
  {profile : IdentityProfile} {reports : List ChildReport}

/-- What the rollback of a fan-out reads: the envelope of its workflow. -/
theorem RecordedFanOut.stored (h : RecordedFanOut env ops modules w w₁ profile reports)
    (hl : LaterState w w₁ w₂) : ∃ verification, w₂.storedResult =
      .obj [("execution",fanOutResult w.cr profile reports),("verification",verification)] := by
  obtain ⟨later,hruns,hlater⟩ := hl.runs
  have hrun : fanOutExecute ops (w.setStatus .executing).cr w.site.outside =
      (.ok (fanOutResult w.cr profile reports),_) := Prod.ext h.executed rfl
  let v := w.fannedOut (fanOutExecute ops (w.setStatus .executing).cr w.site.outside).2
  obtain ⟨verification,hrecord⟩ := verifyChange_run (env.withFanOut ops modules) v
    (w.runs.length - 1) w.cr.changePlan w.cr.steps (fanOutResult w.cr profile reports)
  obtain ⟨init,r,hinit⟩ := modify_last h.runs fun r : ExecutionRun =>
    { r with
      status := .completed
      result := [("execution",fanOutResult w.cr profile reports),("verification",verification)] }
  rw [h.recorded,fanOutWorkflow_ok h.fanOut h.riskLevel hrun (fanOutExecute_plain hrun),
    latestRun_of_ne_nil h.runs,hrecord.trans hinit] at hruns
  exact ⟨verification,congrArg Json.obj (runResult_loaded hruns rfl hlater)⟩

theorem executeCrRollback_fanOut (h : isFanOutChangeType w.cr.changeType = true) :
    executeCrRollback env [] w =
      rollbackPlan env (.obj (w.runResult (loadedRun w.runs))) w := by
  rw [executeCrRollback,Py.get_bind]
  cases hct : w.cr.changeType <;> simp_all [isFanOutChangeType,Dict.merge]

theorem executorFallback_children (cr : ChangeRequest) (connectors : List Connector)
    (executionResult : Json) (children : List ChildRequest) :
    Py.Keeps (fun s : Site (FanOutStore ρ) => s.outside.children = children)
      (executorFallback (env.withFanOut ops modules) cr connectors executionResult) := by
  refine .tryExcept ?_ fun e => .pure _
  refine .bind (.ofExcept _) fun steps => .bind (.ofExcept _) fun connectorType =>
    .bind (.ofExcept _) fun actionId => .bind (.ofExcept _) fun connectorId =>
    .bind (.ofExcept _) fun connector => ?_
  rcases hmodule : fallbackModule (env.withFanOut ops modules) cr connectorType actionId with
    _ | ⟨t,name,execute,_ | rollback⟩
  · exact .pure _
  · exact .pure _
  · obtain ⟨module,hfound,hlift⟩ : ∃ module, modules t name = .ok module ∧
        module.lift = ⟨execute,some rollback⟩ := by
      have hget := fallbackModule_ok hmodule
      cases hm : modules t name with
      | error e => simp [Env.withFanOut,hm,Except.map] at hget
      | ok module => exact ⟨module,rfl,by simpa [Env.withFanOut,hm,Except.map] using hget⟩
    refine .bind (.ofExcept _) fun prior => .bind (.modify fun _ h => h) fun _ =>
      .bind (fun s hs => ?_) fun _ => .pure _
    cases hrb : module.rollback with
    | none => simp [ExecutorModule.lift,hrb] at hlift
    | some inner =>
      obtain ⟨_,rfl⟩ : _ ∧ (fun parameters prior connector =>
          managedOnly (inner parameters prior connector)) = rollback := by
        simpa [ExecutorModule.lift,hrb] using hlift
      exact hs

/-- A rollback that reads the envelope of the workflow leaves all children as they are. -/
theorem executeCrRollback_children (env : Env (FanOutStore ρ)) (ops : FanOutOps ρ)
    (modules : String → String → Except Exc (ExecutorModule ρ))
    (h : isFanOutChangeType w.cr.changeType = true)
    {result verification : Json}
    (hs : w.storedResult = .obj [("execution",result),("verification",verification)]) :
    (executeCrRollback (env.withFanOut ops modules) [] w).2.site.outside.children =
      w.site.outside.children := by
  have hread : Json.obj (w.runResult (loadedRun w.runs)) =
      .obj [("execution",result),("verification",verification)] := hs
  rw [executeCrRollback_fanOut h,rollbackPlan_site,hread,undoPlan,Py.get_bind]
  split
  · rw [activityExecuteRollback,Py.get_bind,if_pos h]
    rfl
  · exact executorFallback_children _ _ _ _ w.site rfl

theorem ChildRolledBack.of_children {s s' : FanOutStore ρ} (h : s'.children = s.children)
    {id : Uuid} (hs : ChildRolledBack s id) : ChildRolledBack s' id := by
  obtain ⟨child,hfind,hstatus⟩ := hs
  exact ⟨child,by rw [h,hfind],hstatus⟩

end Rollback

/-- A lockout whose plan lists the action on the account and how to take it back. -/
def sampleLockoutPlanned : World (FanOutStore Unit) :=
  sampleFanOutWorld
    { sampleLockoutRequest with
      changePlan :=
        some ⟨[sampleStep 1 "suspend_user" (some "unsuspend_user")],[],[],""⟩ }
    (sampleStore "okta")

def sampleLockoutDone : World (FanOutStore Unit) :=
  (executeChangeWorkflow (sampleFanOutEnv (.ok ())) sampleLockoutPlanned).2

def sampleReports : List ChildReport := [⟨"okta","suspend_user",.ok "0"⟩]

theorem sampleLockout_recorded :
    RecordedFanOut (Env.ofModules fun _ _ => .error (.keyError "action")) (sampleFanOutOps (.ok ()))
      (fun _ _ => .error (.keyError "action")) sampleLockoutPlanned sampleLockoutDone
      (sampleProfile "okta") sampleReports :=
  ⟨rfl,rfl,by simp [sampleLockoutPlanned,sampleFanOutWorld],rfl,rfl⟩

/-- The children of the lockout after somebody has rolled back each of them. -/
def sampleChildrenUndone : World (FanOutStore Unit) :=
  { sampleLockoutDone with
    site := { sampleLockoutDone.site with
      outside := { sampleStore "okta" with
        children := [{ sampleChild with status := .rolledBack }] } } }

end Nexplane
