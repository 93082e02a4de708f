import Nexplane.FanoutRuns
import Nexplane.Lib.Triple
import Nexplane.Workflow

set_option autoImplicit false

/-! What each executor leaves in the status of its change and of the run that the workflow works
on. -/

namespace Nexplane
open PyValue

variable {ω : Type}

/-- The status of the change, and of its run at a place. -/
def World.statuses (w : World ω) (i : Nat) : ChangeRequestStatus × Option ExecutionStatus :=
  (w.cr.status,(w.run? i).map ExecutionRun.status)

/-- The executors of credential and certificate rotations complete their change and its run
themselves, and all but the one of certificate rotations pause their change. -/
def executorStatuses (changeType : ChangeType) (result : Json) (status : ChangeRequestStatus) :
    ChangeRequestStatus × Option ExecutionStatus :=
  match changeType with
  | .credentialRotation =>
    if result.flag "paused" then (.paused,some .pending) else (.completed,some .completed)
  | .certificateRotation =>
    if result.flag "paused" then (status,some .pending) else (.completed,some .completed)
  | .credentialRotationFanout =>
    if result.flag "paused" then (.paused,some .pending) else (status,some .pending)
  | .k8sClusterUpgrade =>
    if result.flag "paused" then (.paused,some .pending) else (status,some .pending)
  | _ => (status,some .pending)

section Statuses

variable {w w' : World ω} {i j : Nat} {b : ChangeRequestStatus × Option ExecutionStatus}

theorem statuses_setRun (f : ExecutionRun → ExecutionRun) (h : ∀ r, (f r).status = r.status) :
    (w.setRun j f).statuses i = w.statuses i := by
  by_cases hij : j = i
  · subst hij
    simp [World.statuses,World.run?,World.setRun,Function.comp_def,h]
  · simp [World.statuses,World.run?,World.setRun,hij]

theorem statuses_setRun_self (f : ExecutionRun → ExecutionRun) {r : ExecutionRun}
    (h : w.run? i = some r) : (w.setRun i f).statuses i = (w.cr.status,some (f r).status) := by
  have hr : w.runs[i]? = some r := h
  simp [World.statuses,World.run?,World.setRun,hr]

theorem statuses_setRun_ne (f : ExecutionRun → ExecutionRun) (h : j ≠ i) :
    (w.setRun j f).statuses i = w.statuses i := by
  simp [World.statuses,World.run?,World.setRun,h]

@[simp] theorem statuses_setStatus (status : ChangeRequestStatus) :
    (w.setStatus status).statuses i = (status,(w.statuses i).2) := rfl

theorem statuses_run {status : ExecutionStatus} (h : (w.statuses i).2 = some status) :
    ∃ r, w.run? i = some r ∧ r.status = status := by
  simpa [World.statuses] using h

/-- A pending run is the newest active one, if it is the newest of all. -/
theorem latestRun_pending (hlast : w.runs.length = i + 1)
    (h : (w.statuses i).2 = some .pending) : latestRun isActiveRun w.runs = some i := by
  obtain ⟨r,hr,hpending⟩ := statuses_run h
  rcases List.eq_nil_or_concat w.runs with hnil | ⟨init,last,hruns⟩
  · simp [hnil] at hlast
  · have hi : init.length = i := by simpa [hruns] using hlast
    have hget : w.runs[i]? = some r := hr
    obtain rfl : last = r := by simpa [hruns,← hi] using hget
    rw [hruns,List.concat_eq_append,latestRun_concat (by simp [isActiveRun,hpending]),hi]

theorem statuses_results : ResultWrites fun w : World ω => w.statuses i = b :=
  ⟨fun _ _ d h => (statuses_setRun (fun r => { r with result := d }) fun _ => rfl).trans h,
    fun _ _ h => h⟩

end Statuses

/-- The run at the place is pending. -/
def RunPending (i : Nat) (w : World ω) : Prop := (w.statuses i).2 = some .pending

/-- The change has the status, and the run is pending. -/
def PendingAt (i : Nat) (status : ChangeRequestStatus) (w : World ω) : Prop :=
  w.statuses i = (status,some .pending)

theorem PendingAt.run {w : World ω} {i : Nat} {status : ChangeRequestStatus}
    (h : PendingAt i status w) : RunPending i w := congrArg Prod.snd h

theorem PendingAt.setStatus {w : World ω} {i : Nat} {status : ChangeRequestStatus}
    (h : PendingAt i status w) (s : ChangeRequestStatus) : PendingAt i s (w.setStatus s) := by
  rw [PendingAt,statuses_setStatus,h]

theorem completedAt_setRun {w : World ω} {i : Nat} {status : ChangeRequestStatus}
    (h : PendingAt i status w) (f : ExecutionRun → ExecutionRun) {s : ExecutionStatus}
    (hf : ∀ r, (f r).status = s) : (w.setRun i f).statuses i = (status,some s) := by
  obtain ⟨r,hr,_⟩ := statuses_run h.run
  rw [statuses_setRun_self f hr,hf]
  exact congrArg (·,some s) (congrArg Prod.fst h)

/-- From a state with `P`, an executor returns with the statuses that a change of this type is
left in, or raises with the run still pending. -/
def LeavesStatuses (i : Nat) (changeType : ChangeType) (status : ChangeRequestStatus)
    (P : World ω → Prop) (x : Py (World ω) Json) : Prop :=
  Py.Triple P x (fun result w => w.statuses i = executorStatuses changeType result status)
    (RunPending i)

/-- The pending run is the newest one. -/
def NewestPending (i : Nat) (status : ChangeRequestStatus) (w : World ω) : Prop :=
  w.runs.length = i + 1 ∧ PendingAt i status w

theorem newestPending_results (i : Nat) (status : ChangeRequestStatus) :
    ResultWrites (NewestPending (ω := ω) i status) where
  result := fun w j d h => ⟨by simpa [World.setRun] using h.1,statuses_results.result w j d h.2⟩
  outside := fun _ _ h => h

section Rotation

variable {env : Env ω} {cr : ChangeRequest} {connectors : List Connector} {i : Nat}
  {status : ChangeRequestStatus} {run : Option Nat}

/-- The loop over the steps pauses the change when it stops at a step. -/
theorem rotateSteps_statuses (shared : Bool) (done todo : List Json) :
    Py.Triple (NewestPending (ω := ω) i status)
      (rotateSteps env cr connectors run shared done todo)
      (fun outcome => NewestPending i (if outcome.2.isSome then .paused else status))
      (RunPending i) := by
  have hrun : ∀ w : World ω, NewestPending i status w → RunPending i w := fun _ h => h.2.run
  have hpersist := fun shared steps =>
    persistSteps_keeps (newestPending_results (ω := ω) i status) run shared steps
  induction todo generalizing shared done with
  | nil => exact .pure fun _ h => h
  | cons step todo ih =>
    refine .ofExcept_bind hrun fun needed _ => .ite (fun _ => ih _ _) fun _ => ?_
    refine .ofExcept_bind hrun fun executing _ => .keeps_bind hrun (hpersist _ _) fun _ =>
      .attempt_bind (fun _ h => h) fun outcome => ?_
    cases outcome with
    | ok result =>
      exact .ofExcept_bind hrun fun _ _ => .ofExcept_bind hrun fun _ _ =>
        .keeps_bind hrun (hpersist _ _) fun _ => ih _ _
    | error e =>
      refine .ofExcept_bind hrun fun index _ => .ofExcept_bind hrun fun _ _ =>
        .ofExcept_bind hrun fun _ _ => .ofExcept_bind hrun fun _ _ => .ofExcept_bind hrun
        fun _ _ => .keeps_bind hrun (hpersist _ _) fun _ => ?_
      exact .modify_bind (fun w h => ⟨h.1,h.2.setStatus .paused⟩) (.pure fun _ h => h)

theorem executeSteps_leaves : LeavesStatuses i .credentialRotation status
    (NewestPending (ω := ω) i status) (executeSteps env) := by
  refine .get_bind fun w _ => .ofExcept_bind (fun _ h => h.2.run) fun steps _ =>
    .bind (rotateSteps_statuses _ _ _) fun outcome => ?_
  obtain ⟨steps,index⟩ := outcome
  cases index with
  | some index => exact .pure fun _ h => h.2
  | none =>
    have hset : ∀ v : World ω, NewestPending i status v →
        NewestPending i .completed (v.setStatus .completed) :=
      fun v h => ⟨h.1,h.2.setStatus .completed⟩
    refine .modify_bind hset (.get_bind fun v hv => ?_)
    have hactive : latestRun isActiveRun v.runs = some i := latestRun_pending hv.1 hv.2.run
    dsimp only
    rw [hactive]
    refine .modify_bind (fun u h => ?_) (.pure fun _ h => h)
    exact completedAt_setRun h.2 _ fun _ => rfl

theorem certificate_flag {dependents : List Json} {rotation result : Json} {phase : String}
    {paused : Bool} (h : buildCertificateResult dependents rotation phase paused = .ok result) :
    result.flag "paused" = paused := by
  obtain ⟨warns,_,h⟩ := Checks.bind_eq_ok.mp h
  obtain rfl := Except.ok.inj h
  rfl

theorem rotateAndVerify_leaves (dependents : List Json) (rotation : Json) :
    LeavesStatuses i .certificateRotation status (PendingAt (ω := ω) i status)
      (rotateAndVerify env cr connectors (some i) dependents rotation) := by
  have hrun : ∀ w : World ω, PendingAt i status w → RunPending i w := fun _ h => h.run
  refine .keeps_bind hrun (rotateOnce_keeps statuses_results _ _) fun rotated =>
    .keeps_bind hrun (completePhase_keeps statuses_results _ _ _ _ _) fun updated =>
    .ofExcept_bind hrun fun failures _ => .ite (fun _ => ?_) fun _ => ?_
  · refine .ofExcept hrun fun result hresult w h => ?_
    rw [executorStatuses,certificate_flag hresult,if_pos rfl]
    exact h
  refine .keeps_bind hrun (completePhase_keeps statuses_results _ _ _ _ _) fun verified =>
    .ofExcept_bind hrun fun successes _ => .ofExcept_bind hrun fun result hresult =>
    .ite (fun hdone => ?_) fun hpaused => ?_
  · refine .ofExcept_bind hrun fun stored _ => .modify_bind (fun w h => h.setStatus .completed) ?_
    refine .modify_bind (fun w h => ?_) (.pure fun _ h => h)
    rw [executorStatuses,certificate_flag hresult,hdone]
    exact completedAt_setRun h _ fun _ => rfl
  · refine .pure fun w h => ?_
    rw [executorStatuses,certificate_flag hresult,if_pos (by simpa using hpaused)]
    exact h

theorem executeCertificateRotation_leaves : LeavesStatuses i .certificateRotation status
    (NewestPending (ω := ω) i status) (executeCertificateRotation env) := by
  refine .get_bind fun w hw => ?_
  have hactive : currentRun w.runs = some i := by
    rw [currentRun,latestRun_pending hw.1 hw.2.run]
    rfl
  rw [hactive]
  exact .keeps_bind (fun _ h => h.2.run) (scanOnce_keeps (newestPending_results i status) _)
    fun scanned => .keeps_bind (fun _ h => h.2.run)
    (snapshotOnce_keeps (newestPending_results i status) _ _) fun snapshotted =>
    (rotateAndVerify_leaves _ _).mono_pre fun _ h => h.2

end Rotation

section Upgrade

variable {env : Env ω} {i : Nat} {status : ChangeRequestStatus} {desired creds : Dict}
  {result : Dict}

theorem endUpgrade_leaves (hpaused : Dict.get? result "paused" = none) :
    LeavesStatuses i .k8sClusterUpgrade status (PendingAt (ω := ω) i status)
      (endUpgrade result) := by
  have hflag : (Json.obj result).flag "paused" = false := by
    simp [Json.flag,Dict.truthy,Dict.getD,hpaused,Json.truthy]
  refine .keeps_bind (fun _ h => h.run) (persistResult_keeps statuses_results _) fun _ =>
    .pure fun w h => ?_
  rw [executorStatuses,hflag]
  exact h

theorem pauseUpgrade_leaves (result : Dict) : LeavesStatuses i .k8sClusterUpgrade status
    (PendingAt (ω := ω) i status) (pauseUpgrade result) := by
  have hflag : (Json.obj (result.set "paused" (.bool true))).flag "paused" = true := by
    simp [Json.flag,Dict.truthy,Dict.getD,Json.truthy]
  refine .keeps_bind (fun _ h => h.run) (persistResult_keeps statuses_results _) fun _ =>
    .modify_bind (fun w h => h.setStatus .paused) (.pure fun w h => ?_)
  rw [executorStatuses,hflag]
  exact h

theorem verifyUpgrade_leaves (targetPatch : String) (hpaused : Dict.get? result "paused" = none) :
    LeavesStatuses i .k8sClusterUpgrade status (PendingAt (ω := ω) i status)
      (verifyUpgrade env desired creds targetPatch result) := by
  refine .keeps_bind (fun _ h => h.run) (persistResult_keeps statuses_results _) fun _ =>
    .keeps_bind (fun _ h => h.run) (onOutside_keeps statuses_results _) fun verify =>
    .ite (fun _ => endUpgrade_leaves ?_) fun _ => pauseUpgrade_leaves _
  simp [Dict.get?_set_of_ne,hpaused]

theorem upgradePools_leaves (provider currentVersion targetPatch : String) (clusterName : Json)
    (hpaused : Dict.get? result "paused" = none) :
    LeavesStatuses i .k8sClusterUpgrade status (PendingAt (ω := ω) i status)
      (upgradePools env desired creds provider currentVersion targetPatch clusterName result) := by
  refine .keeps_bind (fun _ h => h.run) (persistResult_keeps statuses_results _) fun _ =>
    .keeps_bind (fun _ h => h.run) (onOutside_keeps statuses_results _) fun nodes =>
    .get_bind fun w _ => .keeps_bind (fun _ h => h.run) (onOutside_keeps statuses_results _)
    fun pool => .ite (fun _ => pauseUpgrade_leaves _) fun _ => verifyUpgrade_leaves _ ?_
  simp [Dict.get?_set_of_ne,hpaused]

theorem upgradeCluster_leaves (connector : Connector) (currentVersion : String) :
    LeavesStatuses i .k8sClusterUpgrade status (PendingAt (ω := ω) i status)
      (upgradeCluster env desired creds connector currentVersion) := by
  have hfresh : ∀ targetVersion provider clusterName clusterId, Dict.get?
      (buildInitialResult currentVersion targetVersion provider clusterName clusterId) "paused" =
        none := fun _ _ _ _ => rfl
  refine .keeps_bind (fun _ h => h.run) (onOutside_keeps statuses_results _) fun preflight => ?_
  obtain ⟨preflight,targetPatch,failed⟩ := preflight
  refine .ite (fun _ => endUpgrade_leaves ?_) fun _ => .ite (fun _ => endUpgrade_leaves ?_)
    fun _ => .keeps_bind (fun _ h => h.run) (persistResult_keeps statuses_results _) fun _ =>
    .keeps_bind (fun _ h => h.run) (onOutside_keeps statuses_results _) fun controlPlane =>
    .ite (fun _ => upgradePools_leaves _ _ _ _ ?_) fun _ => endUpgrade_leaves ?_
  all_goals simp [Dict.get?_set_of_ne,hfresh]

theorem executeK8sClusterUpgrade_leaves : LeavesStatuses i .k8sClusterUpgrade status
    (PendingAt (ω := ω) i status) (executeK8sClusterUpgrade env) := by
  have hrefused : ∀ error, LeavesStatuses i .k8sClusterUpgrade status
      (PendingAt (ω := ω) i status) (pure (upgradeFailure error)) := fun _ => .pure fun _ h => h
  refine .get_bind fun w _ => .ite (fun _ => hrefused _) fun _ => ?_
  split
  · exact hrefused _
  split
  · exact hrefused _
  refine .ofExcept_bind (fun _ h => h.run) fun connector _ => ?_
  dsimp only
  split
  · exact hrefused _
  refine .attempt_bind (onOutside_keeps statuses_results _) fun version => ?_
  cases version with
  | error e => exact hrefused _
  | ok current => exact upgradeCluster_leaves _ _

end Upgrade

section Fanout

variable {env : Env ω} {cr : ChangeRequest} {connectors : List Connector} {i : Nat}
  {status : ChangeRequestStatus} {run : Option Nat} {rotation newValue searchTerms scanScope : Json}
  {consumers : List Json}

/-- The executor of fan-outs works on a run of its own, beside the pending one at `i`. -/
def BesideRun (i : Nat) (status : ChangeRequestStatus) (run : Option Nat) (w : World ω) : Prop :=
  run ≠ some i ∧ PendingAt i status w

theorem BesideRun.pending {w : World ω} (h : BesideRun i status run w) : RunPending i w := h.2.run

theorem besideRun_results : ResultWrites (BesideRun (ω := ω) i status run) where
  result := fun w j d h => ⟨h.1,statuses_results.result w j d h.2⟩
  outside := fun _ _ h => h

theorem persistFanout_beside (result : Dict) :
    Py.Triple (BesideRun (ω := ω) i status run) (persistFanout cr run result)
      (fun j => BesideRun i status (some j)) (RunPending i) := by
  intro w hw
  constructor
  · intro j w' h
    cases run with
    | some k =>
      obtain ⟨hj,rfl⟩ := Prod.mk.inj h
      obtain rfl := Except.ok.inj hj
      exact besideRun_results.result w k result hw
    | none =>
      obtain ⟨hj,rfl⟩ := Prod.mk.inj h
      obtain rfl := Except.ok.inj hj
      obtain ⟨r,hr,_⟩ := statuses_run hw.pending
      have hi : i < w.runs.length := (List.getElem?_eq_some_iff.mp hr).1
      refine ⟨fun he => absurd (Option.some.inj he) (Nat.ne_of_gt hi),?_⟩
      have hw := hw.2
      simp only [PendingAt,World.statuses,World.run?] at hw ⊢
      rwa [List.getElem?_append_left hi]
  · intro e w' h
    cases run <;> cases h

theorem pauseFanout_leaves (phase : String) :
    LeavesStatuses i .credentialRotationFanout status (BesideRun (ω := ω) i status run)
      (pauseFanout cr run consumers rotation phase) := by
  refine .ofExcept_bind (fun _ h => h.pending) fun d hd => .bind (persistFanout_beside d) fun j =>
    .modify_bind (fun w h => h.2.setStatus .paused) (.pure fun w h => ?_)
  rw [executorStatuses,buildFanoutResult_paused hd]
  exact h

theorem verifyConsumers_leaves : LeavesStatuses i .credentialRotationFanout status
    (BesideRun (ω := ω) i status run)
    (verifyConsumers env cr connectors run searchTerms scanScope consumers rotation) := by
  have hrun : ∀ w : World ω, BesideRun i status run w → RunPending i w := fun _ h => h.pending
  refine .keeps_bind hrun (onOutside_keeps besideRun_results _) fun hits =>
    .ofExcept_bind hrun fun remaining _ => .ofExcept_bind hrun fun judged _ =>
    .ofExcept_bind hrun fun failed _ => .ite (fun _ => pauseFanout_leaves _) fun _ =>
    .ofExcept_bind hrun fun d hd => .bind (persistFanout_beside d) fun j =>
    .modify_bind (R := PendingAt i status) (fun w h => ?_) (.pure fun w h => ?_)
  · exact (statuses_setRun_ne _ (by simpa using h.1)).trans h.2
  · rw [executorStatuses,buildFanoutResult_paused hd]
    exact h

theorem updateAndVerify_leaves (phase : Json) : LeavesStatuses i .credentialRotationFanout status
    (BesideRun (ω := ω) i status run)
    (updateAndVerify env cr connectors run phase newValue rotation consumers) := by
  have hrun : ∀ w : World ω, BesideRun i status run w → RunPending i w := fun _ h => h.pending
  refine .ite (fun _ => ?_) fun _ => .ite (fun _ => verifyConsumers_leaves) fun _ =>
    .ofExcept_bind hrun fun d hd => .pure fun w h => ?_
  · have hupdate : Py.Triple (BesideRun (ω := ω) i status run)
        (updatePhase env cr connectors run newValue rotation consumers)
        (fun outcome w => outcome.elim
          (fun paused => w.statuses i = executorStatuses .credentialRotationFanout paused status)
          fun updated => BesideRun i status updated.1 w) (RunPending i) :=
      .keeps_bind hrun (onOutside_keeps besideRun_results _) fun updated =>
        .ofExcept_bind hrun fun failed _ => .ite
          (fun _ => (pauseFanout_leaves _).bind fun paused => .pure fun _ h => h)
          fun _ => .ofExcept_bind hrun fun d _ => .bind (persistFanout_beside d) fun j =>
            .pure fun _ h => h
    refine hupdate.bind fun outcome => ?_
    rcases outcome with paused | ⟨run,updated⟩
    · exact .pure fun _ h => h
    · exact verifyConsumers_leaves
  · rw [executorStatuses,buildFanoutResult_paused hd]
    exact h.2

theorem rotatePhase_beside (progress : FanoutProgress) (rotateSpec : Json) :
    Py.Triple (BesideRun (ω := ω) i status progress.run)
      (rotatePhase env cr connectors progress rotateSpec consumers)
      (fun progress => BesideRun i status progress.run) (RunPending i) := by
  have hrun : ∀ w : World ω, BesideRun i status progress.run w → RunPending i w :=
    fun _ h => h.pending
  exact .ite (fun _ => .keeps_bind hrun (rotateCredential_keeps (fun _ _ h => h) _) fun outcome =>
    .ofExcept_bind hrun fun result _ => .keeps_bind hrun (adoptNewValue_keeps (fun _ _ h => h) _)
    fun _ => .bind (persistFanout_beside result) fun j => .pure fun _ h => h)
    fun _ => .pure fun _ h => h

theorem scanConsumers_beside : Py.Triple (BesideRun (ω := ω) i status run)
    (scanConsumers env cr connectors run searchTerms scanScope rotation)
    (fun found => BesideRun i status found.1) (RunPending i) := by
  have hrun : ∀ w : World ω, BesideRun i status run w → RunPending i w := fun _ h => h.pending
  exact .keeps_bind hrun (onOutside_keeps besideRun_results _) fun hits =>
    .ofExcept_bind hrun fun consumers _ => .ofExcept_bind hrun fun result _ =>
    .bind (persistFanout_beside result) fun j => .pure fun _ h => h

/-- A pending run is not the running one that the executor looks for. -/
theorem besideRun_start {w : World ω} (h : PendingAt i status w) :
    BesideRun i status (latestRun (fun r => r.status = .running) w.runs) w := by
  refine ⟨fun hrun => ?_,h⟩
  obtain ⟨r,hr,hpending⟩ := statuses_run h.run
  obtain ⟨r',hr',hrunning⟩ := latestRun_holds hrun
  obtain rfl : r = r' := Option.some.inj (hr.symm.trans hr')
  simp [hpending] at hrunning

theorem executeCredentialRotationFanout_leaves :
    LeavesStatuses i .credentialRotationFanout status (PendingAt (ω := ω) i status)
      (executeCredentialRotationFanout env) := by
  refine .get_bind fun w hw => .ofExcept_bind (fun _ h => h.run) fun consumers _ =>
    .bind ((rotatePhase_beside _ _).mono_pre fun u hu => ⟨(besideRun_start hw).1,hu⟩)
    fun progress => .ite (fun _ => ?_) fun _ => updateAndVerify_leaves _
  refine scanConsumers_beside.bind fun found => ?_
  obtain ⟨run,consumers⟩ := found
  exact updateAndVerify_leaves _

end Fanout

/-- What the execution of a change leaves in its status, and in the one of its new run. -/
theorem activityExecuteChange_leaves {env : Env ω} {i : Nat} {changeType : ChangeType}
    {status : ChangeRequestStatus} : LeavesStatuses i changeType status
      (fun w : World ω => w.cr.changeType = changeType ∧ NewestPending i status w)
      (activityExecuteChange env) := by
  have hsite : ∀ {α : Type} (x : Py (Site ω) α),
      Py.Triple (PendingAt (ω := ω) i status) (onSite x) (fun _ => PendingAt i status)
        (RunPending i) :=
    fun x => (Py.Triple.keeps fun _ h => h).mono_error fun _ h => h.run
  refine .get_bind fun w hw => ?_
  obtain ⟨rfl,_⟩ := hw
  have hplan : Py.Triple (PendingAt i status) (executePlanSteps env)
      (fun _ => PendingAt i status) (RunPending i) :=
    .get_bind fun w _ => (hsite _).bind fun records => .pure fun _ h => h
  cases w.cr.changeType
  case credentialRotation => exact executeSteps_leaves.mono_pre fun _ h => h.2
  case certificateRotation => exact executeCertificateRotation_leaves.mono_pre fun _ h => h.2
  case credentialRotationFanout =>
    exact executeCredentialRotationFanout_leaves.mono_pre fun _ h => h.2.2
  case k8sClusterUpgrade =>
    have hupgrade : LeavesStatuses i .k8sClusterUpgrade status (PendingAt (ω := ω) i status)
        (executeK8sClusterUpgrade env) := executeK8sClusterUpgrade_leaves
    exact hupgrade.mono_pre fun _ h => h.2.2
  case emergencyUserLockout => exact .get_bind fun _ _ => (hsite _).mono_pre fun _ h => h.2.2
  case userSuspension => exact .get_bind fun _ _ => (hsite _).mono_pre fun _ h => h.2.2
  case userScopeReduction => exact .get_bind fun _ _ => (hsite _).mono_pre fun _ h => h.2.2
  case enforceMfa => exact .get_bind fun _ _ => (hsite _).mono_pre fun _ h => h.2.2
  case scanForReferences => exact .get_bind fun _ _ => (hsite _).mono_pre fun _ h => h.2.2
  case containerImageTransfer => exact .get_bind fun _ _ => (hsite _).mono_pre fun _ h => h.2.2
  all_goals exact hplan.mono_pre fun _ h => h.2.2

end Nexplane
