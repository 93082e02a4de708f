import Nexplane.RollbackReports
import Nexplane.WorkflowOutcomes

set_option autoImplicit false

/-! How the execution workflow ends when awaited calls raise: the pair of statuses in which it
leaves a change and its run. -/

namespace Nexplane
open PyValue

variable {ω : Type}

/-- The pairs in which a change and its run may be left. -/
def matchingPairs : List (ChangeRequestStatus × ExecutionStatus) :=
  [(.completed,.completed),(.failed,.failed),(.rolledBack,.rolledBack),(.paused,.running)]

/-- The change and its run are left in a matching pair, and no status outside `ExecutionStatus`
was handed over for the run. -/
structure EndsMatched (i : Nat) (s : WorkflowState ω) : Prop where
  pair : ∃ p ∈ matchingPairs, s.world.statuses i = (p.1,some p.2)
  written : ∀ status ∈ s.written, (ExecutionStatus.ofValue status).isOk = true

def Unhindered (o : Outcomes) (calls : List Awaited) : Prop :=
  ∀ call ∈ calls, o.raises call = none

/-- The writes that end a completed change. -/
def completionCalls : List Awaited := [.changeStatus .completed,.runStatus "completed"]

def failureCalls : List Awaited := [.changeStatus .failed,.runStatus "failed"]

/-- The calls up to the report of the preflight checks. -/
def preflightCalls : List Awaited :=
  [.load,.audit "workflow.started",.changeStatus .executing,.audit "preflight.started",.preflight]

def pauseCalls : List Awaited :=
  [.runStatus "running",.audit "execution.paused",.changeStatus .paused]

def verificationCalls : List Awaited :=
  [.changeStatus .verifying,.audit "verification.started",.verification]

/-- The calls of an automatic rollback that ends in rolled back. -/
def rollbackCalls : List Awaited :=
  [.audit "verification.failed",.audit "rollback.started",.runStatus "rolling_back",.rollback,
    .changeStatus .rolledBack,.runStatus "rolled_back"]

section Conditions

variable (env : Env ω) (o : Outcomes) (cr : ChangeRequest) (i : Nat) (result : Json) (w : World ω)

/-- The rows when the automatic rollback starts. -/
def rollbackWorld : World ω :=
  (w.markStatus .verifying).setRun i fun r => { r with status := .rollingBack, result := [] }

/-- The automatic rollback returns a result that counts as rolled back. -/
def RollsBack : Prop :=
  ∃ answer w', activityExecuteRollback env cr.steps result w = (.ok answer,w') ∧
    automaticRollbackStatus answer = .ok .rolledBack

def VerificationSettles : Prop :=
  Unhindered o verificationCalls ∧
    if o.verification.allPassed then Unhindered o (.audit "verification.passed" :: completionCalls)
    else Unhindered o rollbackCalls ∧ RollsBack env cr result (rollbackWorld i w)

/-- The result can be read, and either reports a failure or passes the hooks on to the
verification. -/
def PlanSettles : Prop :=
  match executorResult result with
  | .error _ => False
  | .ok checked =>
    if reportsFailed checked then Unhindered o (.audit "execution.failed" :: failureCalls)
    else (postHooks env cr result w).1.isOk = true ∧ result.isDict = true ∧
      Unhindered o [.audit "execution.completed"] ∧
      VerificationSettles env o cr i result (postHooks env cr result w).2

/-- The writes that end a change after its execution are made. The executors of credential and
certificate rotations have made the ones of a completion themselves, and all but the one of
certificate rotations have paused their change. -/
def OutcomeSettles : Prop :=
  match cr.changeType with
  | .credentialRotation => result.flag "paused" = true → Unhindered o [.runStatus "running"]
  | .certificateRotation => result.flag "paused" = true → Unhindered o pauseCalls
  | .credentialRotationFanout =>
    if result.flag "paused" then Unhindered o [.runStatus "running"]
    else Unhindered o completionCalls
  | .k8sClusterUpgrade =>
    if result.flag "paused" then Unhindered o [.runStatus "running"]
    else if result.flag "failed" then Unhindered o [.runStatus "failed",.changeStatus .failed]
    else Unhindered o completionCalls
  | .adDcParallelUpgrade => Unhindered o completionCalls
  | _ => PlanSettles env o cr i result w

/-- What the execution comes to. -/
def executionOutcome : Except Exc Json × World ω :=
  match o.raises .execution with
  | some e => (.error e,w.markStatus .executing)
  | none => activityExecuteChange env (w.markStatus .executing)

/-- No call that is awaited before the last write of a status raises, an exception of the execution
apart, and what the execution and an automatic rollback return can be made sense of. -/
def WorkflowSettles : Prop :=
  w.cr.riskLevel.isSome ∧ Unhindered o preflightCalls ∧
    if o.preflight.allPassed then
      Unhindered o [.audit "preflight.passed",.audit "execution.started"] ∧
        match executionOutcome env o w with
        | (.error _,_) => Unhindered o (.audit "execution.failed" :: failureCalls)
        | (.ok result,v) => OutcomeSettles env o w.cr i result v
    else Unhindered o (.audit "preflight.failed" :: failureCalls)

end Conditions

section Steps

variable {o : Outcomes} {i : Nat} {c : ChangeRequestStatus} {r : ExecutionStatus}
  {s : WorkflowState ω}

/-- The statuses so far, all those of the run written by their values. -/
def StatusesAt (i : Nat) (c : ChangeRequestStatus) (r : ExecutionStatus)
    (s : WorkflowState ω) : Prop :=
  s.world.statuses i = (c,some r) ∧
    ∀ status ∈ s.written, (ExecutionStatus.ofValue status).isOk = true

theorem StatusesAt.matched_iff (h : StatusesAt i c r s) :
    EndsMatched i s ↔ (c,r) ∈ matchingPairs := by
  constructor
  · rintro ⟨⟨⟨c',r'⟩,hp,hs⟩,_⟩
    obtain ⟨rfl,hr⟩ := Prod.mk.inj (h.1.symm.trans hs)
    obtain rfl := Option.some.inj hr
    exact hp
  · exact fun hp => ⟨⟨(c,r),hp,h.1⟩,h.2⟩

@[simp] theorem unhindered_nil : Unhindered o [] := by simp [Unhindered]

@[simp] theorem unhindered_cons {call : Awaited} {calls : List Awaited} :
    Unhindered o (call :: calls) ↔ o.raises call = none ∧ Unhindered o calls := by
  simp [Unhindered]

/-- Where the statuses do not match, a call has to return for them to match in the end. -/
theorem awaits_ends {α β : Type} {call : Awaited} {x : Py (WorkflowState ω) α}
    {f : α → Py (WorkflowState ω) β} (hs : ¬EndsMatched i s) :
    EndsMatched i ((awaits o call x >>= f) s).2 ↔
      o.raises call = none ∧ EndsMatched i ((x >>= f) s).2 := by
  unfold awaits
  cases h : o.raises call <;> simp [hs]

theorem audit_ends {β : Type} {eventType : String} {f : Unit → Py (WorkflowState ω) β}
    (h : StatusesAt i c r s) (hp : (c,r) ∉ matchingPairs) :
    EndsMatched i ((writeAuditEvent o eventType >>= f) s).2 ↔
      o.raises (.audit eventType) = none ∧ EndsMatched i (f () s).2 :=
  awaits_ends (h.matched_iff.not.mpr hp)

def WorkflowState.mark (s : WorkflowState ω) (status : ChangeRequestStatus) : WorkflowState ω :=
  { s with world := s.world.markStatus status }

theorem StatusesAt.mark (h : StatusesAt i c r s) (status : ChangeRequestStatus) :
    StatusesAt i status r (s.mark status) := by
  refine ⟨?_,h.2⟩
  have hr := congrArg Prod.snd h.1
  simp only [World.statuses,World.run?] at hr
  simp [WorkflowState.mark,World.statuses,World.run?,hr]

theorem change_ends {β : Type} {status : ChangeRequestStatus}
    {f : Unit → Py (WorkflowState ω) β} (h : StatusesAt i c r s) (hp : (c,r) ∉ matchingPairs) :
    EndsMatched i ((awaitChangeStatus o status >>= f) s).2 ↔
      o.raises (.changeStatus status) = none ∧ EndsMatched i (f () (s.mark status)).2 :=
  awaits_ends (h.matched_iff.not.mpr hp)

def WorkflowState.setRun (s : WorkflowState ω) (i : Nat) (text : String)
    (status : ExecutionStatus) (result : Dict) : WorkflowState ω where
  world := s.world.setRun i fun r => { r with status := status, result := result }
  written := s.written ++ [text]

theorem StatusesAt.setRun {text : String} {status : ExecutionStatus} (h : StatusesAt i c r s)
    (htext : ExecutionStatus.ofValue text = .ok status) (result : Dict) :
    StatusesAt i c status (s.setRun i text status result) := by
  obtain ⟨run,hrun,_⟩ := statuses_run (congrArg Prod.snd h.1)
  constructor
  · exact (statuses_setRun_self _ hrun).trans (congrArg (·,some status) (congrArg Prod.fst h.1))
  · intro written hw
    rcases List.mem_append.mp hw with hw | hw
    · exact h.2 written hw
    · rw [List.mem_singleton.mp hw,htext]
      rfl

theorem run_ends {β : Type} {text : String} {status : ExecutionStatus} {result : Dict}
    {f : Unit → Py (WorkflowState ω) β} (h : StatusesAt i c r s) (hp : (c,r) ∉ matchingPairs)
    (htext : ExecutionStatus.ofValue text = .ok status) :
    EndsMatched i ((awaitRunStatus o (some i) text result >>= f) s).2 ↔
      o.raises (.runStatus text) = none ∧
        EndsMatched i (f () (s.setRun i text status result)).2 := by
  rw [awaitRunStatus,awaits_ends (h.matched_iff.not.mpr hp),htext]
  rfl

theorem change_last {status : ChangeRequestStatus} (h : StatusesAt i c r s)
    (hp : (c,r) ∉ matchingPairs) :
    EndsMatched i (awaitChangeStatus o status s).2 ↔
      o.raises (.changeStatus status) = none ∧ (status,r) ∈ matchingPairs := by
  rw [← Py.bind_pure (awaitChangeStatus o status),change_ends h hp,
    ← (h.mark status).matched_iff]
  rfl

theorem run_last {text : String} {status : ExecutionStatus} {result : Dict}
    (h : StatusesAt i c r s) (hp : (c,r) ∉ matchingPairs)
    (htext : ExecutionStatus.ofValue text = .ok status) :
    EndsMatched i (awaitRunStatus o (some i) text result s).2 ↔
      o.raises (.runStatus text) = none ∧ (c,status) ∈ matchingPairs := by
  rw [← Py.bind_pure (awaitRunStatus o (some i) text result),run_ends h hp htext,
    ← (h.setRun htext result).matched_iff]
  rfl

/-- Whether or not a call raises, it keeps what its work keeps. -/
theorem awaits_keeps {α : Type} {I : WorkflowState ω → Prop} {call : Awaited}
    {x : Py (WorkflowState ω) α} (hx : Py.Keeps I x) : Py.Keeps I (awaits o call x) := by
  unfold awaits
  cases o.raises call with
  | none => exact hx
  | some e => exact .raise e

theorem audit_keeps {I : WorkflowState ω → Prop} (eventType : String) :
    Py.Keeps I (writeAuditEvent o eventType) := awaits_keeps (.pure _)

/-- No status of a change goes with a pending run, or with one that is being rolled back. -/
theorem transient_unmatched (c : ChangeRequestStatus)
    (hr : r = .pending ∨ r = .rollingBack) : (c,r) ∉ matchingPairs := by
  rcases hr with rfl | rfl <;> simp [matchingPairs]

end Steps

section Ends

variable {env : Env ω} {o : Outcomes} {cr : ChangeRequest} {i : Nat} {c : ChangeRequestStatus}
  {result : Json} {s : WorkflowState ω}

theorem awaitFailed_ends {record : Dict} (h : StatusesAt i c .pending s) :
    EndsMatched i (awaitFailed o (some i) record s).2 ↔ Unhindered o failureCalls := by
  have hfailed : ExecutionStatus.ofValue "failed" = .ok .failed := rfl
  rw [awaitFailed,change_ends h (transient_unmatched c (Or.inl rfl)),
    run_last (h.mark .failed) (by decide) hfailed]
  simp [failureCalls,matchingPairs]

theorem audited_failure {eventType : String} {record : Dict} (h : StatusesAt i c .pending s) :
    EndsMatched i ((writeAuditEvent o eventType >>= fun _ => awaitFailed o (some i) record) s).2 ↔
      Unhindered o (.audit eventType :: failureCalls) := by
  rw [audit_ends h (transient_unmatched c (Or.inl rfl)),awaitFailed_ends h,unhindered_cons]

/-- The last writes of a completed change, and calls after them that keep the statuses. -/
theorem completion_ends {record : Dict} {rest : Unit → Py (WorkflowState ω) Unit}
    (h : StatusesAt i c .pending s) (hrest : ∀ I : WorkflowState ω → Prop,
      (∀ t w, I t → t.world.statuses i = w.statuses i → I { t with world := w }) →
        Py.Keeps I (rest ())) :
    EndsMatched i ((awaitChangeStatus o .completed >>= fun _ =>
      awaitRunStatus o (some i) "completed" record >>= rest) s).2 ↔
        Unhindered o completionCalls := by
  have hcompleted : ExecutionStatus.ofValue "completed" = .ok .completed := rfl
  have hmark := h.mark .completed
  rw [change_ends h (transient_unmatched c (Or.inl rfl)),
    run_ends hmark (by decide) hcompleted]
  have hend : EndsMatched i
      (rest () ((s.mark .completed).setRun i "completed" .completed record)).2 := by
    refine hrest _ (fun t w ht hw => ⟨?_,ht.written⟩) _
      ((hmark.setRun hcompleted record).matched_iff.mpr (by decide))
    obtain ⟨p,hp,heq⟩ := ht.pair
    exact ⟨p,hp,hw.symm.trans heq⟩
  simp [completionCalls,hend]

theorem awaitCompleted_ends (h : StatusesAt i c .pending s) :
    EndsMatched i (awaitCompleted o (some i) result s).2 ↔ Unhindered o completionCalls :=
  completion_ends h fun _ _ => audit_keeps _

/-- The statuses of a change that its executor has completed stay completed. -/
theorem awaitCompleted_keeps (h : StatusesAt i .completed .completed s) :
    EndsMatched i (awaitCompleted o (some i) result s).2 := by
  have hcompleted : ExecutionStatus.ofValue "completed" = .ok .completed := rfl
  have hkept : Py.Keeps (StatusesAt (ω := ω) i .completed .completed)
      (awaitCompleted o (some i) result) := by
    refine .bind (awaits_keeps fun t ht => ht.mark .completed) fun _ =>
      .bind (awaits_keeps fun t ht => ?_) fun _ => audit_keeps _
    have hset := ht.setRun hcompleted (inExecution result)
    rw [hcompleted]
    exact hset
  exact (hkept s h).matched_iff.mpr (by decide)

theorem flag_dict {k : String} (h : result.flag k = true) : ∃ d, result = .obj d := by
  cases result with
  | obj d => exact ⟨d,rfl⟩
  | _ => cases h

/-- A change that its executor has paused only needs its run to say so. -/
theorem awaitPaused_own {markPaused : Bool} (h : StatusesAt i .paused .pending s)
    (hflag : result.flag "paused" = true) :
    EndsMatched i (awaitPaused o (some i) result markPaused s).2 ↔
      Unhindered o [.runStatus "running"] := by
  have hrunning : ExecutionStatus.ofValue "running" = .ok .running := rfl
  obtain ⟨d,rfl⟩ := flag_dict hflag
  rw [awaitPaused,Json.mapping_obj,Py.ofExcept_ok_bind,
    run_ends h (transient_unmatched _ (Or.inl rfl)) hrunning]
  have hkept : Py.Keeps (StatusesAt (ω := ω) i .paused .running)
      (writeAuditEvent o "execution.paused" >>= fun _ =>
        if markPaused then awaitChangeStatus o .paused else pure ()) :=
    .bind (audit_keeps _) fun _ => .ite (awaits_keeps fun t ht => ht.mark .paused) (.pure _)
  have hend := (hkept _ (h.setRun hrunning d)).matched_iff.mpr (by decide)
  simp [hend]

theorem awaitPaused_marked (h : StatusesAt i .executing .pending s)
    (hflag : result.flag "paused" = true) :
    EndsMatched i (awaitPaused o (some i) result true s).2 ↔ Unhindered o pauseCalls := by
  have hrunning : ExecutionStatus.ofValue "running" = .ok .running := rfl
  obtain ⟨d,rfl⟩ := flag_dict hflag
  rw [awaitPaused,Json.mapping_obj,Py.ofExcept_ok_bind,
    run_ends h (transient_unmatched _ (Or.inl rfl)) hrunning,
    audit_ends (h.setRun hrunning d) (by decide),if_pos rfl,
    change_last (h.setRun hrunning d) (by decide)]
  simp [pauseCalls,matchingPairs]

theorem determineRollbackStatus_mem (successes : List Bool) (ran : Bool) :
    determineRollbackStatus successes ran ∈
      [ChangeRequestStatus.rolledBack,.rollbackPartial,.rollbackFailed] := by
  unfold determineRollbackStatus
  split
  · simp
  · split
    · simp
    · split <;> simp

theorem automaticRollbackStatus_mem {status : ChangeRequestStatus}
    (h : automaticRollbackStatus result = .ok status) :
    status ∈ [ChangeRequestStatus.rolledBack,.rollbackPartial,.rollbackFailed] := by
  obtain ⟨raw,_,h⟩ := Checks.bind_eq_ok.mp h
  obtain ⟨direct,_,h⟩ := Checks.bind_eq_ok.mp h
  split at h
  · obtain ⟨steps,_,h⟩ := Checks.bind_eq_ok.mp h
    obtain ⟨successes,_,h⟩ := Checks.bind_eq_ok.mp h
    obtain rfl := Except.ok.inj h
    exact determineRollbackStatus_mem _ _
  · obtain ⟨steps,_,h⟩ := Checks.bind_eq_ok.mp h
    obtain ⟨entries,_,h⟩ := Checks.bind_eq_ok.mp h
    obtain ⟨successes,_,h⟩ := Checks.bind_eq_ok.mp h
    obtain rfl := Except.ok.inj h
    exact determineRollbackStatus_mem _ _

/-- A status that the run cannot have leaves it as it was. -/
theorem run_refused {β : Type} {r : ExecutionStatus} {text : String} {e : Exc} {record : Dict}
    {f : Unit → Py (WorkflowState ω) β} (h : StatusesAt i c r s) (hp : (c,r) ∉ matchingPairs)
    (htext : ExecutionStatus.ofValue text = .error e) :
    ¬EndsMatched i ((awaitRunStatus o (some i) text record >>= f) s).2 := by
  rw [awaitRunStatus,awaits_ends (h.matched_iff.not.mpr hp),htext]
  rintro ⟨_,hend⟩
  have hvalid := hend.written text (List.mem_append_right _ List.mem_cons_self)
  rw [htext] at hvalid
  cases hvalid

theorem rollback_statuses (h : StatusesAt i .verifying .rollingBack s) :
    StatusesAt i .verifying .rollingBack
      (onRows (activityExecuteRollback env cr.steps result) s).2 := by
  obtain ⟨site,hsame⟩ := activityExecuteRollback_rows cr.steps result s.world
    ⟨s.world.site,rfl⟩
  refine ⟨?_,h.2⟩
  have hworld : (onRows (activityExecuteRollback env cr.steps result) s).2.world =
      { s.world with site := site } := hsame
  rw [hworld]
  exact h.1

/-- After the rollback only one of its statuses goes with one of the run. -/
theorem rolled_ends {status : ChangeRequestStatus} {record : Dict}
    {rest : Unit → Py (WorkflowState ω) Unit}
    (hrest : ∀ I : WorkflowState ω → Prop, Py.Keeps I (rest ()))
    (h : StatusesAt i .verifying .rollingBack s)
    (hstatus : status ∈ [ChangeRequestStatus.rolledBack,.rollbackPartial,.rollbackFailed]) :
    EndsMatched i ((awaitChangeStatus o status >>= fun _ =>
      awaitRunStatus o (some i) status.value record >>= rest) s).2 ↔
        (o.raises (.changeStatus .rolledBack) = none ∧ o.raises (.runStatus "rolled_back") = none) ∧
          status = .rolledBack := by
  have hmark := h.mark status
  rw [change_ends h (by decide)]
  simp only [List.mem_cons,List.not_mem_nil,or_false] at hstatus
  rcases hstatus with rfl | rfl | rfl
  · have hvalue : ExecutionStatus.ofValue (ChangeRequestStatus.value .rolledBack) =
        .ok .rolledBack := rfl
    have hend := hrest _ _ ((hmark.setRun hvalue record).matched_iff.mpr (by decide))
    rw [run_ends hmark (by decide) hvalue]
    constructor
    · rintro ⟨hchange,hrun,_⟩
      exact ⟨⟨hchange,hrun⟩,rfl⟩
    · rintro ⟨⟨hchange,hrun⟩,_⟩
      exact ⟨hchange,hrun,hend⟩
  · obtain ⟨e,hvalue⟩ : ∃ e, ExecutionStatus.ofValue (ChangeRequestStatus.value .rollbackPartial) =
        .error e := ⟨_,rfl⟩
    exact iff_of_false (fun h => run_refused hmark (by decide) hvalue h.2) (by simp)
  · obtain ⟨e,hvalue⟩ : ∃ e, ExecutionStatus.ofValue (ChangeRequestStatus.value .rollbackFailed) =
        .error e := ⟨_,rfl⟩
    exact iff_of_false (fun h => run_refused hmark (by decide) hvalue h.2) (by simp)

theorem rollback_ends (h : StatusesAt i .verifying .rollingBack s)
    {rest : Json → Unit → Py (WorkflowState ω) Unit} {record : Json → Dict}
    (hrest : ∀ answer (I : WorkflowState ω → Prop), Py.Keeps I (rest answer ())) :
    EndsMatched i ((onRows (activityExecuteRollback env cr.steps result) >>= fun answer =>
      Py.ofExcept (automaticRollbackStatus answer) >>= fun status =>
      awaitChangeStatus o status >>= fun _ =>
      awaitRunStatus o (some i) status.value (record answer) >>= rest answer) s).2 ↔
        (o.raises (.changeStatus .rolledBack) = none ∧ o.raises (.runStatus "rolled_back") = none) ∧
          RollsBack env cr result s.world := by
  have hkept : StatusesAt i .verifying .rollingBack
      (onRows (activityExecuteRollback env cr.steps result) s).2 := rollback_statuses h
  have hun : ¬EndsMatched i (onRows (activityExecuteRollback env cr.steps result) s).2 :=
    hkept.matched_iff.not.mpr (by decide)
  rcases hrun : activityExecuteRollback env cr.steps result s.world with ⟨e | answer,w'⟩
  · have hno : ¬RollsBack env cr result s.world := by
      rintro ⟨answer,w'',hanswer,_⟩
      rw [hrun] at hanswer
      cases hanswer
    have hrows : onRows (activityExecuteRollback env cr.steps result) s =
        (.error e,{ s with world := w' }) := by rw [onRows,Py.zoom_run,hrun]
    rw [hrows] at hun
    rw [Py.bind_error hrows]
    exact iff_of_false hun fun hr => hno hr.2
  · have hrows : onRows (activityExecuteRollback env cr.steps result) s =
        (.ok answer,{ s with world := w' }) := by rw [onRows,Py.zoom_run,hrun]
    have hback : RollsBack env cr result s.world ↔
        automaticRollbackStatus answer = .ok .rolledBack := by
      constructor
      · rintro ⟨answer',w'',hanswer,hstatus⟩
        obtain rfl := Except.ok.inj (Prod.mk.inj (hrun.symm.trans hanswer)).1
        exact hstatus
      · exact fun hstatus => ⟨answer,w',hrun,hstatus⟩
    rw [hrows] at hkept hun
    rw [Py.bind_ok hrows,hback]
    cases hstatus : automaticRollbackStatus answer with
    | error e => exact iff_of_false hun (by simp)
    | ok status =>
      rw [Py.ofExcept_ok_bind,
        rolled_ends (hrest answer) hkept (automaticRollbackStatus_mem hstatus)]
      simp

theorem awaitRollback_ends (h : StatusesAt i .verifying .pending s) :
    EndsMatched i (awaitRollback env o cr (some i) result s).2 ↔ Unhindered o rollbackCalls ∧
      RollsBack env cr result (s.setRun i "rolling_back" .rollingBack []).world := by
  have hrolling : ExecutionStatus.ofValue "rolling_back" = .ok .rollingBack := rfl
  have hset := h.setRun hrolling []
  rw [awaitRollback,audit_ends h (by decide),audit_ends h (by decide),
    run_ends h (by decide) hrolling,awaits_ends (hset.matched_iff.not.mpr (by decide)),
    rollback_ends hset fun answer I => .bind (audit_keeps _) fun _ => audit_keeps _]
  simp [rollbackCalls,and_assoc]

theorem awaitVerification_ends (h : StatusesAt i c .pending s) :
    EndsMatched i (awaitVerification env o cr (some i) result s).2 ↔
      VerificationSettles env o cr i result s.world := by
  have hmark := h.mark .verifying
  rw [awaitVerification,change_ends h (transient_unmatched c (Or.inl rfl)),
    audit_ends hmark (by decide),awaits_ends (hmark.matched_iff.not.mpr (by decide)),
    Py.pure_bind_run,VerificationSettles]
  split
  · rw [audit_ends hmark (by decide),completion_ends hmark fun I hI =>
      .bind (audit_keeps _) fun _ t ht =>
        hI t (onOutside (env.postCompletionDiscovery t.world.cr) t.world).2 ht rfl]
    simp [verificationCalls,and_assoc]
  · rw [awaitRollback_ends hmark]
    simp only [verificationCalls,unhindered_cons,unhindered_nil,and_assoc,true_and]
    rfl

theorem postHooks_statuses (h : StatusesAt i c .pending s) :
    StatusesAt i c .pending (onRows (postHooks env cr result) s).2 := by
  unfold postHooks
  split <;> exact h

theorem awaitPlan_ends (h : StatusesAt i .executing .pending s) :
    EndsMatched i (awaitPlan env o cr (some i) result s).2 ↔
      PlanSettles env o cr i result s.world := by
  have hun := h.matched_iff.not.mpr (by decide)
  rw [awaitPlan,PlanSettles]
  cases hchecked : executorResult result with
  | error e => exact iff_of_false hun id
  | ok checked =>
    rw [Py.ofExcept_ok_bind]
    dsimp only
    split
    · exact audited_failure h
    have hhooks : StatusesAt i .executing .pending (onRows (postHooks env cr result) s).2 :=
      postHooks_statuses h
    have hunhooks := hhooks.matched_iff.not.mpr (by decide)
    rcases hrun : postHooks env cr result s.world with ⟨e | u,w⟩
    · have hrows : onRows (postHooks env cr result) s = (.error e,{ s with world := w }) := by
        rw [onRows,Py.zoom_run,hrun]
      rw [hrows] at hunhooks
      rw [Py.bind_error hrows]
      exact iff_of_false hunhooks fun hsettles => by cases hsettles.1
    have hrows : onRows (postHooks env cr result) s = (.ok u,{ s with world := w }) := by
      rw [onRows,Py.zoom_run,hrun]
    rw [hrows] at hhooks hunhooks
    rw [Py.bind_ok hrows]
    cases hdict : result.isDict with
    | false => exact iff_of_false hunhooks (by simp)
    | true =>
      rw [if_pos rfl,Py.ofExcept_ok_bind,audit_ends hhooks (by decide),
        awaitVerification_ends hhooks]
      simp [Except.isOk,Except.toBool]

theorem awaitOutcome_ends
    (h : s.world.statuses i = executorStatuses cr.changeType result .executing)
    (hw : ∀ status ∈ s.written, (ExecutionStatus.ofValue status).isOk = true) :
    EndsMatched i (awaitOutcome env o cr (some i) result s).2 ↔
      OutcomeSettles env o cr i result s.world := by
  unfold awaitOutcome OutcomeSettles
  cases hct : cr.changeType <;> rw [hct] at h
  case credentialRotation =>
    dsimp only [executorStatuses] at h ⊢
    split at h
    · rename_i hflag
      rw [if_pos hflag,awaitPaused_own ⟨h,hw⟩ hflag]
      exact ⟨fun hcalls _ => hcalls,fun hcalls => hcalls hflag⟩
    · rename_i hflag
      rw [if_neg hflag]
      exact iff_of_true (awaitCompleted_keeps ⟨h,hw⟩) fun hpaused => absurd hpaused hflag
  case certificateRotation =>
    dsimp only [executorStatuses] at h ⊢
    split at h
    · rename_i hflag
      rw [if_pos hflag,awaitPaused_marked ⟨h,hw⟩ hflag]
      exact ⟨fun hcalls _ => hcalls,fun hcalls => hcalls hflag⟩
    · rename_i hflag
      rw [if_neg hflag]
      exact iff_of_true (awaitCompleted_keeps ⟨h,hw⟩) fun hpaused => absurd hpaused hflag
  case credentialRotationFanout =>
    dsimp only [executorStatuses] at h ⊢
    split at h
    · rename_i hflag
      rw [if_pos hflag,if_pos hflag,awaitPaused_own ⟨h,hw⟩ hflag]
    · rename_i hflag
      rw [if_neg hflag,if_neg hflag,awaitCompleted_ends ⟨h,hw⟩]
  case k8sClusterUpgrade =>
    dsimp only [executorStatuses] at h ⊢
    split at h
    · rename_i hflag
      rw [if_pos hflag,if_pos hflag,awaitPaused_own ⟨h,hw⟩ hflag]
    · rename_i hflag
      rw [if_neg hflag,if_neg hflag]
      split
      · rename_i hfailed
        have hvalue : ExecutionStatus.ofValue "failed" = .ok .failed := rfl
        have hat : StatusesAt i .executing .pending s := ⟨h,hw⟩
        obtain ⟨d,rfl⟩ := flag_dict hfailed
        rw [Json.mapping_obj,Py.ofExcept_ok_bind,run_ends hat (by decide) hvalue,
          change_last (hat.setRun hvalue d) (by decide)]
        simp [matchingPairs]
      · rw [awaitCompleted_ends ⟨h,hw⟩]
  case adDcParallelUpgrade => exact awaitCompleted_ends ⟨h,hw⟩
  all_goals exact awaitPlan_ends ⟨h,hw⟩

end Ends

section Start

variable {env : Env ω} {o : Outcomes} {i : Nat} {w : World ω}

theorem latestRun_newest {status : ChangeRequestStatus} (h : NewestPending i status w) :
    latestRun (fun _ => true) w.runs = some i := by
  have hne : w.runs ≠ [] := fun hnil => by simpa [hnil] using h.1
  rw [latestRun_true,if_neg hne,h.1]
  rfl

theorem NewestPending.mark {status : ChangeRequestStatus} (h : NewestPending i status w)
    (s : ChangeRequestStatus) : NewestPending i s (w.markStatus s) := by
  have hrun := h.2.run
  simp only [RunPending,World.statuses,World.run?] at hrun
  refine ⟨by simpa using h.1,?_⟩
  simp [PendingAt,World.statuses,World.run?,hrun]

theorem execution_attempt (s : WorkflowState ω) (hs : s.world = w.markStatus .executing) :
    awaits o .execution (onRows (activityExecuteChange env)) s =
      ((executionOutcome env o w).1,{ s with world := (executionOutcome env o w).2 }) := by
  unfold awaits executionOutcome
  cases o.raises .execution with
  | some e => exact congrArg (fun v => (Except.error e,{ s with world := v })) hs
  | none =>
    exact congrArg (fun v => ((activityExecuteChange env v).1,
      { s with world := (activityExecuteChange env v).2 })) hs

/-- The execution leaves the run pending if it raises, and the statuses as its executor does. -/
theorem executionOutcome_statuses (env : Env ω) (o : Outcomes) {status : ChangeRequestStatus}
    (h : NewestPending i status w) :
    match executionOutcome env o w with
    | (.error _,v) => RunPending i v
    | (.ok result,v) => v.statuses i = executorStatuses w.cr.changeType result .executing := by
  have hmark := h.mark .executing
  unfold executionOutcome
  cases o.raises .execution with
  | some e => exact hmark.2.run
  | none =>
    obtain ⟨hok,herror⟩ := activityExecuteChange_leaves (w.markStatus .executing)
      ⟨World.markStatus_changeType w .executing,hmark⟩
    dsimp only
    split
    · rename_i e v hrun
      exact herror e v hrun
    · rename_i result v hrun
      exact hok result v hrun

end Start

/-- The workflow leaves its change and the run in a matching pair exactly when the calls up to the
last write of a status return, and what it is given can be made sense of. -/
theorem workflow_ends_matched_iff (env : Env ω) (o : Outcomes) (w : World ω) (i : Nat)
    (h : NewestPending i w.cr.status w) :
    EndsMatched i (awaitWorkflow env o ⟨w,[]⟩).2 ↔ WorkflowSettles env o i w := by
  have hstart : StatusesAt i w.cr.status .pending ⟨w,[]⟩ := ⟨h.2,by simp⟩
  have hun : (w.cr.status,ExecutionStatus.pending) ∉ matchingPairs :=
    transient_unmatched _ (Or.inl rfl)
  have hunstarted := hstart.matched_iff.not.mpr hun
  rw [awaitWorkflow,awaits_ends hunstarted,WorkflowSettles]
  cases hrisk : w.cr.riskLevel with
  | none =>
    have hload : onRows loadChangeRequestAndPlan (⟨w,[]⟩ : WorkflowState ω) =
        (.error .attributeError,⟨w,[]⟩) := by
      rw [onRows,Py.zoom_run,loadChangeRequestAndPlan,Py.get_bind,if_pos (by simp [hrisk])]
      rfl
    rw [Py.bind_error hload]
    exact iff_of_false (fun hends => hunstarted hends.2) (by simp)
  | some risk =>
    have hload : onRows loadChangeRequestAndPlan (⟨w,[]⟩ : WorkflowState ω) =
        (.ok (w.cr,some i),⟨w,[]⟩) := by
      rw [onRows,Py.zoom_run,loadChangeRequestAndPlan,Py.get_bind,if_neg (by simp [hrisk]),
        latestRun_newest h]
      rfl
    have hmark := hstart.mark .executing
    rw [Py.bind_ok hload]
    dsimp only
    rw [audit_ends hstart hun,change_ends hstart hun,audit_ends hmark (by decide),
      awaits_ends (hmark.matched_iff.not.mpr (by decide)),Py.pure_bind_run]
    split
    · rw [audit_ends hmark (by decide),audit_ends hmark (by decide),Py.attempt_bind,
        execution_attempt _ rfl]
      have hout := executionOutcome_statuses env o h
      generalize executionOutcome env o w = outcome at hout ⊢
      obtain ⟨e | result,v⟩ := outcome
      · have hv : StatusesAt i v.cr.status .pending
            (⟨v,((⟨w,[]⟩ : WorkflowState ω).mark .executing).written⟩ : WorkflowState ω) :=
          ⟨Prod.ext rfl hout,hmark.2⟩
        dsimp only
        rw [audited_failure hv]
        simp [preflightCalls,and_assoc]
      · let s : WorkflowState ω := ⟨v,((⟨w,[]⟩ : WorkflowState ω).mark .executing).written⟩
        have hends : EndsMatched i (awaitOutcome env o w.cr (some i) result s).2 ↔
            OutcomeSettles env o w.cr i result v := awaitOutcome_ends hout hmark.2
        dsimp only
        rw [hends]
        simp [preflightCalls,and_assoc]
    · rw [audited_failure hmark]
      simp [preflightCalls,and_assoc]

def sampleDispatched : World Unit :=
  sampleApproved (.generic "patch") (some { generatedSteps := [] }) []

theorem sampleDispatched_start : NewestPending 0 sampleDispatched.cr.status sampleDispatched :=
  ⟨rfl,rfl⟩

theorem sample_ends_matched : EndsMatched 0
    (awaitWorkflow noModules (calmOutcomes sampleDispatched.cr) ⟨sampleDispatched,[]⟩).2 := by
  have hcalm : ∀ calls, Unhindered (calmOutcomes sampleDispatched.cr) calls := fun _ _ _ => rfl
  have hverified : ∀ result w, VerificationSettles noModules (calmOutcomes sampleDispatched.cr)
      sampleDispatched.cr 0 result w := by
    intro result w
    have hpass : (calmOutcomes sampleDispatched.cr).verification.allPassed = true := rfl
    refine ⟨hcalm _,?_⟩
    rw [if_pos hpass]
    exact hcalm _
  refine (workflow_ends_matched_iff noModules _ sampleDispatched 0 sampleDispatched_start).mpr
    ⟨rfl,hcalm _,?_⟩
  have hpass : (calmOutcomes sampleDispatched.cr).preflight.allPassed = true := rfl
  rw [if_pos hpass]
  have hplan : PlanSettles noModules (calmOutcomes sampleDispatched.cr) sampleDispatched.cr 0
      (stepRecords []) { sampleDispatched.markStatus .executing with
        site := (sampleDispatched.markStatus .executing).site.close } := by
    have hchecked : executorResult (stepRecords []) = .ok (stepRecords []) := rfl
    rw [PlanSettles,hchecked]
    exact ⟨rfl,rfl,hcalm _,hverified _ _⟩
  exact ⟨hcalm _,hplan⟩

/-- The verification fails, and nothing raises. -/
def failedVerification : Outcomes :=
  ⟨fun _ => none,⟨true,[]⟩,⟨false,[⟨"health",false,"service is down"⟩]⟩⟩

/-- One event cannot be written. -/
def unwrittenAudit : Outcomes :=
  ⟨fun call => if call = .audit "verification.started" then some (.other "database is gone")
    else none,⟨true,[]⟩,⟨true,[]⟩⟩

/-- After a rollback without undo steps the run is left in rolling back, because its status is none
of a run; after an event that cannot be written the change is left in verifying. -/
theorem transient_statuses_left :
    (awaitWorkflow noModules failedVerification ⟨sampleDispatched,[]⟩).2.world.statuses 0 =
        (.rollbackFailed,some .rollingBack) ∧
      "rollback_failed" ∈
        (awaitWorkflow noModules failedVerification ⟨sampleDispatched,[]⟩).2.written ∧
      ¬EndsMatched 0 (awaitWorkflow noModules failedVerification ⟨sampleDispatched,[]⟩).2 ∧
      (awaitWorkflow noModules unwrittenAudit ⟨sampleDispatched,[]⟩).2.world.statuses 0 =
        (.verifying,some .pending) ∧
      ¬EndsMatched 0 (awaitWorkflow noModules unwrittenAudit ⟨sampleDispatched,[]⟩).2 := by
  have hrolling : (awaitWorkflow noModules failedVerification
      ⟨sampleDispatched,[]⟩).2.world.statuses 0 = (.rollbackFailed,some .rollingBack) := rfl
  have hverifying : (awaitWorkflow noModules unwrittenAudit
      ⟨sampleDispatched,[]⟩).2.world.statuses 0 = (.verifying,some .pending) := rfl
  refine ⟨hrolling,by decide,fun h => ?_,hverifying,fun h => ?_⟩
  · obtain ⟨p,hp,heq⟩ := h.pair
    rw [hrolling] at heq
    simp only [matchingPairs,List.mem_cons,List.not_mem_nil,or_false] at hp
    rcases hp with rfl | rfl | rfl | rfl <;> cases heq
  · obtain ⟨p,hp,heq⟩ := h.pair
    rw [hverifying] at heq
    simp only [matchingPairs,List.mem_cons,List.not_mem_nil,or_false] at hp
    rcases hp with rfl | rfl | rfl | rfl <;> cases heq

end Nexplane
