import Nexplane.ApprovalRequests
import Nexplane.Lib.Orm

set_option autoImplicit false

/-! Execute, cancel and reject requests and the background workflows of one change request,
interleaved statement by statement. -/

namespace Nexplane
open Runs Orm

def executableStatuses : List ChangeRequestStatus := [.approved]

/-- `ChangeExecutionService.start` after its status check, and after its run is committed. -/
inductive StartPhase where
  | checked
  | committed
  deriving DecidableEq, Repr

/-- Where `execute_change_workflow` stands. `updating` lies between the SELECT and the commit of
`update_change_request_status`; `settled` has no action left. -/
inductive WorkflowPhase where
  | begun
  | updating (target loaded : ChangeRequestStatus)
  | executing
  | verifying
  | settled
  deriving DecidableEq, Repr

/-- The statuses the workflow may write next. -/
def WorkflowPhase.targets : WorkflowPhase → List ChangeRequestStatus
  | .begun => [.executing]
  | .updating _ _ => []
  | .executing => [.failed,.completed,.paused,.verifying]
  | .verifying => [.completed,.rolledBack,.rollbackPartial,.rollbackFailed]
  | .settled => [.failed,.completed,.paused]

def WorkflowPhase.after : ChangeRequestStatus → WorkflowPhase
  | .executing => .executing
  | .verifying => .verifying
  | _ => .settled

/-- An action may still come. -/
def WorkflowPhase.mayAct : WorkflowPhase → Bool
  | .begun => true
  | .updating target _ => target = .executing
  | .executing => true
  | .verifying => false
  | .settled => false

/-- The requests that end a change request: the cancel and reject endpoints and the reject
tool. -/
inductive StopKind where
  | cancel
  | reject
  | mcpReject
  deriving DecidableEq, Repr

/-- The status check of each of them; the tool has none. -/
def StopKind.accepts : StopKind → ChangeRequestStatus → Bool
  | .cancel, status => status ∈ cancelableStatuses
  | .reject, status => status = .awaitingApproval
  | .mcpReject, _ => true

structure RaceState where
  status : ChangeRequestStatus
  starts : Nat → Option StartPhase
  workflows : Nat → Option WorkflowPhase
  /-- The stop requests between their SELECT and their commit, with the status they loaded. -/
  stops : Nat → Option (StopKind × ChangeRequestStatus)

inductive RaceEvent where
  | startSelect (i : Nat)
  | startCommit (i : Nat)
  | startWorkflow (i : Nat)
  | updateSelect (i : Nat) (target : ChangeRequestStatus)
  | updateCommit (i : Nat)
  | performAction (i : Nat)
  | stopSelect (i : Nat) (kind : StopKind)
  | stopCommit (i : Nat)
  deriving DecidableEq, Repr

def RaceState.setStart (s : RaceState) (i : Nat) (p : Option StartPhase) : RaceState :=
  { s with starts := fun j => if j = i then p else s.starts j }

def RaceState.setWorkflow (s : RaceState) (i : Nat) (p : Option WorkflowPhase) : RaceState :=
  { s with workflows := fun j => if j = i then p else s.workflows j }

def RaceState.setStop (s : RaceState) (i : Nat) (p : Option (StopKind × ChangeRequestStatus)) :
    RaceState :=
  { s with stops := fun j => if j = i then p else s.stops j }

def raceStep (s : RaceState) : RaceEvent → Option RaceState
  | .startSelect i =>
    if s.starts i = none ∧ s.status ∈ executableStatuses then
      some (s.setStart i (some .checked))
    else none
  | .startCommit i =>
    if s.starts i = some .checked then some (s.setStart i (some .committed)) else none
  | .startWorkflow i =>
    if s.starts i = some .committed ∧ s.workflows i = none then
      some ((s.setStart i none).setWorkflow i (some .begun))
    else none
  | .updateSelect i target =>
    match s.workflows i with
    | none => none
    | some phase =>
      if target ∈ phase.targets then some (s.setWorkflow i (some (.updating target s.status)))
      else none
  | .updateCommit i =>
    match s.workflows i with
    | some (.updating target loaded) =>
      some ({ s with status := flushColumn s.status loaded target }.setWorkflow i
        (some (.after target)))
    | _ => none
  | .performAction i => if s.workflows i = some .executing then some s else none
  | .stopSelect i kind =>
    if s.stops i = none ∧ kind.accepts s.status then
      some (s.setStop i (some (kind,s.status)))
    else none
  | .stopCommit i =>
    match s.stops i with
    | some (_,loaded) =>
      some ({ s with status := flushColumn s.status loaded .rejected }.setStop i none)
    | none => none

def raceSystem : System RaceState RaceEvent where
  start s := s.starts = (fun _ => none) ∧ s.workflows = (fun _ => none) ∧
    s.stops = fun _ => none
  step := raceStep

def IsAction : RaceEvent → Prop
  | .performAction _ => True
  | _ => False

def IsStop : RaceEvent → Prop
  | .stopCommit _ => True
  | _ => False

/-- No action follows the commit of an accepted cancel or reject request. -/
def StopEffective (tr : List (Transition RaceState RaceEvent)) : Prop :=
  tr.Pairwise fun later earlier => IsAction later.label → ¬IsStop earlier.label

theorem stopEffective_iff (tr : List (Transition RaceState RaceEvent)) :
    StopEffective tr ↔
      (tr.map Transition.label).Pairwise fun later earlier => IsAction later → ¬IsStop earlier := by
  rw [List.pairwise_map]
  rfl

/-- A reject request leaves a change request alone that is executing, completed or rolled
back. -/
def RejectRespectful (t : Transition RaceState RaceEvent) : Prop :=
  ∀ i kind loaded, t.label = .stopCommit i → t.pre.stops i = some (kind,loaded) →
    kind ≠ .cancel → t.pre.status ∈ [.executing,.completed,.rolledBack] →
    t.post.status = t.pre.status

/-- A cancel or reject request commits while no execute request is past its check and no
workflow has an action left, and the reject tool is not used on a change request that is
executing, completed or rolled back. -/
def CleanStop (s : RaceState) : RaceEvent → Prop
  | .stopCommit i =>
    (∀ j, s.starts j = none) ∧ (∀ j phase, s.workflows j = some phase → phase.mayAct = false) ∧
      ∀ loaded, s.stops i = some (.mcpReject,loaded) → loaded ≠ .rejected →
        s.status ∉ [.executing,.completed,.rolledBack]
  | _ => True

/-- Nothing that is under way can lead to an action any more. -/
structure Quiet (s : RaceState) : Prop where
  status : s.status ≠ .approved
  starts : ∀ i, s.starts i = none
  workflows : ∀ i phase, s.workflows i = some phase → phase.mayAct = false

/-- A status that some part of the system has written or loaded after the start. -/
structure RaceInv (s : RaceState) : Prop where
  /-- A change request awaiting approval has never been executed. -/
  awaiting : s.status = .awaitingApproval → (∀ i, s.starts i = none) ∧ ∀ i, s.workflows i = none
  /-- A reject request has loaded such a change request, which can only be rejected since. -/
  reject : ∀ i loaded, s.stops i = some (.reject,loaded) →
    loaded = .awaitingApproval ∧ (s.status = .awaitingApproval ∨ s.status = .rejected) ∧
      (∀ i, s.starts i = none) ∧ ∀ i, s.workflows i = none
  /-- Nothing approves a change request that was seen rejected. -/
  stop : ∀ i kind, s.stops i = some (kind,.rejected) → s.status ≠ .approved
  targets : ∀ i target loaded, s.workflows i = some (.updating target loaded) →
    target ≠ .approved ∧ target ≠ .awaitingApproval

section
variable {s s' : RaceState} {i : Nat}

theorem WorkflowPhase.targets_ne {phase : WorkflowPhase} {target : ChangeRequestStatus}
    (h : target ∈ phase.targets) : target ≠ .approved ∧ target ≠ .awaitingApproval := by
  cases phase <;> simp only [targets,List.mem_cons,List.not_mem_nil,or_false] at h
  all_goals
    rcases h with rfl | rfl | rfl | rfl <;> exact ⟨by decide,by decide⟩

theorem WorkflowPhase.after_mayAct {target loaded : ChangeRequestStatus}
    (h : (updating target loaded).mayAct = false) : (after target).mayAct = false := by
  cases target <;> simp_all [mayAct,after]

theorem WorkflowPhase.updating_mayAct {phase : WorkflowPhase}
    {target loaded : ChangeRequestStatus} (h : phase.mayAct = false)
    (ht : target ∈ phase.targets) : (updating target loaded).mayAct = false := by
  cases phase <;> simp only [targets,mayAct,List.mem_cons,List.not_mem_nil,or_false,
    Bool.true_eq_false] at h ht
  all_goals
    rcases ht with rfl | rfl | rfl | rfl <;> rfl

theorem startSelect_some (h : raceStep s (.startSelect i) = some s') :
    s.status = .approved ∧ s' = s.setStart i (some .checked) := by
  simp only [raceStep,Option.ite_none_right_eq_some,Option.some.injEq] at h
  exact ⟨by simpa [executableStatuses] using h.1.2,h.2.symm⟩

theorem startCommit_some (h : raceStep s (.startCommit i) = some s') :
    s.starts i = some .checked ∧ s' = s.setStart i (some .committed) := by
  simp only [raceStep,Option.ite_none_right_eq_some,Option.some.injEq] at h
  exact ⟨h.1,h.2.symm⟩

theorem startWorkflow_some (h : raceStep s (.startWorkflow i) = some s') :
    s.starts i = some .committed ∧ s' = (s.setStart i none).setWorkflow i (some .begun) := by
  simp only [raceStep,Option.ite_none_right_eq_some,Option.some.injEq] at h
  exact ⟨h.1.1,h.2.symm⟩

theorem updateSelect_some {target : ChangeRequestStatus}
    (h : raceStep s (.updateSelect i target) = some s') :
    ∃ phase, s.workflows i = some phase ∧ target ∈ phase.targets ∧
      s' = s.setWorkflow i (some (.updating target s.status)) := by
  cases hw : s.workflows i with
  | none => simp [raceStep,hw] at h
  | some phase =>
    simp only [raceStep,hw,Option.ite_none_right_eq_some,Option.some.injEq] at h
    exact ⟨phase,rfl,h.1,h.2.symm⟩

theorem updateCommit_some (h : raceStep s (.updateCommit i) = some s') :
    ∃ target loaded, s.workflows i = some (.updating target loaded) ∧
      s' = { s with status := flushColumn s.status loaded target }.setWorkflow i
        (some (.after target)) := by
  cases hw : s.workflows i with
  | none => simp [raceStep,hw] at h
  | some phase =>
    cases phase with
    | updating target loaded =>
      simp only [raceStep,hw,Option.some.injEq] at h
      exact ⟨target,loaded,rfl,h.symm⟩
    | _ => simp [raceStep,hw] at h

theorem performAction_some (h : raceStep s (.performAction i) = some s') :
    s.workflows i = some .executing ∧ s' = s := by
  simp only [raceStep,Option.ite_none_right_eq_some,Option.some.injEq] at h
  exact ⟨h.1,h.2.symm⟩

theorem stopSelect_some {kind : StopKind} (h : raceStep s (.stopSelect i kind) = some s') :
    kind.accepts s.status = true ∧ s' = s.setStop i (some (kind,s.status)) := by
  simp only [raceStep,Option.ite_none_right_eq_some,Option.some.injEq] at h
  exact ⟨h.1.2,h.2.symm⟩

theorem stopCommit_some (h : raceStep s (.stopCommit i) = some s') :
    ∃ kind loaded, s.stops i = some (kind,loaded) ∧
      s' = { s with status := flushColumn s.status loaded .rejected }.setStop i none := by
  cases hs : s.stops i with
  | none => simp [raceStep,hs] at h
  | some p =>
    simp only [raceStep,hs,Option.some.injEq] at h
    exact ⟨p.1,p.2,rfl,h.symm⟩

@[simp] theorem setStart_starts (s : RaceState) (i j : Nat) (p : Option StartPhase) :
    (s.setStart i p).starts j = if j = i then p else s.starts j := rfl

@[simp] theorem setStart_workflows (s : RaceState) (i : Nat) (p : Option StartPhase) :
    (s.setStart i p).workflows = s.workflows := rfl

@[simp] theorem setStart_stops (s : RaceState) (i : Nat) (p : Option StartPhase) :
    (s.setStart i p).stops = s.stops := rfl

@[simp] theorem setStart_status (s : RaceState) (i : Nat) (p : Option StartPhase) :
    (s.setStart i p).status = s.status := rfl

@[simp] theorem setWorkflow_workflows (s : RaceState) (i j : Nat) (p : Option WorkflowPhase) :
    (s.setWorkflow i p).workflows j = if j = i then p else s.workflows j := rfl

@[simp] theorem setWorkflow_starts (s : RaceState) (i : Nat) (p : Option WorkflowPhase) :
    (s.setWorkflow i p).starts = s.starts := rfl

@[simp] theorem setWorkflow_stops (s : RaceState) (i : Nat) (p : Option WorkflowPhase) :
    (s.setWorkflow i p).stops = s.stops := rfl

@[simp] theorem setWorkflow_status (s : RaceState) (i : Nat) (p : Option WorkflowPhase) :
    (s.setWorkflow i p).status = s.status := rfl

@[simp] theorem setStop_stops (s : RaceState) (i j : Nat)
    (p : Option (StopKind × ChangeRequestStatus)) :
    (s.setStop i p).stops j = if j = i then p else s.stops j := rfl

@[simp] theorem setStop_starts (s : RaceState) (i : Nat)
    (p : Option (StopKind × ChangeRequestStatus)) : (s.setStop i p).starts = s.starts := rfl

@[simp] theorem setStop_workflows (s : RaceState) (i : Nat)
    (p : Option (StopKind × ChangeRequestStatus)) : (s.setStop i p).workflows = s.workflows := rfl

@[simp] theorem setStop_status (s : RaceState) (i : Nat)
    (p : Option (StopKind × ChangeRequestStatus)) : (s.setStop i p).status = s.status := rfl

/-- While an execute request or a workflow is under way, no one awaits approval. -/
theorem RaceInv.started (hi : RaceInv s) (h : s.starts i ≠ none ∨ s.workflows i ≠ none) :
    s.status ≠ .awaitingApproval ∧ ∀ j loaded, s.stops j ≠ some (.reject,loaded) := by
  constructor
  · intro ha
    obtain ⟨h1,h2⟩ := hi.awaiting ha
    rcases h with h | h
    · exact h (h1 i)
    · exact h (h2 i)
  · intro j loaded hj
    obtain ⟨_,_,h1,h2⟩ := hi.reject j loaded hj
    rcases h with h | h
    · exact h (h1 i)
    · exact h (h2 i)

theorem RaceInv.frame (hi : RaceInv s) (hst : s'.status = s.status) (hstops : s'.stops = s.stops)
    (hne : s.status ≠ .awaitingApproval ∧ ∀ j loaded, s.stops j ≠ some (.reject,loaded))
    (ht : ∀ i target loaded, s'.workflows i = some (.updating target loaded) →
      target ≠ .approved ∧ target ≠ .awaitingApproval) : RaceInv s' := by
  refine ⟨?_,?_,?_,ht⟩
  · intro ha
    exact absurd (hst ▸ ha) hne.1
  · intro j loaded hj
    rw [hstops] at hj
    exact absurd hj (hne.2 j loaded)
  · intro j kind hj
    rw [hstops] at hj
    rw [hst]
    exact hi.stop j kind hj

theorem RaceInv.updateCommit (hi : RaceInv s) (h : raceStep s (.updateCommit i) = some s') :
    RaceInv s' := by
  obtain ⟨target,loaded,hw,rfl⟩ := updateCommit_some h
  have hwork : s.workflows i ≠ none := by simp [hw]
  have hne := hi.started (Or.inr hwork)
  have ht := hi.targets i target loaded hw
  have hst : flushColumn s.status loaded target ≠ .awaitingApproval ∧
      (flushColumn s.status loaded target = .approved → s.status = .approved) := by
    rcases flushColumn_cases s.status loaded target with ⟨_,hf⟩ | ⟨_,hf⟩ <;> rw [hf]
    · exact ⟨hne.1,id⟩
    · exact ⟨ht.2,fun h => absurd h ht.1⟩
  refine ⟨fun ha => absurd ha hst.1,fun j l hj => absurd hj (hne.2 j l),?_,?_⟩
  · intro j kind hj ha
    exact hi.stop j kind hj (hst.2 ha)
  · intro j target' loaded' hj
    by_cases hji : j = i
    · cases target <;> simp [hji,WorkflowPhase.after] at hj
    · exact hi.targets j target' loaded' (by simpa [hji] using hj)

theorem RaceInv.stopSelect {kind : StopKind} (hi : RaceInv s)
    (h : raceStep s (.stopSelect i kind) = some s') : RaceInv s' := by
  obtain ⟨hk,rfl⟩ := stopSelect_some h
  refine ⟨hi.awaiting,?_,?_,hi.targets⟩
  · intro j loaded hj
    by_cases hji : j = i
    · simp only [setStop_stops,hji,if_true,Option.some.injEq,Prod.mk.injEq] at hj
      obtain ⟨rfl,rfl⟩ := hj
      have ha : s.status = .awaitingApproval := by simpa [StopKind.accepts] using hk
      exact ⟨ha,Or.inl ha,hi.awaiting ha⟩
    · exact hi.reject j loaded (by simpa [hji] using hj)
  · intro j kind' hj
    by_cases hji : j = i
    · simp only [setStop_stops,hji,if_true,Option.some.injEq,Prod.mk.injEq] at hj
      simp [hj.2]
    · exact hi.stop j kind' (by simpa [hji] using hj)

theorem setStop_none {j : Nat} {p : StopKind × ChangeRequestStatus}
    (h : (s.setStop i none).stops j = some p) : s.stops j = some p := by
  by_cases hji : j = i
  · simp [hji] at h
  · simpa [hji] using h

theorem RaceInv.stopCommit (hi : RaceInv s) (h : raceStep s (.stopCommit i) = some s') :
    RaceInv s' := by
  obtain ⟨kind,loaded,hs,rfl⟩ := stopCommit_some h
  have hst : flushColumn s.status loaded .rejected = s.status ∨
      flushColumn s.status loaded .rejected = .rejected := by
    rcases flushColumn_cases s.status loaded .rejected with ⟨_,hf⟩ | ⟨_,hf⟩
    · exact Or.inl hf
    · exact Or.inr hf
  refine ⟨?_,?_,?_,hi.targets⟩
  · intro ha
    have ha : flushColumn s.status loaded .rejected = .awaitingApproval := ha
    rcases hst with hst | hst <;> rw [hst] at ha
    · exact hi.awaiting ha
    · cases ha
  · intro j l hj
    obtain ⟨h1,h2,h3⟩ := hi.reject j l (setStop_none hj)
    refine ⟨h1,?_,h3⟩
    rcases hst with hst | hst
    · simpa [hst] using h2
    · exact Or.inr hst
  · intro j kind' hj ha
    have ha : flushColumn s.status loaded .rejected = .approved := ha
    rcases hst with hst | hst <;> rw [hst] at ha
    · exact hi.stop j kind' (setStop_none hj) ha
    · cases ha

theorem raceInv_inductive : Inductive raceSystem RaceInv := by
  refine ⟨?_,?_⟩
  · rintro s ⟨h1,h2,h3⟩
    exact ⟨by simp [h1,h2],by simp [h3],by simp [h3],by simp [h2]⟩
  · intro s e s' hi h
    cases e with
    | startSelect i =>
      obtain ⟨happ,rfl⟩ := startSelect_some h
      refine hi.frame rfl rfl ⟨by simp [happ],?_⟩ hi.targets
      intro j loaded hj
      obtain ⟨_,hs,_⟩ := hi.reject j loaded hj
      rw [happ] at hs
      rcases hs with hs | hs <;> cases hs
    | startCommit i =>
      obtain ⟨hs,rfl⟩ := startCommit_some h
      have hne : s.starts i ≠ none := by simp [hs]
      exact hi.frame rfl rfl (hi.started (Or.inl hne)) hi.targets
    | startWorkflow i =>
      obtain ⟨hs,rfl⟩ := startWorkflow_some h
      have hne : s.starts i ≠ none := by simp [hs]
      refine hi.frame rfl rfl (hi.started (Or.inl hne)) ?_
      intro j target loaded hj
      by_cases hji : j = i
      · simp [hji] at hj
      · exact hi.targets j target loaded (by simpa [hji] using hj)
    | updateSelect i target =>
      obtain ⟨phase,hw,ht,rfl⟩ := updateSelect_some h
      have hne : s.workflows i ≠ none := by simp [hw]
      refine hi.frame rfl rfl (hi.started (Or.inr hne)) ?_
      intro j target' loaded hj
      by_cases hji : j = i
      · simp only [setWorkflow_workflows,hji,if_true,Option.some.injEq,
          WorkflowPhase.updating.injEq] at hj
        exact hj.1 ▸ WorkflowPhase.targets_ne ht
      · exact hi.targets j target' loaded (by simpa [hji] using hj)
    | updateCommit i => exact hi.updateCommit h
    | performAction i =>
      obtain ⟨_,rfl⟩ := performAction_some h
      exact hi
    | stopSelect i kind => exact hi.stopSelect h
    | stopCommit i => exact hi.stopCommit h

theorem stopCommit_quiet (hi : RaceInv s) (hG : CleanStop s (.stopCommit i))
    (h : raceStep s (.stopCommit i) = some s') : Quiet s' := by
  obtain ⟨kind,loaded,hs,rfl⟩ := stopCommit_some h
  refine ⟨?_,hG.1,hG.2.1⟩
  have hst : flushColumn s.status loaded .rejected ≠ .approved := by
    rcases flushColumn_cases s.status loaded .rejected with ⟨hl,hf⟩ | ⟨_,hf⟩ <;> rw [hf]
    · subst hl
      exact hi.stop i kind hs
    · decide
  exact hst

theorem Quiet.step {e : RaceEvent} (hi : RaceInv s) (hG : CleanStop s e)
    (h : raceStep s e = some s') (hq : Quiet s) : Quiet s' := by
  cases e with
  | startSelect i => exact absurd (startSelect_some h).1 hq.status
  | startCommit i =>
    have hs := (startCommit_some h).1
    rw [hq.starts i] at hs
    cases hs
  | startWorkflow i =>
    have hs := (startWorkflow_some h).1
    rw [hq.starts i] at hs
    cases hs
  | updateSelect i target =>
    obtain ⟨phase,hw,ht,rfl⟩ := updateSelect_some h
    have hact := hq.workflows i phase hw
    refine ⟨hq.status,hq.starts,fun j phase' hj => ?_⟩
    by_cases hji : j = i
    · have hp : WorkflowPhase.updating target s.status = phase' := by simpa [hji] using hj
      rw [← hp]
      exact WorkflowPhase.updating_mayAct hact ht
    · exact hq.workflows j phase' (by simpa [hji] using hj)
  | updateCommit i =>
    obtain ⟨target,loaded,hw,rfl⟩ := updateCommit_some h
    have hact := hq.workflows i _ hw
    refine ⟨?_,hq.starts,fun j phase hj => ?_⟩
    · have hst : flushColumn s.status loaded target ≠ .approved := by
        rcases flushColumn_cases s.status loaded target with ⟨_,hf⟩ | ⟨_,hf⟩ <;> rw [hf]
        · exact hq.status
        · exact (hi.targets i target loaded hw).1
      exact hst
    · by_cases hji : j = i
      · have hp : WorkflowPhase.after target = phase := by simpa [hji] using hj
        rw [← hp]
        exact WorkflowPhase.after_mayAct hact
      · exact hq.workflows j phase (by simpa [hji] using hj)
  | performAction i =>
    obtain ⟨_,rfl⟩ := performAction_some h
    exact hq
  | stopSelect i kind =>
    obtain ⟨_,rfl⟩ := stopSelect_some h
    exact ⟨hq.status,hq.starts,hq.workflows⟩
  | stopCommit i => exact stopCommit_quiet hi hG h

theorem stopCommit_respectful (hi : RaceInv s) (hG : CleanStop s (.stopCommit i))
    (h : raceStep s (.stopCommit i) = some s') : RejectRespectful ⟨s,.stopCommit i,s'⟩ := by
  intro j kind loaded hj hs hk hst
  obtain rfl : i = j := by simpa using hj
  obtain ⟨kind',loaded',hs',rfl⟩ := stopCommit_some h
  obtain ⟨rfl,rfl⟩ : kind' = kind ∧ loaded' = loaded := by
    have := hs'.symm.trans hs
    simpa using this
  rcases flushColumn_cases s.status loaded' .rejected with ⟨_,hf⟩ | ⟨hl,_⟩
  · exact hf
  · cases kind' with
    | cancel => exact absurd rfl hk
    | reject =>
      obtain ⟨_,ha,_⟩ := hi.reject i loaded' hs
      rcases ha with ha | ha <;> simp [ha] at hst
    | mcpReject => exact absurd hst (hG.2.2 loaded' hs (Ne.symm hl))

end

/-- In every run whose cancel and reject requests commit with nothing under way, no action
follows them, and a reject leaves what is executing or done alone. -/
theorem stops_effective {tr : List (Transition RaceState RaceEvent)} {s : RaceState}
    (h : Run raceSystem tr s) (hG : ∀ t ∈ tr, CleanStop t.pre t.label) :
    StopEffective tr ∧ ∀ t ∈ tr, RejectRespectful t := by
  have hI : InductiveUnder raceSystem CleanStop RaceInv :=
    ⟨raceInv_inductive.start,fun s a s' hi _ hs => raceInv_inductive.step s a s' hi hs⟩
  constructor
  · refine h.never_after (Q := Quiet) hI ?_ ?_ ?_ hG
    · rintro ⟨s,e,s'⟩ hi hg hs hstop
      cases e with
      | stopCommit i => exact stopCommit_quiet hi hg hs
      | _ => exact hstop.elim
    · rintro ⟨s,e,s'⟩ hi hg hs hq
      exact hq.step hi hg hs
    · rintro ⟨s,e,s'⟩ hg hs hq hact
      cases e with
      | performAction i =>
        have hmay := hq.workflows i _ (performAction_some hs).1
        simp [WorkflowPhase.mayAct] at hmay
      | _ => exact hact
  · intro t ht
    obtain ⟨hi,hs⟩ := h.transition_guarded hI hG t ht
    obtain ⟨pre,label,post⟩ := t
    cases label with
    | stopCommit i => exact stopCommit_respectful hi (hG _ ht) hs
    | _ => intro j kind loaded hj; simp at hj

/-- Nothing under way. -/
def RaceState.idle (status : ChangeRequestStatus) : RaceState where
  status := status
  starts := fun _ => none
  workflows := fun _ => none
  stops := fun _ => none

/-- An execution that fails after one action, up to a reject that has loaded its row. -/
def sampleFailure : List RaceEvent :=
  [.startSelect 0,.startCommit 0,.startWorkflow 0,.updateSelect 0 .executing,.updateCommit 0,
    .performAction 0,.updateSelect 0 .failed,.updateCommit 0,.stopSelect 0 .mcpReject]

def sampleFailed : RaceState :=
  (raceSystem.replay (.idle .approved) sampleFailure).getD (.idle .approved)

theorem idle_start (status : ChangeRequestStatus) : raceSystem.start (.idle status) :=
  ⟨rfl,rfl,rfl⟩

theorem sample_stops_effective :
    ∃ tr s, Run raceSystem tr s ∧
      tr.map Transition.label = .stopCommit 0 :: sampleFailure.reverse ∧
      StopEffective tr ∧ ∀ t ∈ tr, RejectRespectful t := by
  have hfail : raceSystem.replay (.idle .approved) sampleFailure = some sampleFailed := rfl
  have h := (Run.start (idle_start .approved)).replay hfail
  have hlabels : (raceSystem.history [] (.idle .approved) sampleFailure).map Transition.label =
      sampleFailure.reverse := rfl
  have hstop : raceSystem.step sampleFailed (.stopCommit 0) = some _ := rfl
  refine ⟨_,_,h.step hstop,congrArg (RaceEvent.stopCommit 0 :: ·) hlabels,
    stops_effective (h.step hstop) ?_⟩
  intro t ht
  rcases List.mem_cons.mp ht with rfl | ht
  · refine ⟨?_,?_,?_⟩
    · rintro (_ | j) <;> rfl
    · rintro (_ | j) phase hj
      · obtain rfl : WorkflowPhase.settled = phase := Option.some.inj hj
        rfl
      · cases hj
    · intro loaded _ _
      decide
  · have hl := List.mem_map_of_mem (f := Transition.label) ht
    rw [hlabels] at hl
    cases hlab : t.label with
    | stopCommit i => simp [hlab,sampleFailure] at hl
    | _ => trivial

/-- A cancel request is accepted and committed between the start of an execution and its first
write of the status. -/
def sampleCancelled : List RaceEvent :=
  [.startSelect 0,.startCommit 0,.startWorkflow 0,.stopSelect 0 .cancel,.stopCommit 0,
    .updateSelect 0 .executing,.updateCommit 0]

theorem cancel_then_action :
    ¬∀ (tr : List (Transition RaceState RaceEvent)) (s : RaceState), Run raceSystem tr s →
      StopEffective tr ∧ ∀ t ∈ tr, RejectRespectful t := by
  intro hall
  obtain ⟨s,hs⟩ : ∃ s, raceSystem.replay (.idle .approved)
      (sampleCancelled ++ [.performAction 0]) = some s := ⟨_,rfl⟩
  have heff := (hall _ _ ((Run.start (idle_start .approved)).replay hs)).1
  have hmap : (raceSystem.history [] (.idle .approved)
      (sampleCancelled ++ [.performAction 0])).map Transition.label =
        .performAction 0 :: sampleCancelled.reverse := rfl
  have hpair := (stopEffective_iff _).mp heff
  rw [hmap] at hpair
  exact (List.pairwise_cons.mp hpair).1 (.stopCommit 0) (by decide) trivial trivial

end Nexplane
