import Nexplane.RunbookExecutor

set_option autoImplicit false

/-! Whole runs of a runbook execution: when it completes, and when no tick moves it on. -/

namespace Nexplane
open PyValue Runs

/-- The work on the change request is not over. -/
def ChangeRequestStatus.inProgress : ChangeRequestStatus → Bool
  | .draft | .planned | .safetyReview | .awaitingApproval | .approved | .executing
  | .verifying | .queuedForMaintenance | .preflightRunning | .batchRunning | .paused => true
  | _ => false

namespace RunbookExecution

def statusAt (ex : RunbookExecution) (n : Int) : StepResultStatus :=
  ((ex.resultAt n).map RunbookStepResult.status).getD .pending

def changeRequestsAt (ex : RunbookExecution) (n : Int) : List Uuid :=
  ((ex.resultAt n).map RunbookStepResult.changeRequestIds).getD []

def PastLast (ex : RunbookExecution) (n : Int) : Prop := ∀ d ∈ ex.steps, d.fields.stepNumber < n

end RunbookExecution

/-- No tick changes the execution, though no change request of its step is in progress. -/
def RunbookExecutor.Stuck (eval : Evaluator) (s : RunbookExecutor) : Prop :=
  s.execution.status = .running ∧
    (∀ i, (s.tickExecution eval i).execution = s.execution) ∧
    ∀ crId ∈ s.execution.changeRequestsAt s.execution.currentStep,
      (s.changeRequests crId).any ChangeRequestStatus.inProgress = false

/-- The step completed the execution. -/
def BecomesCompleted (t : Transition RunbookExecutor RunbookEvent) : Prop :=
  t.pre.execution.status ≠ .completed ∧ t.post.execution.status = .completed

/-- No step is left, or a condition ended the runbook. -/
def RunbookExecutor.AtEnd (s : RunbookExecutor) : Prop :=
  s.execution.PastLast s.execution.currentStep ∨ s.execution.sentByCondition = true

/-- What a tick finds out about the step. -/
inductive StepFate where
  | waits
  | succeeds
  | fails
  | jumps (target : Int)

namespace RunbookExecutor

def stepFate (eval : Evaluator) (s : RunbookExecutor) (d : StepTree) (r : RunbookStepResult)
    (i : TickInput) : StepFate :=
  if d.fields.type = "change" then
    match r.status with
    | .pending =>
      match i.created 0 with
      | .error (.valueError _) => .fails
      | _ => .waits
    | .running =>
      match r.changeRequestIds with
      | [] => .waits
      | crId :: _ =>
        match s.changeRequests crId with
        | none => .fails
        | some .completed => .succeeds
        | some .failed | some .rejected | some .rolledBack => .fails
        | some _ => .waits
    | _ => .waits
  else if d.fields.type = "condition" then
    if r.status = .pending then
      match conditionValue eval s.execution d with
      | .error _ => .fails
      | .ok value => .jumps ((conditionTarget d value).getD 9999)
    else .waits
  else if d.fields.type = "human_checkpoint" then
    if r.status = .waitingHuman ∧ timedOut d r i.now ∧ d.fields.onTimeout ≠ some "abort" then
      .succeeds
    else .waits
  else if d.fields.type = "parallel_group" then
    match r.status with
    | .pending =>
      match (createChildren i.created 0 d.parallelSteps s.changeRequests).2.2 with
      | some (.valueError _) => .fails
      | _ => .waits
    | .running =>
      if r.changeRequestIds.all s.childTerminal then
        if r.changeRequestIds.any s.childFailed then .fails else .succeeds
      else .waits
    | _ => .waits
  else .waits

end RunbookExecutor

section Lookup

variable {ex : RunbookExecution} {d : StepTree} {r : RunbookStepResult} {n m : Int}

theorem stepAt_number (h : ex.stepAt n = some d) : d.fields.stepNumber = n := by
  simpa using List.find?_some h

theorem resultAt_number (h : ex.resultAt n = some r) : r.stepNumber = n := by
  simpa using List.find?_some h

theorem resultAt_save_self {r' : RunbookStepResult} (h : ex.resultAt n = some r')
    (hr : r.stepNumber = n) : (ex.save r).resultAt n = some r := by
  unfold RunbookExecution.resultAt at h
  unfold RunbookExecution.resultAt RunbookExecution.save
  generalize ex.stepResults = rows at h
  induction rows with
  | nil => cases h
  | cons row rows ih =>
    by_cases hrow : row.stepNumber = n
    · simp [hrow,hr]
    · have := ih (by simpa [hrow] using h)
      simpa [hrow,hr] using this

theorem resultAt_save_ne (h : r.stepNumber ≠ n) : (ex.save r).resultAt n = ex.resultAt n := by
  unfold RunbookExecution.resultAt RunbookExecution.save
  induction ex.stepResults with
  | nil => rfl
  | cons row rows ih =>
    by_cases hrow : row.stepNumber = r.stepNumber
    · simpa [hrow,h] using ih
    · by_cases hn : row.stepNumber = n
      · subst hn
        simp [hrow]
      · simpa [hrow,hn] using ih

variable (ex d) in
theorem getOrCreate_number : (ex.getOrCreateStepResult d).1.stepNumber = d.fields.stepNumber := by
  unfold RunbookExecution.getOrCreateStepResult
  cases hrow : ex.resultAt d.fields.stepNumber with
  | none => rfl
  | some r => exact resultAt_number hrow

variable (ex d) in
/-- The row of the step is there, with what it had. -/
theorem getOrCreate_resultAt :
    (ex.getOrCreateStepResult d).2.resultAt d.fields.stepNumber =
      some (ex.getOrCreateStepResult d).1 := by
  unfold RunbookExecution.getOrCreateStepResult
  cases hrow : ex.resultAt d.fields.stepNumber with
  | none =>
    have hnone : ex.stepResults.find? (fun r => r.stepNumber = d.fields.stepNumber) = none := hrow
    simp [RunbookExecution.resultAt,List.find?_append,hnone]
  | some r => exact hrow

variable (ex d) in
theorem getOrCreate_statusAt (n : Int) :
    (ex.getOrCreateStepResult d).2.statusAt n = ex.statusAt n ∧
      (ex.getOrCreateStepResult d).2.changeRequestsAt n = ex.changeRequestsAt n := by
  unfold RunbookExecution.statusAt RunbookExecution.changeRequestsAt
    RunbookExecution.getOrCreateStepResult
  cases hrow : ex.resultAt d.fields.stepNumber with
  | some r => simp
  | none =>
    cases hn : ex.resultAt n with
    | some r =>
      have hfind : ex.stepResults.find? (fun r => r.stepNumber = n) = some r := hn
      simp [RunbookExecution.resultAt,List.find?_append,hfind]
    | none =>
      have hfind : ex.stepResults.find? (fun r => r.stepNumber = n) = none := hn
      by_cases hd : d.fields.stepNumber = n
      · simp [RunbookExecution.resultAt,List.find?_append,hfind,hd]
      · simp [RunbookExecution.resultAt,List.find?_append,hfind,hd]

variable (ex d) in
theorem getOrCreate_status :
    (ex.getOrCreateStepResult d).1.status = ex.statusAt d.fields.stepNumber ∧
      (ex.getOrCreateStepResult d).1.changeRequestIds =
        ex.changeRequestsAt d.fields.stepNumber := by
  obtain ⟨hstatus,hids⟩ := getOrCreate_statusAt ex d d.fields.stepNumber
  rw [← hstatus,← hids,RunbookExecution.statusAt,RunbookExecution.changeRequestsAt,
    getOrCreate_resultAt]
  exact ⟨rfl,rfl⟩

variable (ex d) in
/-- Besides the row, nothing is changed. -/
theorem getOrCreate_frame :
    (ex.getOrCreateStepResult d).2.steps = ex.steps ∧
      (ex.getOrCreateStepResult d).2.currentStep = ex.currentStep ∧
      (ex.getOrCreateStepResult d).2.status = ex.status := by
  unfold RunbookExecution.getOrCreateStepResult
  cases ex.resultAt d.fields.stepNumber <;> exact ⟨rfl,rfl,rfl⟩

end Lookup

/-- The ways in which a tick carries out a step, whose row `r` is there, by the fate of the
step. -/
inductive StepTaken (s : RunbookExecutor) (d : StepTree) (r : RunbookStepResult)
    (s' : RunbookExecutor) : StepFate → Prop where
  | stays : s'.execution = s.execution →
      (∀ crId, s'.changeRequests crId = s.changeRequests crId ∨
        s'.changeRequests crId = some .approved) → StepTaken s d r s' .waits
  | starts (r' : RunbookStepResult) : s'.execution = s.execution.save r' →
      r'.stepNumber = r.stepNumber → r'.status = .running →
      d.fields.type = "change" ∧ r'.changeRequestIds ≠ [] ∨ d.fields.type = "parallel_group" →
      (∀ crId ∈ r'.changeRequestIds, s'.changeRequests crId = some .approved) →
      StepTaken s d r s' .waits
  | asks (r' : RunbookStepResult) :
      s'.execution = { s.execution.save r' with status := .waitingHuman } →
      StepTaken s d r s' .waits
  | expires (r' : RunbookStepResult) (now : Int) :
      s'.execution = (s.execution.save r').finish .failed now → StepTaken s d r s' .waits
  | succeeds (r' : RunbookStepResult) (status : RunbookStatus) :
      s'.execution = { (s.execution.save r').advance with status := status } →
      r'.stepNumber = r.stepNumber → r'.status = .completed →
      status = s.execution.status ∨ status = .running → StepTaken s d r s' .succeeds
  | fails (r' : RunbookStepResult) (now : Int) :
      s'.execution = (s.execution.save r').handleStepFailure d now →
      r'.stepNumber = r.stepNumber → r'.status = .failed → StepTaken s d r s' .fails
  | jumps (r' : RunbookStepResult) (n : Int) :
      s'.execution = (s.execution.save r').goTo n true →
      r'.stepNumber = r.stepNumber → r'.status = .completed → StepTaken s d r s' (.jumps n)

open RunbookExecutor

theorem createChildren_approved (created : Nat → Except Exc Uuid) (k : Nat)
    (children : List StepTree) (crs : Uuid → Option ChangeRequestStatus) :
    (∀ crId ∈ (createChildren created k children crs).1,
      (createChildren created k children crs).2.1 crId = some .approved) ∧
    ∀ crId, (createChildren created k children crs).2.1 crId = crs crId ∨
      (createChildren created k children crs).2.1 crId = some .approved := by
  induction children generalizing k crs with
  | nil => simp [createChildren]
  | cons child rest ih =>
    cases hcreated : created k with
    | error e => simp [createChildren,hcreated]
    | ok new =>
      obtain ⟨hstarted,hother⟩ := ih (k + 1) (Function.update crs new (some .approved))
      simp only [createChildren,hcreated,List.forall_mem_cons]
      refine ⟨⟨?_,hstarted⟩,fun crId => ?_⟩
      · rcases hother new with h | h
        · rw [h,Function.update_self]
        · exact h
      · rcases hother crId with h | h
        · by_cases hid : crId = new
          · subst hid
            exact Or.inr (h.trans (Function.update_self _ _ _))
          · exact Or.inl (h.trans (Function.update_of_ne hid _ _))
        · exact Or.inr h

theorem createChildren_ok {created : Nat → Except Exc Uuid} (h : ∀ k, ∃ crId, created k = .ok crId)
    (k : Nat) (children : List StepTree) (crs : Uuid → Option ChangeRequestStatus) :
    (createChildren created k children crs).2.2 = none := by
  induction children generalizing k crs with
  | nil => rfl
  | cons child rest ih =>
    obtain ⟨new,hnew⟩ := h k
    simp only [createChildren,hnew]
    exact ih _ _

section Ticks

variable {eval : Evaluator} {s : RunbookExecutor} {d : StepTree} {r : RunbookStepResult}
  {i : TickInput}

theorem changeStep_taken (htype : d.fields.type = "change") :
    StepTaken s d r (s.executeChangeStep d r i) (s.stepFate eval d r i) := by
  rw [RunbookExecutor.stepFate,if_pos htype]
  unfold RunbookExecutor.executeChangeStep
  cases hr : r.status with
  | pending =>
    rcases hcreated : i.created 0 with e | crId
    · cases e with
      | valueError message => exact .fails _ _ rfl rfl rfl
      | _ => exact .stays rfl fun _ => Or.inl rfl
    · exact .starts _ rfl rfl rfl (Or.inl ⟨htype,by simp⟩) (by simp)
  | running =>
    rcases hids : r.changeRequestIds with _ | ⟨crId,rest⟩
    · exact .stays rfl fun _ => Or.inl rfl
    · dsimp only
      cases hcr : s.changeRequests crId with
      | none => exact .fails _ _ rfl rfl rfl
      | some status =>
        cases status with
        | completed => exact .succeeds _ s.execution.status rfl rfl rfl (Or.inl rfl)
        | failed | rejected | rolledBack => exact .fails _ _ rfl rfl rfl
        | _ => exact .stays rfl fun _ => Or.inl rfl
  | _ => exact .stays rfl fun _ => Or.inl rfl

theorem conditionStep_taken (htype : d.fields.type = "condition") :
    StepTaken s d r (s.executeConditionStep eval d r i) (s.stepFate eval d r i) := by
  rw [RunbookExecutor.stepFate,if_neg (by simp [htype]),if_pos htype]
  unfold RunbookExecutor.executeConditionStep
  by_cases hr : r.status = .pending
  · rw [if_neg (not_not_intro hr),if_pos hr]
    cases conditionValue eval s.execution d with
    | error e => exact .fails _ _ rfl rfl rfl
    | ok value => exact .jumps _ _ rfl rfl rfl
  · rw [if_pos hr,if_neg hr]
    exact .stays rfl fun _ => Or.inl rfl

theorem checkpointStep_taken (htype : d.fields.type = "human_checkpoint") :
    StepTaken s d r (s.executeCheckpointStep d r i) (s.stepFate eval d r i) := by
  rw [RunbookExecutor.stepFate,if_neg (by simp [htype]),if_neg (by simp [htype]),if_pos htype]
  unfold RunbookExecutor.executeCheckpointStep
  by_cases hr : r.status = .pending
  · rw [if_pos hr,if_neg (by simp [hr])]
    exact .asks _ rfl
  · rw [if_neg hr]
    by_cases hover : r.status = .waitingHuman ∧ timedOut d r i.now
    · rw [if_pos hover]
      by_cases habort : d.fields.onTimeout = some "abort"
      · rw [if_pos habort,if_neg (by simp [habort])]
        exact .expires _ _ rfl
      · rw [if_neg habort,if_pos ⟨hover.1,hover.2,habort⟩]
        exact .succeeds _ .running rfl rfl rfl (Or.inr rfl)
    · rw [if_neg hover,if_neg fun h => hover ⟨h.1,h.2.1⟩]
      exact .stays rfl fun _ => Or.inl rfl

theorem parallelStep_taken (htype : d.fields.type = "parallel_group") :
    StepTaken s d r (s.executeParallelStep d r i) (s.stepFate eval d r i) := by
  rw [RunbookExecutor.stepFate,if_neg (by simp [htype]),if_neg (by simp [htype]),
    if_neg (by simp [htype]),if_pos htype]
  unfold RunbookExecutor.executeParallelStep
  cases hr : r.status with
  | pending =>
    obtain ⟨happroved,hother⟩ :=
      createChildren_approved i.created 0 d.parallelSteps s.changeRequests
    generalize createChildren i.created 0 d.parallelSteps s.changeRequests = started
      at happroved hother ⊢
    obtain ⟨crIds,crs,e⟩ := started
    cases e with
    | none => exact .starts _ rfl rfl rfl (Or.inr htype) happroved
    | some e =>
      cases e with
      | valueError message => exact .fails _ _ rfl rfl rfl
      | _ => exact .stays rfl hother
  | running =>
    dsimp only
    by_cases hall : r.changeRequestIds.all s.childTerminal
    · rw [if_pos hall,if_pos hall]
      by_cases hfailed : r.changeRequestIds.any s.childFailed
      · rw [if_pos hfailed,if_pos hfailed]
        exact .fails _ _ rfl rfl rfl
      · rw [if_neg hfailed,if_neg hfailed]
        exact .succeeds _ s.execution.status rfl rfl rfl (Or.inl rfl)
    · rw [if_neg hall,if_neg hall]
      exact .stays rfl fun _ => Or.inl rfl
  | _ => exact .stays rfl fun _ => Or.inl rfl

variable (eval s d r i) in
theorem executeStep_taken :
    StepTaken s d r (s.executeStep eval d r i) (s.stepFate eval d r i) := by
  unfold RunbookExecutor.executeStep
  split
  · exact changeStep_taken ‹_›
  split
  · exact conditionStep_taken ‹_›
  split
  · exact checkpointStep_taken ‹_›
  split
  · exact parallelStep_taken ‹_›
  · rw [RunbookExecutor.stepFate,if_neg ‹_›,if_neg ‹_›,if_neg ‹_›,if_neg ‹_›]
    exact .stays rfl fun _ => Or.inl rfl

end Ticks

def knownStepTypes : List String := ["change","condition","human_checkpoint","parallel_group"]

def knownFailureActions : List String := ["abort","continue","rollback_all"]

/-- A tick can tell what such a status of one of its change requests means for the step. -/
def StatusHandled (d : StepTree) : Option ChangeRequestStatus → Prop
  | none => d.fields.type = "change"
  | some status => status.inProgress = true ∨ status ∈ terminalStatuses

namespace RunbookExecution

/-- The step with the number, if there is one, is of a known type and yet to be carried out. -/
def Open (ex : RunbookExecution) (n : Int) : Prop :=
  ∀ d, ex.stepAt n = some d → d.fields.type ∈ knownStepTypes ∧ ex.statusAt n = .pending

/-- The number is open and in no gap. -/
def Follows (ex : RunbookExecution) (n : Int) : Prop :=
  ex.Open n ∧ (ex.stepAt n = none → ex.PastLast n)

def Meets (ex : RunbookExecution) (d : StepTree) : StepFate → Prop
  | .waits => True
  | .succeeds => ex.Follows (ex.currentStep + 1)
  | .fails => d.fields.onFailure ∈ knownFailureActions ∧
      (d.fields.onFailure = "continue" → ex.Follows (ex.currentStep + 1))
  | .jumps n => n ≠ ex.currentStep ∧ ex.Open n

end RunbookExecution

/-- The step leads the execution to an open step or to its end, and no change request of its
current step ends in a way that a tick does not handle. -/
def MovesOn (eval : Evaluator) (s : RunbookExecutor) : RunbookEvent → Prop
  | .tick i => ∀ d, s.execution.stepAt s.execution.currentStep = some d →
      s.execution.Meets d ((s.setExecution (s.execution.getOrCreateStepResult d).2).stepFate eval d
        (s.execution.getOrCreateStepResult d).1 i)
  | .resume q => q.action = "resume" → s.execution.Follows (q.stepNumber + 1)
  | .abort _ => True
  | .change crId status => ∀ d, s.execution.stepAt s.execution.currentStep = some d →
      crId ∈ s.execution.changeRequestsAt s.execution.currentStep → StatusHandled d status

/-- A step of a running execution that a tick or the end of a change request moves on. -/
structure Ready (s : RunbookExecutor) (d : StepTree) : Prop where
  type : d.fields.type ∈ knownStepTypes
  status : s.execution.statusAt s.execution.currentStep = .pending ∨
    s.execution.statusAt s.execution.currentStep = .running ∧
      (d.fields.type = "change" ∧
        s.execution.changeRequestsAt s.execution.currentStep ≠ [] ∨
        d.fields.type = "parallel_group") ∧
      ∀ crId ∈ s.execution.changeRequestsAt s.execution.currentStep,
        StatusHandled d (s.changeRequests crId)

structure RunbookInv (s : RunbookExecutor) : Prop where
  atEnd : s.isActive = true → s.execution.stepAt s.execution.currentStep = none → s.AtEnd
  ready : s.execution.status = .running →
    ∀ d, s.execution.stepAt s.execution.currentStep = some d → Ready s d

section Invariant

variable {eval : Evaluator} {s s' : RunbookExecutor} {d : StepTree} {i : TickInput} {n : Int}

theorem stepAt_congr {ex ex' : RunbookExecution} (h : ex'.steps = ex.steps) :
    ex'.stepAt n = ex.stepAt n := by
  rw [RunbookExecution.stepAt,RunbookExecution.stepAt,h]

theorem statusAt_congr {ex ex' : RunbookExecution} (h : ex'.resultAt n = ex.resultAt n) :
    ex'.statusAt n = ex.statusAt n := by
  rw [RunbookExecution.statusAt,RunbookExecution.statusAt,h]

theorem RunbookInv.inactive (h : s.isActive = false) : RunbookInv s where
  atEnd := by simp [h]
  ready := by
    intro hrunning
    simp [RunbookExecutor.isActive,hrunning] at h

/-- The execution goes to an open number, or to where it may end. -/
theorem RunbookInv.arrive (hsteps : s'.execution.steps = s.execution.steps)
    (hcur : s'.execution.currentStep = n)
    (hstatus : s'.execution.statusAt n = s.execution.statusAt n) (hopen : s.execution.Open n)
    (hend : s.execution.stepAt n = none → s'.AtEnd) : RunbookInv s' where
  atEnd := by
    intro _ hnone
    rw [hcur,stepAt_congr hsteps] at hnone
    exact hend hnone
  ready := by
    intro _ d hd
    rw [hcur,stepAt_congr hsteps] at hd
    obtain ⟨htype,hpending⟩ := hopen d hd
    exact ⟨htype,Or.inl (by rw [hcur,hstatus,hpending])⟩

theorem RunbookInv.count_on (hsteps : s'.execution.steps = s.execution.steps)
    (hcur : s'.execution.currentStep = n)
    (hstatus : s'.execution.statusAt n = s.execution.statusAt n)
    (hfollows : s.execution.Follows n) : RunbookInv s' := by
  refine .arrive hsteps hcur hstatus hfollows.1 fun hnone => Or.inl ?_
  rw [hcur,RunbookExecution.PastLast,hsteps]
  exact hfollows.2 hnone

/-- Saving the result of the current step leaves the statuses of the others. -/
theorem statusAt_saved {r' : RunbookStepResult} (hn : n ≠ d.fields.stepNumber)
    (hr : r'.stepNumber = (s.execution.getOrCreateStepResult d).1.stepNumber) :
    ((s.execution.getOrCreateStepResult d).2.save r').statusAt n = s.execution.statusAt n := by
  have hne : r'.stepNumber ≠ n := by
    rw [hr,getOrCreate_number]
    exact hn.symm
  rw [statusAt_congr (resultAt_save_ne hne)]
  exact (getOrCreate_statusAt s.execution d n).1

/-- What is kept while the execution stays at its step. -/
theorem RunbookInv.stay (hstep : s.execution.stepAt s.execution.currentStep = some d)
    (hsteps : s'.execution.steps = s.execution.steps)
    (hcur : s'.execution.currentStep = s.execution.currentStep)
    (hready : s'.execution.status = .running → Ready s' d) : RunbookInv s' := by
  have hstep' : s'.execution.stepAt s'.execution.currentStep = some d := by
    rw [hcur,stepAt_congr hsteps,hstep]
  refine ⟨fun _ hnone => ?_,fun hrunning d' hd' => ?_⟩
  · rw [hstep'] at hnone
    cases hnone
  · obtain rfl := Option.some.inj (hstep'.symm.trans hd')
    exact hready hrunning

/-- The step is carried out as the tick found out. -/
theorem StepTaken.inv {fate : StepFate} (hI : RunbookInv s)
    (hstep : s.execution.stepAt s.execution.currentStep = some d)
    (hmeets : s.execution.Meets d fate)
    (htaken : StepTaken (s.setExecution (s.execution.getOrCreateStepResult d).2) d
      (s.execution.getOrCreateStepResult d).1 s' fate) : RunbookInv s' := by
  have hnumber := stepAt_number hstep
  obtain ⟨hsteps,hcur,hstatus⟩ := getOrCreate_frame s.execution d
  have hnext : s.execution.currentStep + 1 ≠ d.fields.stepNumber := by omega
  cases htaken with
  | stays hex hcrs =>
    refine .stay hstep (hex ▸ hsteps) (hex ▸ hcur) fun hrunning => ?_
    rw [hex] at hrunning
    obtain ⟨htype,hready⟩ := hI.ready (hstatus.symm.trans hrunning) d hstep
    have hcur' : s'.execution.currentStep = s.execution.currentStep := hex ▸ hcur
    obtain ⟨hkept,hids⟩ := getOrCreate_statusAt s.execution d s.execution.currentStep
    refine ⟨htype,?_⟩
    rw [hcur',hex]
    rcases hready with hpending | ⟨hrun,hkind,hhandled⟩
    · exact Or.inl (hkept.trans hpending)
    · refine Or.inr ⟨hkept.trans hrun,by rwa [← hids] at hkind,fun crId hcrId => ?_⟩
      rcases hcrs crId with h | h
      · rw [h]
        exact hhandled crId (hids ▸ hcrId)
      · rw [h]
        exact Or.inl rfl
  | starts r' hex hn hr' hkind happroved =>
    refine .stay hstep (hex ▸ hsteps) (hex ▸ hcur) fun hrunning => ?_
    have hcur' : s'.execution.currentStep = d.fields.stepNumber := by
      rw [hex,hnumber]
      exact hcur
    have hrow : s'.execution.resultAt d.fields.stepNumber = some r' := by
      rw [hex]
      exact resultAt_save_self (getOrCreate_resultAt s.execution d)
        (hn.trans (getOrCreate_number s.execution d))
    have hids : s'.execution.changeRequestsAt d.fields.stepNumber = r'.changeRequestIds := by
      rw [RunbookExecution.changeRequestsAt,hrow]
      rfl
    have hrun : s'.execution.statusAt d.fields.stepNumber = .running := by
      rw [RunbookExecution.statusAt,hrow]
      exact hr'
    refine ⟨?_,Or.inr ?_⟩
    · rcases hkind with ⟨htype,_⟩ | htype <;> simp [knownStepTypes,htype]
    · rw [hcur',hids]
      refine ⟨hrun,hkind,fun crId hcrId => ?_⟩
      rw [happroved crId hcrId]
      exact Or.inl rfl
  | asks r' hex =>
    refine .stay hstep (hex ▸ hsteps) (hex ▸ hcur) fun hrunning => ?_
    rw [hex] at hrunning
    cases hrunning
  | expires r' now hex =>
    refine .stay hstep (hex ▸ hsteps) (hex ▸ hcur) fun hrunning => ?_
    rw [hex] at hrunning
    cases hrunning
  | succeeds r' status hex hn hr' _ =>
    refine .count_on (hex ▸ hsteps) ?_ ?_ hmeets
    · rw [hex,← hcur]
      rfl
    · rw [hex]
      exact statusAt_saved hnext hn
  | fails r' now hex hn hr' =>
    obtain ⟨hknown,hfollows⟩ := hmeets
    unfold RunbookExecution.handleStepFailure at hex
    split at hex
    · exact .inactive (by rw [RunbookExecutor.isActive,hex]; rfl)
    split at hex
    · rename_i hcontinue
      refine .count_on (hex ▸ hsteps) ?_ ?_ (hfollows hcontinue)
      · rw [hex,← hcur]
        rfl
      · rw [hex]
        exact statusAt_saved hnext hn
    split at hex
    · exact .inactive (by rw [RunbookExecutor.isActive,hex]; rfl)
    · rename_i habort hcontinue hrollback
      simp [knownFailureActions,habort,hcontinue,hrollback] at hknown
  | jumps r' n hex hn hr' =>
    obtain ⟨hne,hopen⟩ := hmeets
    refine .arrive (hex ▸ hsteps) ?_ ?_ hopen fun _ => Or.inr ?_
    · rw [hex]
      rfl
    · rw [hex]
      exact statusAt_saved (by rwa [hnumber]) hn
    · rw [hex]
      rfl

theorem tick_inv (hI : RunbookInv s) (hG : MovesOn eval s (.tick i)) :
    RunbookInv (s.tickExecution eval i) := by
  unfold RunbookExecutor.tickExecution
  cases hstep : s.execution.stepAt s.execution.currentStep with
  | none => exact .inactive rfl
  | some d => exact (executeStep_taken eval _ d _ i).inv hI hstep (hG d hstep)

theorem resume_inv {q : ResumeRequest} (hG : MovesOn eval s (.resume q))
    (h : s.resumeCheckpoint q = .ok s') : RunbookInv s' := by
  unfold RunbookExecutor.resumeCheckpoint at h
  split at h
  · cases h
  split at h
  · cases h
  rename_i r hr
  have hnumber : r.stepNumber = q.stepNumber := by
    have := List.find?_some hr
    simp at this
    exact this.1
  split at h
  · rename_i haction
    obtain rfl := Except.ok.inj h
    have hne : r.stepNumber ≠ q.stepNumber + 1 := by omega
    refine .count_on (s := s) (n := q.stepNumber + 1) rfl rfl ?_ (hG haction)
    exact statusAt_congr (resultAt_save_ne (by exact hne))
  split at h
  · obtain rfl := Except.ok.inj h
    exact .inactive rfl
  · cases h

theorem abort_inv {now : Int} (h : s.abortExecution now = .ok s') : RunbookInv s' := by
  unfold RunbookExecutor.abortExecution at h
  split at h
  · obtain rfl := Except.ok.inj h
    refine .inactive ?_
    dsimp only [RunbookExecutor.isActive,RunbookExecutor.setExecution]
    split <;> rfl
  · cases h

theorem change_inv {crId : Uuid} {status : Option ChangeRequestStatus} (hI : RunbookInv s)
    (hG : MovesOn eval s (.change crId status)) :
    RunbookInv { s with changeRequests := Function.update s.changeRequests crId status } where
  atEnd := hI.atEnd
  ready := by
    intro hrunning d hstep
    obtain ⟨htype,hready⟩ := hI.ready hrunning d hstep
    refine ⟨htype,hready.imp_right fun ⟨hrun,hkind,hhandled⟩ => ⟨hrun,hkind,fun id hid => ?_⟩⟩
    show StatusHandled d (Function.update s.changeRequests crId status id)
    by_cases hsame : id = crId
    · subst hsame
      rw [Function.update_self]
      exact hG d hstep hid
    · rw [Function.update_of_ne hsame]
      exact hhandled id hid

end Invariant

theorem runbookInv_inductive {eval : Evaluator} {steps : List StepTree} {context : Dict}
    (hfirst : ({ steps := steps, context := context } : RunbookExecution).Follows 1) :
    InductiveUnder (runbookSystem eval steps context) (MovesOn eval) RunbookInv where
  start := by
    intro s hs
    have hs : s.execution = { steps := steps, context := context } := hs
    refine .count_on (s := s) rfl (by rw [hs]) rfl ?_
    rwa [hs]
  step := by
    intro s e s' hI hG hstep
    cases e with
    | tick i =>
      simp only [runbookSystem] at hstep
      split at hstep
      · obtain rfl := Option.some.inj hstep
        exact tick_inv hI hG
      · cases hstep
    | resume q => exact resume_inv hG (Checks.toOption_eq_some.mp hstep)
    | abort now => exact abort_inv (Checks.toOption_eq_some.mp hstep)
    | change crId status =>
      obtain rfl := Option.some.inj hstep
      exact change_inv hI hG

section Progress

variable {eval : Evaluator} {s s' : RunbookExecutor} {d : StepTree} {r : RunbookStepResult}
  {i : TickInput} {fate : StepFate}

/-- A step whose fate is known has a final result. -/
theorem StepTaken.final (htaken : StepTaken s d r s' fate)
    (hrow : s.execution.resultAt d.fields.stepNumber = some r) (hfate : fate ≠ .waits) :
    s'.execution.statusAt d.fields.stepNumber = .completed ∨
      s'.execution.statusAt d.fields.stepNumber = .failed := by
  have hsaved : ∀ r' : RunbookStepResult, r'.stepNumber = r.stepNumber →
      (s.execution.save r').statusAt d.fields.stepNumber = r'.status := by
    intro r' hn
    rw [RunbookExecution.statusAt,resultAt_save_self hrow (hn.trans (resultAt_number hrow))]
    rfl
  cases htaken with
  | stays => exact absurd rfl hfate
  | starts => exact absurd rfl hfate
  | asks => exact absurd rfl hfate
  | expires => exact absurd rfl hfate
  | succeeds r' status hex hn hr' => exact Or.inl (hex ▸ (hsaved r' hn).trans hr')
  | fails r' now hex hn hr' =>
    have hresults : s'.execution.stepResults = (s.execution.save r').stepResults := by
      rw [hex,RunbookExecution.handleStepFailure]
      split_ifs <;> rfl
    refine Or.inr (Eq.trans (statusAt_congr ?_) ((hsaved r' hn).trans hr'))
    rw [RunbookExecution.resultAt,RunbookExecution.resultAt,hresults]
  | jumps r' n hex hn hr' => exact Or.inl (hex ▸ (hsaved r' hn).trans hr')

theorem StepTaken.not_completed (htaken : StepTaken s d r s' fate)
    (h : s.execution.status ≠ .completed) : s'.execution.status ≠ .completed := by
  cases htaken with
  | stays hex => rwa [hex]
  | starts r' hex => rwa [hex]
  | asks r' hex => simp [hex]
  | expires r' now hex => simp [hex,RunbookExecution.finish]
  | succeeds r' status hex _ _ hstatus =>
    rw [hex]
    rcases hstatus with rfl | rfl
    · exact h
    · simp
  | fails r' now hex =>
    rw [hex,RunbookExecution.handleStepFailure]
    split_ifs
    · simp [RunbookExecution.finish]
    · exact h
    · simp [RunbookExecution.finish]
    · exact h
  | jumps r' n hex =>
    rw [hex]
    exact h

/-- A started step has a fate as soon as none of its change requests is in progress. -/
theorem stepFate_of_running (hr : r.status = .running)
    (hkind : d.fields.type = "change" ∧ r.changeRequestIds ≠ [] ∨
      d.fields.type = "parallel_group")
    (hhandled : ∀ crId ∈ r.changeRequestIds, StatusHandled d (s.changeRequests crId))
    (hidle : ∀ crId ∈ r.changeRequestIds,
      (s.changeRequests crId).any ChangeRequestStatus.inProgress = false) :
    s.stepFate eval d r i ≠ .waits := by
  rcases hkind with ⟨htype,hids⟩ | htype
  · obtain ⟨crId,rest,hcons⟩ := List.exists_cons_of_ne_nil hids
    have hmem : crId ∈ r.changeRequestIds := by simp [hcons]
    have hended := hhandled crId hmem
    have hover := hidle crId hmem
    rw [RunbookExecutor.stepFate,if_pos htype,hr,hcons]
    dsimp only
    cases hcr : s.changeRequests crId with
    | none => simp
    | some status =>
      rw [hcr] at hended hover
      cases status <;> simp_all [StatusHandled,terminalStatuses,ChangeRequestStatus.inProgress]
  · have hall : r.changeRequestIds.all s.childTerminal = true := by
      refine List.all_eq_true.mpr fun crId hmem => ?_
      have hended := hhandled crId hmem
      have hover := hidle crId hmem
      rw [RunbookExecutor.childTerminal]
      cases hcr : s.changeRequests crId with
      | none => simp [hcr,StatusHandled,htype] at hended
      | some status =>
        rw [hcr] at hended hover
        simpa using hended.resolve_left (by simpa using hover)
    rw [RunbookExecutor.stepFate,if_neg (by simp [htype]),if_neg (by simp [htype]),
      if_neg (by simp [htype]),if_pos htype,hr]
    dsimp only
    rw [if_pos hall]
    split_ifs <;> simp

/-- A pending step that has no fate yet is started by a tick whose change requests are created. -/
theorem executeStep_of_pending (htype : d.fields.type ∈ knownStepTypes) (hr : r.status = .pending)
    (hrow : s.execution.resultAt d.fields.stepNumber = some r)
    (hcreated : ∀ k, ∃ crId, i.created k = .ok crId) (hwaits : s.stepFate eval d r i = .waits) :
    (s.executeStep eval d r i).execution.statusAt d.fields.stepNumber ≠ .pending := by
  have hsaved : ∀ (s' : RunbookExecutor) (r' : RunbookStepResult),
      s'.execution.resultAt d.fields.stepNumber =
        (s.execution.save r').resultAt d.fields.stepNumber →
      r'.stepNumber = d.fields.stepNumber → r'.status ≠ .pending →
      s'.execution.statusAt d.fields.stepNumber ≠ .pending := by
    intro s' r' hresult hn hr'
    rw [RunbookExecution.statusAt,hresult,resultAt_save_self hrow hn]
    exact hr'
  have hn := resultAt_number hrow
  simp only [knownStepTypes,List.mem_cons,List.not_mem_nil,or_false] at htype
  rcases htype with htype | htype | htype | htype
  · obtain ⟨crId,hnew⟩ := hcreated 0
    rw [RunbookExecutor.executeStep,if_pos htype,executeChangeStep,hr]
    dsimp only
    rw [hnew]
    exact hsaved _ { r with
      changeRequestIds := [crId]
      status := .running
      startedAt := some i.now } rfl hn (by simp)
  · rw [RunbookExecutor.stepFate,if_neg (by simp [htype]),if_pos htype,if_pos hr] at hwaits
    split at hwaits <;> cases hwaits
  · rw [RunbookExecutor.executeStep,if_neg (by simp [htype]),if_neg (by simp [htype]),
      if_pos htype,executeCheckpointStep,if_pos hr]
    exact hsaved _ { r with status := .waitingHuman, startedAt := some i.now } rfl hn (by simp)
  · have hnone := createChildren_ok hcreated 0 d.parallelSteps s.changeRequests
    rw [RunbookExecutor.executeStep,if_neg (by simp [htype]),if_neg (by simp [htype]),
      if_neg (by simp [htype]),if_pos htype,executeParallelStep,hr]
    dsimp only
    rw [hnone]
    exact hsaved _ { r with
      changeRequestIds := _
      status := .running
      startedAt := some i.now } rfl hn (by simp)

theorem RunbookInv.not_stuck (hI : RunbookInv s) : ¬s.Stuck eval := by
  rintro ⟨hrunning,hfixed,hidle⟩
  have hsame := hfixed ⟨0,fun _ => .ok ""⟩
  unfold RunbookExecutor.tickExecution at hsame
  cases hstep : s.execution.stepAt s.execution.currentStep with
  | none =>
    rw [hstep] at hsame
    have hstatus := congrArg RunbookExecution.status hsame
    rw [hrunning] at hstatus
    cases hstatus
  | some d =>
    rw [hstep] at hsame
    dsimp only at hsame
    obtain ⟨htype,hready⟩ := hI.ready hrunning d hstep
    obtain ⟨hstatus,hids⟩ := getOrCreate_status s.execution d
    have hrow := getOrCreate_resultAt s.execution d
    rw [← stepAt_number hstep,← hstatus,← hids] at hready
    rw [← stepAt_number hstep,← hids] at hidle
    have hwaits : (s.setExecution (s.execution.getOrCreateStepResult d).2).stepFate eval d
        (s.execution.getOrCreateStepResult d).1 ⟨0,fun _ => .ok ""⟩ = .waits := by
      by_contra hfate
      have hfinal := (executeStep_taken eval _ d _ _).final hrow hfate
      rw [hsame,← hstatus] at hfinal
      rcases hready with hpending | ⟨hrun,_⟩
      · simp [hpending] at hfinal
      · simp [hrun] at hfinal
    rcases hready with hpending | ⟨hrun,hkind,hhandled⟩
    · refine executeStep_of_pending htype hpending hrow (fun k => ⟨"",rfl⟩) hwaits ?_
      rw [hsame,← hstatus,hpending]
    · exact stepFate_of_running (s := s.setExecution (s.execution.getOrCreateStepResult d).2) hrun
        hkind hhandled hidle hwaits

end Progress

section Runs

variable {eval : Evaluator} {steps : List StepTree} {context : Dict} {s s' : RunbookExecutor}
  {e : RunbookEvent}

/-- Only a tick that finds no step completes an execution. -/
theorem completed_at_end (hI : RunbookInv s)
    (hstep : (runbookSystem eval steps context).step s e = some s')
    (hbefore : s.execution.status ≠ .completed) (hafter : s'.execution.status = .completed) :
    s.AtEnd := by
  cases e with
  | tick i =>
    simp only [runbookSystem] at hstep
    split at hstep
    · rename_i hactive
      obtain rfl := Option.some.inj hstep
      cases hat : s.execution.stepAt s.execution.currentStep with
      | none => exact hI.atEnd hactive hat
      | some d =>
        unfold RunbookExecutor.tickExecution at hafter
        rw [hat] at hafter
        refine absurd hafter ((executeStep_taken eval _ d _ i).not_completed ?_)
        exact fun h => hbefore ((getOrCreate_frame s.execution d).2.2.symm.trans h)
    · cases hstep
  | resume q =>
    have h : s.resumeCheckpoint q = .ok s' := Checks.toOption_eq_some.mp hstep
    unfold RunbookExecutor.resumeCheckpoint at h
    split at h
    · cases h
    split at h
    · cases h
    split at h
    · obtain rfl := Except.ok.inj h
      cases hafter
    split at h
    · obtain rfl := Except.ok.inj h
      cases hafter
    · cases h
  | abort now =>
    have h : s.abortExecution now = .ok s' := Checks.toOption_eq_some.mp hstep
    unfold RunbookExecutor.abortExecution at h
    split at h
    · obtain rfl := Except.ok.inj h
      dsimp only [RunbookExecutor.setExecution] at hafter
      split at hafter <;> cases hafter
    · cases h
  | change crId status =>
    obtain rfl := Option.some.inj hstep
    exact absurd hafter hbefore

/-- An execution whose steps move on is never stuck, and completes only at its end. -/
theorem runbook_moves_on (hfirst : ({ steps := steps, context := context } :
      RunbookExecution).Follows 1) {tr : List (Transition RunbookExecutor RunbookEvent)}
    (hrun : Run (runbookSystem eval steps context) tr s)
    (hmoves : ∀ t ∈ tr, MovesOn eval t.pre t.label) :
    ¬s.Stuck eval ∧ ∀ t ∈ tr, BecomesCompleted t → t.pre.AtEnd := by
  have hI : InductiveUnder (runbookSystem eval steps context) (MovesOn eval) RunbookInv :=
    runbookInv_inductive hfirst
  refine ⟨(hrun.guarded hI hmoves).not_stuck,fun t ht hcompleted => ?_⟩
  obtain ⟨hpre,hstep⟩ := hrun.transition_guarded hI hmoves t ht
  exact completed_at_end hpre hstep hcompleted.1 hcompleted.2

end Runs

def patchStep (n : Int) : StepTree :=
  StepFields.leaf { stepNumber := n, name := "Patch", type := "change", changeType := some "patch" }

def alwaysTrue : Evaluator := fun _ _ _ => .ok true

def patchRun (steps : List StepTree) : RunbookExecutor :=
  ⟨{ steps := steps, context := [] },fun _ => none⟩

def tickAt (now : Int) : RunbookEvent := .tick ⟨now,fun _ => .ok "cr-1"⟩

def crEnds (status : ChangeRequestStatus) : RunbookEvent := .change "cr-1" (some status)

theorem single_patch_moves_on : ∃ tr s, Run (runbookSystem alwaysTrue [patchStep 1] []) tr s ∧
    s.execution.status = .completed ∧
    ¬s.Stuck alwaysTrue ∧ ∀ t ∈ tr, BecomesCompleted t → t.pre.AtEnd := by
  have hfirst : ({ steps := [patchStep 1], context := [] } : RunbookExecution).Follows 1 := by
    refine ⟨fun d hd => ?_,nofun⟩
    obtain rfl := Option.some.inj hd
    exact ⟨by decide,rfl⟩
  have hrun : (runbookSystem alwaysTrue [patchStep 1] []).replay (patchRun [patchStep 1])
      [tickAt 0,crEnds .completed,tickAt 1,tickAt 2] = some _ := rfl
  have h := (Run.start rfl).replay hrun
  have hmeets : (runbookSystem alwaysTrue [patchStep 1] []).Meets (MovesOn alwaysTrue)
      (patchRun [patchStep 1]) [tickAt 0,crEnds .completed,tickAt 1,tickAt 2] := by
    refine ⟨fun d hd => ?_,fun d hd _ => Or.inr (by decide),fun d hd => ?_,nofun,trivial⟩
    · obtain rfl := Option.some.inj hd
      trivial
    · obtain rfl := Option.some.inj hd
      exact ⟨nofun,fun _ => by simp [RunbookExecution.PastLast]; decide⟩
  exact ⟨_,_,h,rfl,runbook_moves_on hfirst h (System.history_meets hmeets (by simp))⟩

/-- The step after a gap is left out; a change request that was rolled back in part stops the
runbook for good. -/
theorem gap_and_partial_rollback :
    (∃ tr s, Run (runbookSystem alwaysTrue [patchStep 1,patchStep 3] []) tr s ∧
      ∃ t ∈ tr, BecomesCompleted t ∧ ¬t.pre.AtEnd) ∧
    ∃ tr s, Run (runbookSystem alwaysTrue [patchStep 1] []) tr s ∧ s.Stuck alwaysTrue := by
  constructor
  · have hrun : (runbookSystem alwaysTrue [patchStep 1,patchStep 3] []).replay
        (patchRun [patchStep 1,patchStep 3])
        [tickAt 0,crEnds .completed,tickAt 1,tickAt 2] = some _ := rfl
    refine ⟨_,_,(Run.start rfl).replay hrun,_,List.mem_cons_self,⟨nofun,rfl⟩,?_⟩
    rintro (hpast | hsent)
    · exact absurd (hpast (patchStep 3)
        (show patchStep 3 ∈ [patchStep 1,patchStep 3] by simp)) (by decide)
    · cases hsent
  · have hrun : (runbookSystem alwaysTrue [patchStep 1] []).replay (patchRun [patchStep 1])
        [tickAt 0,crEnds .rollbackPartial] = some _ := rfl
    refine ⟨_,_,(Run.start rfl).replay hrun,rfl,fun i => rfl,fun crId hcrId => ?_⟩
    obtain rfl := List.mem_singleton.mp hcrId
    rfl

end Nexplane
