import Nexplane.Lib.Orm
import Nexplane.Lib.Runs
import Nexplane.ProjectRollbackSteps
import Nexplane.RollbackExecutor

set_option autoImplicit false

/-! One rollback of a project: the driver that undoes its steps, and the operators who pause and
resume it and decide its steps, interleaved between their reads and their commits. -/

namespace Nexplane
open PyValue Runs Orm

inductive ProjectRollbackStatus where
  | pending
  | running
  | paused
  | awaitingUser
  | completed
  | failed
  deriving DecidableEq, Repr

inductive ProjectRollbackTrigger where
  | manual
  | executionFailure
  | soakHealthCheck
  deriving DecidableEq, Repr

inductive RollbackStepStatus where
  | pending
  | running
  | skipped
  | completed
  | failed
  | awaitingUser
  deriving DecidableEq, Repr

/-- The dictionary in the `result` of a step: a decision, the text of an exception, or what the
rollback of its change returned. -/
inductive StepResult where
  | decision (text : String)
  | error (text : String)
  | rollback (result : Json)

def StepResult.eq : Option StepResult → Option StepResult → Bool
  | none, none => true
  | some (.decision a), some (.decision b) => a == b
  | some (.error a), some (.error b) => a == b
  | some (.rollback a), some (.rollback b) => a.eq b
  | _, _ => false

/-- `left` is the status in which the last execution of the step left its change request. -/
structure ProjectRollbackStep extends NewRollbackStep where
  status : RollbackStepStatus := .pending
  result : Option StepResult := none
  left : Option ChangeRequestStatus := none

structure ProjectRollback where
  status : ProjectRollbackStatus
  trigger : ProjectRollbackTrigger
  triggeredByUserId : Option Uuid
  triggeredByCrId : Option Uuid
  currentStep : Nat
  notes : Option String
  steps : List ProjectRollbackStep

/-- How `_execute_step` ends, and the status of the change request then. -/
structure StepOutcome where
  result : Except String Json
  left : ChangeRequestStatus

section Execution

variable {ω : Type}

/-- What `execute_cr_rollback` gets from the backup: the result of its last completed run. -/
def backupResult (step : NewRollbackStep) (backupRuns : List ExecutionRun) : Dict :=
  if step.rollbackKind = .reconstitution ∧ step.backupCrId.isSome then
    (((latestRun (fun run => run.status = .completed) backupRuns).bind
      (backupRuns[·]?)).map ExecutionRun.result).getD []
  else []

/-- `_execute_step`, in the world of the change request. -/
def executeStep (env : Env ω) (step : NewRollbackStep) (backupRuns : List ExecutionRun)
    (w : World ω) : StepOutcome :=
  match executeCrRollback env (backupResult step backupRuns) w with
  | (.ok result,w') => ⟨.ok result,w'.cr.status⟩
  | (.error e,w') => ⟨.error e.str,w'.cr.status⟩

end Execution

section Driver

/-- Where `_run_rollback_inner` is. A step that it has loaded or executed comes with it. -/
inductive DriverPoint where
  | loading
  | starting
  | atStep
  | refreshed
  | marking (loaded : ProjectRollbackStep)
  | executing (loaded : ProjectRollbackStep)
  | executed (loaded : ProjectRollbackStep) (result : Except String Json)
  | finishing
  | leaving

/-- `held` is the status that its session holds, `ahead` the steps it has not passed. -/
structure RollbackDriver where
  held : ProjectRollbackStatus
  ahead : List Nat
  point : DriverPoint

def RollbackDriver.load : RollbackDriver := ⟨.pending,[],.loading⟩

/-- Back at the head of the loop. -/
def RollbackDriver.loop (held : ProjectRollbackStatus) (ahead : List Nat) : RollbackDriver :=
  ⟨held,ahead,if ahead.isEmpty then .finishing else .atStep⟩

def RollbackDriver.leave (d : RollbackDriver) : RollbackDriver := { d with point := .leaving }

def stepOrder (steps : List ProjectRollbackStep) : List Nat :=
  (List.range steps.length).insertionSort fun i j =>
    (steps[i]?.map (·.sequenceOrder)).getD 0 ≤ (steps[j]?.map (·.sequenceOrder)).getD 0

def ProjectRollback.modifyStep (row : ProjectRollback) (i : Nat)
    (f : ProjectRollbackStep → ProjectRollbackStep) : ProjectRollback :=
  { row with steps := row.steps.modify i f }

def ProjectRollbackStep.mark (loaded step : ProjectRollbackStep) : ProjectRollbackStep :=
  { step with status := flushColumn step.status loaded.status .running }

def ProjectRollbackStep.record (loaded : ProjectRollbackStep) (status : RollbackStepStatus)
    (result : StepResult) (step : ProjectRollbackStep) : ProjectRollbackStep :=
  { step with
    status := flushColumn step.status .running status
    result := flushWith StepResult.eq step.result loaded.result (some result) }

/-- What the driver does at the step it is at. -/
def stepDriver (row : ProjectRollback) (d : RollbackDriver) (i : Nat) (ahead : List Nat)
    (outcome : StepOutcome) : ProjectRollback × RollbackDriver :=
  match d.point with
  | .atStep => (row,{ d with held := row.status, point := .refreshed })
  | .refreshed =>
    match row.steps[i]? with
    | none => (row,d.leave)
    | some step =>
      if d.held = .paused then (row,d.leave)
      else if step.status = .completed ∨ step.status = .skipped then (row,.loop d.held ahead)
      else if step.status = .awaitingUser then (row,d.leave)
      else (row,{ d with point := .marking step })
  | .marking loaded =>
    ({ row.modifyStep i loaded.mark with currentStep := loaded.sequenceOrder },
      { d with point := .executing loaded })
  | .executing loaded =>
    (row.modifyStep i fun step => { step with left := some outcome.left },
      { d with point := .executed loaded outcome.result })
  | .executed loaded (.ok result) =>
    (row.modifyStep i (loaded.record .completed (.rollback result)),.loop d.held ahead)
  | .executed loaded (.error text) =>
    (row.modifyStep i (loaded.record .awaitingUser (.error text)),d.leave)
  | _ => (row,d.leave)

/-- The next statement of the driver. From the flush of the last status, before the SELECT of the
project, to the commit after it the row is locked. -/
def driverStep (row : ProjectRollback) (d : RollbackDriver) (outcome : StepOutcome) :
    ProjectRollback × Option RollbackDriver :=
  match d.point with
  | .loading => (row,some ⟨row.status,stepOrder row.steps,.starting⟩)
  | .starting =>
    ({ row with status := flushColumn row.status d.held .running },some (.loop .running d.ahead))
  | .finishing =>
    ({ row with status := flushColumn row.status d.held .completed },some d.leave)
  | .leaving => (row,none)
  | _ =>
    match d.ahead with
    | [] => (row,some d.leave)
    | i :: ahead =>
      match stepDriver row d i ahead outcome with
      | (row',d') => (row',some d')

end Driver

section Operators

inductive StepDecision where
  | skip
  | markDone
  | retry
  deriving DecidableEq, Repr

def StepDecision.status : StepDecision → RollbackStepStatus
  | .skip => .skipped
  | .markDone => .completed
  | .retry => .pending

def StepDecision.result : StepDecision → Option StepResult
  | .skip => some (.decision "skipped_by_user")
  | .markDone => some (.decision "marked_done_by_user")
  | .retry => none

/-- A request between its reads and its commit, with what it has loaded. A resume that found no
steps has the ones it fills in, and the status of the project. -/
inductive RollbackRequest where
  | pause
  | resume (held : ProjectRollbackStatus)
      (populated : Option (List NewRollbackStep × ProjectStatus))
  | decision (i : Nat) (held : ProjectRollbackStatus) (loaded : ProjectRollbackStep)
      (action : StepDecision)

def decideRollbackStep (loaded : ProjectRollbackStep) (action : StepDecision)
    (step : ProjectRollbackStep) : ProjectRollbackStep :=
  { step with
    status := flushColumn step.status loaded.status action.status
    result := flushWith StepResult.eq step.result loaded.result action.result }

/-- `driver` is there while the rollback is in `_ACTIVE_ROLLBACKS`; `tasks` counts the calls of
`_run_rollback` that have been scheduled and have not begun. -/
structure RollbackState where
  row : ProjectRollback
  driver : Option RollbackDriver
  tasks : Nat
  requests : Nat → Option RollbackRequest

inductive RollbackEvent where
  | dispatch
  | drive (outcome : StepOutcome)
  | pauseRead (request : Nat)
  | pauseCommit (request : Nat)
  | resumeRead (request : Nat) (project : Project)
  | resumeCommit (request : Nat)
  | decisionRead (request i : Nat) (action : StepDecision)
  | decisionCommit (request : Nat)
  /-- The backend stops, and `resume_interrupted` runs when it starts again. -/
  | restart

def RollbackState.setRequest (s : RollbackState) (request : Nat) (q : Option RollbackRequest) :
    RollbackState := { s with requests := Function.update s.requests request q }

def RollbackState.setStatus (s : RollbackState) (status : ProjectRollbackStatus) :
    RollbackState := { s with row := { s.row with status := status } }

def RollbackState.addSteps (s : RollbackState) (steps : List NewRollbackStep) : RollbackState :=
  { s with row := { s.row with steps := s.row.steps ++ steps.map fun step => { step with } } }

def advanceRollback (permanentTypes : List String) (s : RollbackState) :
    RollbackEvent → Option RollbackState
  | .dispatch =>
    match s.tasks with
    | 0 => none
    | tasks + 1 => some { s with
        tasks := tasks
        driver := some (s.driver.getD .load) }
  | .drive outcome =>
    match s.driver with
    | none => none
    | some d => some { s with
        row := (driverStep s.row d outcome).1
        driver := (driverStep s.row d outcome).2 }
  | .pauseRead q =>
    if s.requests q = none ∧ s.row.status = .running then some (s.setRequest q (some .pause))
    else none
  | .pauseCommit q =>
    match s.requests q with
    | some .pause => some ((s.setStatus (flushColumn s.row.status .running .paused)).setRequest q
        none)
    | _ => none
  | .resumeRead q project =>
    if s.requests q = none ∧ (s.row.status = .paused ∨ s.row.status = .awaitingUser) then
      some (s.setRequest q (some (.resume s.row.status
        (if s.row.steps.isEmpty then
          some (project.autoRollbackSteps permanentTypes,project.status) else none))))
    else none
  | .resumeCommit q =>
    match s.requests q with
    | some (.resume held populated) =>
      let s' := match populated with
        | some (steps,_) => s.addSteps steps
        | none => s
      some { (s'.setStatus (flushColumn s.row.status held .running)).setRequest q none with
        tasks := s.tasks + 1 }
    | _ => none
  | .decisionRead q i action =>
    match s.requests q, s.row.steps[i]? with
    | none, some step => some (s.setRequest q (some (.decision i s.row.status step action)))
    | _, _ => none
  | .decisionCommit q =>
    match s.requests q with
    | some (.decision i held loaded action) => some { s.setRequest q none with
        row := s.row.modifyStep i (decideRollbackStep loaded action)
        tasks := if held = .running then s.tasks else s.tasks + 1 }
    | _ => none
  | .restart => some { s with
      driver := none
      tasks := if s.row.status = .running then 1 else 0
      requests := fun _ => none }

end Operators

section Start

/-- As `initiate` leaves it. -/
def RollbackState.initiated (steps : List NewRollbackStep) (userId : Uuid)
    (notes : Option String) : RollbackState where
  row :=
    { status := .pending
      trigger := .manual
      triggeredByUserId := some userId
      triggeredByCrId := none
      currentStep := 0
      notes := notes
      steps := steps.map fun step => { step with } }
  driver := none
  tasks := 1
  requests := fun _ => none

/-- As `initiate_auto` leaves it. -/
def RollbackState.automatic (crId : Uuid) (trigger : ProjectRollbackTrigger) :
    RollbackState where
  row :=
    { status := .awaitingUser
      trigger := trigger
      triggeredByUserId := none
      triggeredByCrId := some crId
      currentStep := 0
      notes := none
      steps := [] }
  driver := none
  tasks := 0
  requests := fun _ => none

inductive RollbackState.Fresh (permanentTypes : List String) : RollbackState → Prop where
  | initiated (project : Project) (crIds : Option (List Uuid)) (userId : Uuid)
      (notes : Option String) : Fresh permanentTypes
        (.initiated (project.initiateSteps permanentTypes crIds) userId notes)
  | automatic (crId : Uuid) (trigger : ProjectRollbackTrigger) :
      Fresh permanentTypes (.automatic crId trigger)

def rollbackSystem (permanentTypes : List String) : System RollbackState RollbackEvent where
  start := RollbackState.Fresh permanentTypes
  step := advanceRollback permanentTypes

end Start

/-- The rollback of one change. -/
def sampleRollback : RollbackState :=
  .initiated (sampleProject.initiateSteps [] (some ["cr-1"])) "user-1" none

theorem sampleRollback_start : (rollbackSystem []).start sampleRollback :=
  .initiated sampleProject (some ["cr-1"]) "user-1" none

def sampleUndone : StepOutcome := ⟨.ok (.obj []),.rolledBack⟩

def sampleDriven : List RollbackEvent := .dispatch :: List.replicate 9 (.drive sampleUndone)

end Nexplane
