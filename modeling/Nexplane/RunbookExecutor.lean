import Nexplane.RunbookStorage
import Nexplane.Lib.Runs
import Mathlib.Logic.Function.Basic

set_option autoImplicit false

/-! The execution of a runbook: what a tick of the scheduler, a resumed checkpoint and an abort do
to it. -/

namespace Nexplane
open PyValue Runs

inductive RunbookStatus where
  | running
  | waitingHuman
  | completed
  | failed
  | rolledBack
  deriving DecidableEq, Repr

inductive StepResultStatus where
  | pending
  | running
  | waitingHuman
  | completed
  | failed
  deriving DecidableEq, Repr

/-- Times are in microseconds. -/
structure RunbookStepResult where
  stepNumber : Int
  stepName : String
  stepType : String
  status : StepResultStatus := .pending
  startedAt : Option Int := none
  completedAt : Option Int := none
  changeRequestIds : List Uuid := []
  result : Dict := []
  errorMessage : Option String := none

/-- `sentByCondition` is a ghost: `currentStep` was last set by the outcome of a condition. -/
structure RunbookExecution where
  steps : List StepTree
  context : Dict
  status : RunbookStatus := .running
  completedAt : Option Int := none
  currentStep : Int := 1
  stepResults : List RunbookStepResult := []
  sentByCondition : Bool := false

/-- An execution beside the change requests of the database. -/
structure RunbookExecutor where
  execution : RunbookExecution
  changeRequests : Uuid → Option ChangeRequestStatus

namespace RunbookExecution

/-- `step_map.get(n)`, where the last step with a number stands. -/
def stepAt (ex : RunbookExecution) (n : Int) : Option StepTree :=
  ex.steps.reverse.find? fun d => d.fields.stepNumber = n

def resultAt (ex : RunbookExecution) (n : Int) : Option RunbookStepResult :=
  ex.stepResults.find? fun r => r.stepNumber = n

def getOrCreateStepResult (ex : RunbookExecution) (d : StepTree) :
    RunbookStepResult × RunbookExecution :=
  match ex.resultAt d.fields.stepNumber with
  | some r => (r,ex)
  | none =>
    let r : RunbookStepResult :=
      { stepNumber := d.fields.stepNumber, stepName := d.fields.name, stepType := d.fields.type }
    (r,{ ex with stepResults := ex.stepResults ++ [r] })

/-- Writes the fields of a result back to its row. -/
def save (ex : RunbookExecution) (r : RunbookStepResult) : RunbookExecution :=
  { ex with stepResults := ex.stepResults.map fun r' =>
      if r'.stepNumber = r.stepNumber then r else r' }

def goTo (ex : RunbookExecution) (n : Int) (byCondition : Bool) : RunbookExecution :=
  { ex with currentStep := n, sentByCondition := byCondition }

def advance (ex : RunbookExecution) : RunbookExecution := ex.goTo (ex.currentStep + 1) false

def finish (ex : RunbookExecution) (status : RunbookStatus) (now : Int) : RunbookExecution :=
  { ex with status := status, completedAt := some now }

def handleStepFailure (d : StepTree) (now : Int) (ex : RunbookExecution) : RunbookExecution :=
  if d.fields.onFailure = "abort" then ex.finish .failed now
  else if d.fields.onFailure = "continue" then ex.advance
  else if d.fields.onFailure = "rollback_all" then ex.finish .rolledBack now
  else ex

end RunbookExecution

/-- One tick: the time, and how the creation and the start of each change request it asks for ends,
counted from 0. -/
structure TickInput where
  now : Int
  created : Nat → Except Exc Uuid

/-- `bool(eval(condition_expr))` over the results of the steps and the context. -/
abbrev Evaluator := Option String → List (Int × Dict) → Dict → Except Exc Bool

namespace RunbookExecutor

def setExecution (s : RunbookExecutor) (ex : RunbookExecution) : RunbookExecutor :=
  { s with execution := ex }

/-- The step's result becomes `r`, which is a failure. -/
def failStep (s : RunbookExecutor) (d : StepTree) (r : RunbookStepResult) (now : Int) :
    RunbookExecutor :=
  s.setExecution ((s.execution.save r).handleStepFailure d now)

def executeChangeStep (s : RunbookExecutor) (d : StepTree) (r : RunbookStepResult)
    (i : TickInput) : RunbookExecutor :=
  match r.status with
  | .pending =>
    match i.created 0 with
    | .error (.valueError message) =>
      s.failStep d { r with status := .failed, errorMessage := some message } i.now
    | .error _ => s
    | .ok crId =>
      { execution := s.execution.save
          { r with changeRequestIds := [crId], status := .running, startedAt := some i.now }
        changeRequests := Function.update s.changeRequests crId (some .approved) }
  | .running =>
    match r.changeRequestIds with
    | [] => s
    | crId :: _ =>
      match s.changeRequests crId with
      | none => s.failStep d { r with
          status := .failed
          errorMessage := some ("Change request " ++ crId ++ " not found") } i.now
      | some status =>
        if status = .completed then
          s.setExecution (s.execution.save { r with
            status := .completed
            completedAt := some i.now
            result := [("exit_code",.int 0),("change_request_id",.str crId)] }).advance
        else if status = .failed ∨ status = .rejected ∨ status = .rolledBack then
          s.failStep d { r with
            status := .failed
            errorMessage := some ("Change request ended with status: " ++ status.str)
            result := [("exit_code",.int 1),("change_request_id",.str crId)] } i.now
        else s
  | _ => s

def conditionValue (eval : Evaluator) (ex : RunbookExecution) (d : StepTree) : Except Exc Bool :=
  eval d.fields.conditionExpr (ex.stepResults.map fun r => (r.stepNumber,r.result)) ex.context

def conditionTarget (d : StepTree) (value : Bool) : Option Int :=
  if value then d.fields.onTrueStep else d.fields.onFalseStep

def executeConditionStep (eval : Evaluator) (s : RunbookExecutor) (d : StepTree)
    (r : RunbookStepResult) (i : TickInput) : RunbookExecutor :=
  if r.status ≠ .pending then s
  else match conditionValue eval s.execution d with
  | .error e => s.failStep d { r with
      status := .failed
      errorMessage := some ("Condition eval error: " ++ e.str) } i.now
  | .ok value =>
    let nextStep := conditionTarget d value
    s.setExecution ((s.execution.save { r with
      status := .completed
      completedAt := some i.now
      result := [("evaluated_to",.bool value),
        ("jumped_to_step",nextStep.elim .null .int)] }).goTo (nextStep.getD 9999) true)

/-- The hours of a checkpoint are over; zero hours stand for no limit. -/
def timedOut (d : StepTree) (r : RunbookStepResult) (now : Int) : Bool :=
  match d.fields.timeoutHours, r.startedAt with
  | some hours, some startedAt => hours ≠ 0 ∧ hours * 3600000000 ≤ now - startedAt
  | _, _ => false

def executeCheckpointStep (s : RunbookExecutor) (d : StepTree) (r : RunbookStepResult)
    (i : TickInput) : RunbookExecutor :=
  if r.status = .pending then
    s.setExecution { s.execution.save { r with
        status := .waitingHuman
        startedAt := some i.now } with status := .waitingHuman }
  else if r.status = .waitingHuman ∧ timedOut d r i.now then
    if d.fields.onTimeout = some "abort" then
      s.setExecution ((s.execution.save { r with
        status := .failed
        errorMessage := some "Human checkpoint timed out"
        completedAt := some i.now }).finish .failed i.now)
    else
      s.setExecution { (s.execution.save { r with
        status := .completed
        completedAt := some i.now
        result := [("action",.str "timeout_continue")] }).advance with status := .running }
  else s

/-- The loop over the children of a group: the change requests that were started and the exception
that ended it. -/
def createChildren (created : Nat → Except Exc Uuid) : Nat → List StepTree →
    (Uuid → Option ChangeRequestStatus) →
    List Uuid × (Uuid → Option ChangeRequestStatus) × Option Exc
  | _, [], crs => ([],crs,none)
  | k, _ :: rest, crs =>
    match created k with
    | .error e => ([],crs,some e)
    | .ok crId =>
      let (crIds,crs,e) := createChildren created (k + 1) rest
        (Function.update crs crId (some .approved))
      (crId :: crIds,crs,e)

def terminalStatuses : List ChangeRequestStatus := [.completed,.failed,.rejected,.rolledBack]

def childTerminal (s : RunbookExecutor) (crId : Uuid) : Bool :=
  (s.changeRequests crId).any terminalStatuses.contains

def childFailed (s : RunbookExecutor) (crId : Uuid) : Bool :=
  (s.changeRequests crId).any fun status => status ≠ .completed

def childResults (s : RunbookExecutor) (crIds : List Uuid) : Json :=
  .arr (crIds.map fun crId => .obj [("cr_id",.str crId),
    ("status",.str (((s.changeRequests crId).map ChangeRequestStatus.value).getD "unknown"))])

def executeParallelStep (s : RunbookExecutor) (d : StepTree) (r : RunbookStepResult)
    (i : TickInput) : RunbookExecutor :=
  match r.status with
  | .pending =>
    let (crIds,crs,e) := createChildren i.created 0 d.parallelSteps s.changeRequests
    let s := { s with changeRequests := crs }
    match e with
    | none => s.setExecution (s.execution.save
        { r with changeRequestIds := crIds, status := .running, startedAt := some i.now })
    | some (.valueError message) => s.failStep d { r with
        changeRequestIds := crIds
        status := .failed
        errorMessage := some message } i.now
    | some _ => s
  | .running =>
    if r.changeRequestIds.all s.childTerminal then
      let r := { r with
        result := [("child_results",s.childResults r.changeRequestIds)]
        completedAt := some i.now }
      if r.changeRequestIds.any s.childFailed then s.failStep d { r with status := .failed } i.now
      else s.setExecution (s.execution.save { r with status := .completed }).advance
    else s
  | _ => s

/-- The match on the type of the step; a type it does not know is logged. -/
def executeStep (eval : Evaluator) (s : RunbookExecutor) (d : StepTree) (r : RunbookStepResult)
    (i : TickInput) : RunbookExecutor :=
  if d.fields.type = "change" then s.executeChangeStep d r i
  else if d.fields.type = "condition" then s.executeConditionStep eval d r i
  else if d.fields.type = "human_checkpoint" then s.executeCheckpointStep d r i
  else if d.fields.type = "parallel_group" then s.executeParallelStep d r i
  else s

/-- `tick_execution`, with what an exception out of it leaves behind. -/
def tickExecution (eval : Evaluator) (s : RunbookExecutor) (i : TickInput) : RunbookExecutor :=
  match s.execution.stepAt s.execution.currentStep with
  | none => s.setExecution (s.execution.finish .completed i.now)
  | some d =>
    let (r,ex) := s.execution.getOrCreateStepResult d
    (s.setExecution ex).executeStep eval d r i

end RunbookExecutor

/-- A request to go on after a checkpoint or to stop there, with its time also as a text. -/
structure ResumeRequest where
  stepNumber : Int
  action : String
  userId : Uuid
  email : String
  now : Int
  isoNow : String

namespace RunbookExecutor

def isActive (s : RunbookExecutor) : Bool :=
  s.execution.status = .running ∨ s.execution.status = .waitingHuman

def resumeCheckpoint (s : RunbookExecutor) (q : ResumeRequest) : Except Exc RunbookExecutor :=
  if s.execution.status ≠ .waitingHuman then
    .error (.http 409 "Execution is not waiting for human input")
  else match s.execution.stepResults.find? fun r =>
      r.stepNumber = q.stepNumber ∧ r.status = .waitingHuman with
  | none => .error (.http 404 "Waiting step not found")
  | some r =>
    if q.action = "resume" then
      .ok (s.setExecution { (s.execution.save { r with
        status := .completed
        completedAt := some q.now
        result := [("action",.str "resumed"),("resumed_by",.str q.userId),
          ("resumed_at",.str q.isoNow)] }).goTo (q.stepNumber + 1) false with status := .running })
    else if q.action = "abort" then
      .ok (s.setExecution ((s.execution.save { r with
        status := .failed
        errorMessage := some ("Aborted by " ++ q.email) }).finish .failed q.now))
    else .error (.http 400 "action must be 'resume' or 'abort'")

def abortExecution (s : RunbookExecutor) (now : Int) : Except Exc RunbookExecutor :=
  if s.isActive then
    let ex := s.execution.finish .failed now
    .ok (s.setExecution (match ex.resultAt ex.currentStep with
      | none => ex
      | some r => ex.save { r with
          status := .failed
          errorMessage := some "Aborted by operator" }))
  else .error (.http 409 "Execution is not active")

end RunbookExecutor

/-- `change` is any step of a change request, its removal among them. -/
inductive RunbookEvent where
  | tick (i : TickInput)
  | resume (q : ResumeRequest)
  | abort (now : Int)
  | change (crId : Uuid) (status : Option ChangeRequestStatus)

/-- The executions that `trigger_runbook` starts from a snapshot. -/
def runbookSystem (eval : Evaluator) (steps : List StepTree) (context : Dict) :
    System RunbookExecutor RunbookEvent where
  start s := s.execution = { steps := steps, context := context }
  step s e := match e with
    | .tick i => if s.isActive then some (s.tickExecution eval i) else none
    | .resume q => (s.resumeCheckpoint q).toOption
    | .abort now => (s.abortExecution now).toOption
    | .change crId status =>
      some { s with changeRequests := Function.update s.changeRequests crId status }

end Nexplane
