import Nexplane.ConnectorService

set_option autoImplicit false

/-! The serial executor of credential rotations, with its rollback in reverse. -/

namespace Nexplane
open PyValue

variable {ω : Type}

/-- The executor module for a connector type and an action read from a stored record. -/
def Env.recordedExecutor (env : Env ω) (connectorType actionId : Json) :
    Except Exc (ExecutorModule ω) := do
  let connectorType ← asText connectorType
  let actionId ← asText actionId
  env.getExecutor connectorType actionId

/-- `_resolve_connector`: the newest connector of the type, none when anything fails. -/
def resolveConnector (env : Env ω) (connectors : List Connector) (organizationId : Uuid)
    (connectorType : Json) : Option Connector := do
  let connectorType ← (asText connectorType).toOption
  guard (env.isConnectorType connectorType)
  let connector ← connectors.reverse.find? fun c =>
    c.organizationId = organizationId && c.connectorType = connectorType
  (attachCredentials env connector).toOption

def initStep (i : Nat) (desired : Json) : Except Exc Json := do
  let label ← desired.get "label" (.str ("Step " ++ toString (i + 1)))
  let connectorType ← desired.index "connector_type"
  let actionId ← desired.index "action_id"
  let params ← desired.get "params" (.obj [])
  pure (.obj [("index",.int i),("label",label),("connector_type",connectorType),
    ("action_id",actionId),("params",params),("status",.str "pending"),("result",.null),
    ("error",.null)])

def initSteps (desiredSteps : Json) : Except Exc (List Json) := do
  let steps ← desiredSteps.iter
  steps.zipIdx.mapM fun entry => initStep entry.2 entry.1

/-- The steps to work on: the ones the run has stored, else those of the desired outcome. -/
def loadSteps (result desiredOutcome : Dict) : Except Exc (List Json) :=
  let stored := Dict.getD result "steps" .null
  if stored.truthy then stored.iter else initSteps (Dict.getD desiredOutcome "steps" (.arr []))

/-- Whether assigning `{"steps": steps}` to the run is invisible to the unit of work, because the
value it loaded is that dictionary already and shares the mutated list. -/
def sharesSteps (result : Dict) : Bool :=
  (Dict.getD result "steps" .null).truthy && result.all fun kv => kv.1 = "steps"

def needsExecution (step : Json) : Except Exc Bool := do
  let status ← step.index "status"
  pure (status.isStr "pending" || status.isStr "executing")

/-- The work of one step: its connector, its action and the commit. -/
def rotateStep (env : Env ω) (cr : ChangeRequest) (connectors : List Connector) (step : Json) :
    Py (Site ω) Json := do
  let connectorType ← Py.ofExcept (step.index "connector_type")
  let connector := resolveConnector env connectors cr.organizationId connectorType
  let typeText ← Py.ofExcept (asText connectorType)
  let actionId ← Py.ofExcept (step.index "action_id" >>= asText)
  let params ← Py.ofExcept (step.index "params" >>= Json.mapping)
  let result ← executeAction env typeText actionId params [] connector
  Py.modify Site.commit
  pure result

/-- `run.result = {"steps": steps}` and the commit, which writes nothing when the list is
shared with the loaded value. -/
def persistSteps (run : Option Nat) (shared : Bool) (steps : List Json) : Py (World ω) Unit :=
  match run, shared with
  | some i, false => Py.modify fun w =>
      w.setRun i fun r => { r with result := [("steps",.arr steps)] }
  | _, _ => pure ()

def stepsState (steps : List Json) : Json := .obj [("steps",.arr steps)]

/-- The loop over the steps: `done` are behind it, the result is either the list of all steps or
the failed step's index with the list as it was then. -/
def rotateSteps (env : Env ω) (cr : ChangeRequest) (connectors : List Connector)
    (run : Option Nat) : Bool → List Json → List Json →
    Py (World ω) (List Json × Option Json)
  | _, done, [] => pure (done,none)
  | shared, done, step :: todo => do
    let needed ← Py.ofExcept (needsExecution step)
    if needed = false then rotateSteps env cr connectors run shared (done ++ [step]) todo
    else do
      let executing ← Py.ofExcept (step.put "status" (.str "executing"))
      persistSteps run shared (done ++ executing :: todo)
      -- From here on the run holds this very list, so later assignments of it are not seen.
      let shared := shared || run.isSome
      let outcome ← Py.attempt (onSite (rotateStep env cr connectors executing))
      match outcome with
      | .ok result => do
        let completed ← Py.ofExcept (executing.put "status" (.str "completed"))
        let completed ← Py.ofExcept (completed.put "result" result)
        persistSteps run shared (done ++ completed :: todo)
        rotateSteps env cr connectors run shared (done ++ [completed]) todo
      | .error e => do
        let index ← Py.ofExcept (executing.index "index")
        let _ ← Py.ofExcept (executing.index "connector_type")
        let _ ← Py.ofExcept (executing.index "action_id")
        let failed ← Py.ofExcept (executing.put "status" (.str "failed"))
        let failed ← Py.ofExcept (failed.put "error" (.str e.str))
        persistSteps run shared (done ++ failed :: todo)
        Py.modify fun w => w.setStatus .paused
        pure (done ++ failed :: todo,some index)

def isActiveRun (run : ExecutionRun) : Bool :=
  run.status = .running || run.status = .pending

/-- The run an executor works on: the newest active one, else the newest. -/
def currentRun (runs : List ExecutionRun) : Option Nat :=
  (latestRun isActiveRun runs).or (latestRun (fun _ => true) runs)

def World.runResult (w : World ω) (run : Option Nat) : Dict :=
  ((run.bind w.run?).map ExecutionRun.result).getD []

def executeSteps (env : Env ω) : Py (World ω) Json := do
  let w ← Py.get
  let run := currentRun w.runs
  let current := w.runResult run
  let steps ← Py.ofExcept (loadSteps current w.cr.desiredOutcome)
  let outcome ← rotateSteps env w.cr w.connectors run (sharesSteps current) [] steps
  match outcome with
  | (steps,some index) =>
    pure (.obj [("steps",.arr steps),("paused",.bool true),("current_step",index)])
  | (steps,none) => do
    Py.modify fun w => w.setStatus .completed
    let w ← Py.get
    match latestRun isActiveRun w.runs with
    | some i => Py.modify fun w => w.setRun i fun r =>
        { r with status := .completed, result := [("execution",stepsState steps)] }
    | none => pure ()
    pure (stepsState steps)

def stepCompleted (step : Json) : Except Exc Bool := do
  let status ← step.get "status" .null
  pure (status.isStr "completed")

/-- The completed steps of an execution result, in their order. -/
def filoRecords (executionResult : Json) : Except Exc (List Json) := do
  let direct ← executionResult.get "steps" .null
  let steps ←
    if direct.truthy then direct.iter
    else do
      let execution ← executionResult.get "execution" (.obj [])
      let nested ← execution.get "steps" (.arr [])
      nested.iter
  steps.filterM stepCompleted

/-- What the executor's rollback function answers, or why there is none to ask. -/
def filoUndo (connector : Option Connector) (module : ExecutorModule ω)
    (step : Json) : Py (Site ω) Json :=
  match module.rollback with
  | none => pure (.obj [("rolled_back",.bool false),("reason",.str "no_rollback_function")])
  | some rollback =>
    Py.tryExcept
      (do
        let params ← Py.ofExcept (step.get "params" (.obj []) >>= Json.mapping)
        let prior ← Py.ofExcept (step.get "result" .null)
        outside (rollback params (prior.orElse (.obj [])) connector))
      fun e => pure (.obj [("rolled_back",.bool false),("error",.str e.str)])

def filoEntry (step result : Json) : Except Exc Json := do
  let index ← step.index "index"
  let label ← step.get "label" (.str "")
  pure (.obj [("index",index),("label",label),("rollback_result",result)])

def filoStep (env : Env ω) (cr : ChangeRequest) (connectors : List Connector) (step : Json) :
    Py (Site ω) Json := do
  Py.modify fun s => s.log (.record step)
  let connectorType ← Py.ofExcept (step.index "connector_type")
  let actionId ← Py.ofExcept (step.index "action_id")
  let connector := resolveConnector env connectors cr.organizationId connectorType
  match env.recordedExecutor connectorType actionId with
  | .error e =>
    Py.ofExcept (filoEntry step (.obj [("rolled_back",.bool false),
      ("error",.str ("Cannot load executor: " ++ e.str))]))
  | .ok module => do
    let result ← filoUndo connector module step
    Py.ofExcept (filoEntry step result)

/-- `r["rollback_result"].get("rolled_back", False)`. -/
def rolledBack (entry : Json) : Except Exc Bool := do
  let result ← entry.index "rollback_result"
  let flag ← result.get "rolled_back" (.bool false)
  pure flag.truthy

def executeFiloRollback (env : Env ω) (executionResult : Json) : Py (World ω) Json := do
  let w ← Py.get
  let completed ← Py.ofExcept (filoRecords executionResult)
  let entries ← onSite (Py.each (filoStep env w.cr w.connectors) completed.reverse)
  let flags ← Py.ofExcept (entries.mapM rolledBack)
  let allOk := flags.all id
  pure (.obj [("rollback_steps",.arr entries),("all_rolled_back",.bool allOk),
    ("has_warnings",.bool (!allOk && !entries.isEmpty))])

section Frame

variable {env : Env ω} {cr : ChangeRequest} {connectors : List Connector}
  {I : World ω → Prop}

theorem persistSteps_keeps (hI : ResultWrites I) (run : Option Nat) (shared : Bool)
    (steps : List Json) : Py.Keeps I (persistSteps run shared steps) := by
  unfold persistSteps
  split
  · exact .modify fun w h => hI.result w _ _ h
  · exact .pure _

variable (hI : RowWrites I)

include hI

theorem rotateSteps_keeps
    (hstep : ∀ step, Py.Keeps I (onSite (rotateStep env cr connectors step)))
    (run : Option Nat) (shared : Bool) (done todo : List Json) :
    Py.Keeps I (rotateSteps env cr connectors run shared done todo) := by
  induction todo generalizing shared done with
  | nil => exact .pure _
  | cons step todo ih =>
    refine .bind (.ofExcept _) fun needed => .ite (ih _ _) ?_
    refine .bind (.ofExcept _) fun executing => .bind (persistSteps_keeps hI.results _ _ _) fun _ =>
      .bind (.attempt (hstep _)) fun outcome => ?_
    cases outcome with
    | ok result =>
      exact .bind (.ofExcept _) fun _ => .bind (.ofExcept _) fun _ =>
        .bind (persistSteps_keeps hI.results _ _ _) fun _ => ih _ _
    | error e =>
      exact .bind (.ofExcept _) fun _ => .bind (.ofExcept _) fun _ => .bind (.ofExcept _) fun _ =>
        .bind (.ofExcept _) fun _ => .bind (.ofExcept _) fun _ =>
        .bind (persistSteps_keeps hI.results _ _ _) fun _ =>
        .bind (.modify fun w h => hI.status w _ h) fun _ => .pure _

theorem executeSteps_keeps
    (hstep : ∀ cr connectors step, Py.Keeps I (onSite (rotateStep env cr connectors step))) :
    Py.Keeps I (executeSteps env) := by
  refine .bind .get fun w => .bind (.ofExcept _) fun steps =>
    .bind (rotateSteps_keeps hI (hstep _ _) _ _ _ _) fun outcome => ?_
  obtain ⟨steps,index⟩ := outcome
  cases index with
  | some index => exact .pure _
  | none =>
    refine .bind (.modify fun w h => hI.status w _ h) fun _ => .bind .get fun w => ?_
    cases latestRun isActiveRun w.runs with
    | some i => exact .bind (.modify fun w h => hI.run w _ _ h) fun _ => .pure _
    | none => exact .pure _

end Frame

section Undo

variable {env : Env ω} {cr : ChangeRequest} {connectors : List Connector} {J : Site ω → Prop}
  (hJ : ∀ (s : Site ω) o, J s → J { s with outside := o })

include hJ

theorem filoUndo_keeps (connector : Option Connector) (module : ExecutorModule ω) (step : Json) :
    Py.Keeps J (filoUndo connector module step) := by
  unfold filoUndo
  split
  · exact .pure _
  · exact .tryExcept (.bind (.ofExcept _) fun _ => .bind (.ofExcept _) fun _ =>
      outside_keeps hJ _) fun e => .pure _

/-- Once its record is logged, the undo of a step only calls the outside. -/
theorem filoStep_frame (step : Json) (s : Site ω) (hs : J (s.log (.record step))) :
    J (filoStep env cr connectors step s).2 := by
  refine (Py.Keeps.bind (.ofExcept _) fun connectorType => .bind (.ofExcept _) fun actionId => ?_ :
    Py.Keeps J _) (s.log (.record step)) hs
  dsimp only
  split
  · exact .ofExcept _
  · exact .bind (filoUndo_keeps hJ _ _ _) fun _ => .ofExcept _

end Undo

end Nexplane
