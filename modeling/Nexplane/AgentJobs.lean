import Nexplane.Entities
import Nexplane.Lib.Runs
import Nexplane.Lib.Orm

set_option autoImplicit false

/-! Agent jobs: the dispatcher that waits for a job, the agents' polls and their result posts,
interleaved statement by statement. Time is counted in seconds. -/

namespace Nexplane
open PyValue Runs Orm

inductive AgentJobStatus where
  | pending
  | running
  | completed
  | failed
  deriving DecidableEq, Repr

def AgentJobStatus.terminal : AgentJobStatus → Bool
  | .pending => false
  | .running => false
  | .completed => true
  | .failed => true

structure AgentJob where
  agentRegistrationId : Uuid
  organizationId : Uuid
  command : String
  status : AgentJobStatus
  result : Option Dict
  error : Option String
  deriving Repr

/-- The body of a result post; any status is accepted. -/
structure AgentJobResult where
  agentId : Uuid
  status : AgentJobStatus
  result : Option Dict
  error : Option String

/-- How `dispatch_agent_job` ends: with the job's result, or raising. -/
inductive DispatchOutcome where
  | returned (result : Dict)
  | jobFailed (command : String) (error : Json)
  | disappeared
  | timedOut

def DispatchOutcome.raises : DispatchOutcome → Bool
  | .returned _ => false
  | _ => true

/-- The loop of `dispatch_agent_job`: at its deadline check, asleep, or done. -/
inductive DispatchPhase where
  | checking
  | sleeping (until_ : Nat)
  | ended (outcome : DispatchOutcome)

structure Dispatcher where
  deadline : Nat
  phase : DispatchPhase

/-- A job is named by its position in `jobs`, which is the order of creation. -/
structure AgentState where
  now : Nat
  jobs : List AgentJob
  dispatchers : Nat → Option Dispatcher
  /-- The polls between their SELECT and their commit, with the job they selected. -/
  polls : Nat → Option Nat
  /-- The posts between their SELECT and their commit, with the row they loaded. -/
  posts : Nat → Option (Nat × AgentJob × AgentJobResult)
  /-- When a terminal result was first recorded for a job. -/
  recordedAt : Nat → Option Nat

inductive AgentEvent where
  | tick
  | dispatch (agentRegistrationId organizationId : Uuid) (command : String) (timeoutSeconds : Nat)
  | check (jobId : Nat)
  | sample (jobId : Nat)
  | pollSelect (pollId : Nat) (agentId organizationId : Uuid)
  | pollCommit (pollId jobId : Nat)
  | postSelect (postId jobId : Nat) (organizationId : Uuid) (body : AgentJobResult)
  | postCommit (postId jobId : Nat)

/-- What the dispatcher makes of a job it finds terminal. -/
def reportJob (job : AgentJob) : Option DispatchOutcome :=
  match job.status with
  | .completed =>
    let result := job.result.getD []
    some (.returned
      (if result.isEmpty then [("command",.str job.command),("status",.str "completed")]
        else result))
  | .failed =>
    let fromResult := (job.result.getD []).getD "error" .null
    some (.jobFailed job.command
      (match job.error with
        | some error => if error ≠ "" then .str error
          else if fromResult.truthy then fromResult else .str "unknown error"
        | none => if fromResult.truthy then fromResult else .str "unknown error"))
  | _ => none

def AgentState.setDispatcher (s : AgentState) (jobId : Nat) (d : Dispatcher) : AgentState :=
  { s with dispatchers := fun j => if j = jobId then some d else s.dispatchers j }

def AgentState.setPoll (s : AgentState) (pollId : Nat) (p : Option Nat) : AgentState :=
  { s with polls := fun i => if i = pollId then p else s.polls i }

def AgentState.setPost (s : AgentState) (postId : Nat)
    (p : Option (Nat × AgentJob × AgentJobResult)) : AgentState :=
  { s with posts := fun i => if i = postId then p else s.posts i }

/-- The deadline is compared before each sleep of ten seconds. -/
def checkDeadline (s : AgentState) (jobId : Nat) (d : Dispatcher) : AgentState :=
  if s.now < d.deadline then s.setDispatcher jobId { d with phase := .sleeping (s.now + 10) }
  else s.setDispatcher jobId { d with phase := .ended .timedOut }

def sampleJob (s : AgentState) (jobId : Nat) (d : Dispatcher) : AgentState :=
  match s.jobs[jobId]? with
  | none => s.setDispatcher jobId { d with phase := .ended .disappeared }
  | some job =>
    match reportJob job with
    | some outcome => s.setDispatcher jobId { d with phase := .ended outcome }
    | none => s.setDispatcher jobId { d with phase := .checking }

/-- The flush of `job.status = running` over the row as it is by then. -/
def claimJob (job : AgentJob) : AgentJob :=
  { job with status := flushColumn job.status .pending .running }

def resultEq : Option Dict → Option Dict → Bool
  | none, none => true
  | some d, some d' => (Json.obj d).eq (.obj d')
  | _, _ => false

/-- The flush of a result post that loaded `loaded`. -/
def recordResult (job loaded : AgentJob) (body : AgentJobResult) : AgentJob :=
  { job with
    status := flushColumn job.status loaded.status body.status
    result := flushWith resultEq job.result loaded.result body.result
    error := flushColumn job.error loaded.error body.error }

def agentStep (s : AgentState) : AgentEvent → Option AgentState
  | .tick => some { s with now := s.now + 1 }
  | .dispatch agent org command timeoutSeconds =>
    let job : AgentJob :=
      { agentRegistrationId := agent, organizationId := org, command := command,
        status := .pending, result := none, error := none }
    let s' := { s with jobs := s.jobs ++ [job] }
    some (s'.setDispatcher s.jobs.length
      { deadline := s.now + timeoutSeconds, phase := .checking })
  | .check jobId =>
    match s.dispatchers jobId with
    | some d => match d.phase with
      | .checking => some (checkDeadline s jobId d)
      | _ => none
    | none => none
  | .sample jobId =>
    match s.dispatchers jobId with
    | some d => match d.phase with
      | .sleeping until_ => if until_ ≤ s.now then some (sampleJob s jobId d) else none
      | _ => none
    | none => none
  | .pollSelect pollId agent org =>
    match s.polls pollId, s.jobs.findIdx? fun job =>
        job.agentRegistrationId = agent ∧ job.organizationId = org ∧ job.status = .pending with
    | none, some jobId => some (s.setPoll pollId (some jobId))
    | _, _ => none
  | .pollCommit pollId jobId =>
    match s.jobs[jobId]? with
    | some job =>
      if s.polls pollId = some jobId then
        some ({ s with jobs := s.jobs.set jobId (claimJob job) }.setPoll pollId none)
      else none
    | none => none
  | .postSelect postId jobId org body =>
    match s.posts postId, s.jobs[jobId]? with
    | none, some job =>
      if job.organizationId = org ∧ job.agentRegistrationId = body.agentId ∧
          job.status.terminal = false then
        some (s.setPost postId (some (jobId,job,body)))
      else none
    | _, _ => none
  | .postCommit postId jobId =>
    match s.posts postId, s.jobs[jobId]? with
    | some (jobId',loaded,body), some job =>
      if jobId' = jobId then
        let job := recordResult job loaded body
        let s' := { s with
          jobs := s.jobs.set jobId job
          recordedAt := fun j =>
            if j = jobId ∧ s.recordedAt j = none ∧ job.status.terminal then some s.now
            else s.recordedAt j }
        some (s'.setPost postId none)
      else none
    | _, _ => none

def agentSystem : System AgentState AgentEvent where
  start s := s.jobs = [] ∧ s.dispatchers = (fun _ => none) ∧ s.polls = (fun _ => none) ∧
    s.posts = (fun _ => none) ∧ s.recordedAt = fun _ => none
  step := agentStep

/-- The dispatcher of a job raises in this step. -/
def Raises (jobId : Nat) (t : Transition AgentState AgentEvent) : Prop :=
  (t.label = .check jobId ∨ t.label = .sample jobId) ∧
    ∃ d outcome, t.post.dispatchers jobId = some d ∧ d.phase = .ended outcome ∧
      outcome.raises = true

/-- The job is handed to an agent in this step. -/
def HandsOut (jobId : Nat) (t : Transition AgentState AgentEvent) : Prop :=
  ∃ pollId, t.label = .pollCommit pollId jobId

/-- A dispatcher that ends although a terminal result was recorded before its deadline reports
the result of the job. -/
def ReportsRecorded (t : Transition AgentState AgentEvent) : Prop :=
  ∀ jobId d outcome recorded, t.label = .check jobId ∨ t.label = .sample jobId →
    t.post.dispatchers jobId = some d → d.phase = .ended outcome →
    t.pre.recordedAt jobId = some recorded → recorded < d.deadline →
    ∃ job, t.pre.jobs[jobId]? = some job ∧ reportJob job = some outcome

/-- A deadline passes only while the agent is at work on the job, or after it reported too late;
a poll claims a job that is still pending, and a post brings a terminal status. -/
def Undisturbed (s : AgentState) : AgentEvent → Prop
  | .check jobId =>
    ∀ d job, s.dispatchers jobId = some d → s.jobs[jobId]? = some job → d.deadline ≤ s.now →
      job.status = .running ∨ ∃ recorded, s.recordedAt jobId = some recorded ∧
        d.deadline ≤ recorded
  | .pollCommit _ jobId => ∀ job, s.jobs[jobId]? = some job → job.status = .pending
  | .postCommit postId _ =>
    ∀ jobId loaded body, s.posts postId = some (jobId,loaded,body) →
      body.status.terminal = true
  | _ => True

end Nexplane
