import Nexplane.AgentJobs

set_option autoImplicit false

/-! Abandoned jobs and reported results, over every run of dispatchers, polls and posts. -/

namespace Nexplane
open PyValue Runs Orm

section
variable {s s' : AgentState} {jobId pollId postId : Nat}

theorem check_some (h : agentStep s (.check jobId) = some s') :
    ∃ d, s.dispatchers jobId = some d ∧ s' = checkDeadline s jobId d := by
  cases hd : s.dispatchers jobId with
  | none => simp [agentStep,hd] at h
  | some d =>
    cases hp : d.phase <;> simp only [agentStep,hd,hp,reduceCtorEq,Option.some.injEq] at h
    exact ⟨d,rfl,h.symm⟩

theorem sample_some (h : agentStep s (.sample jobId) = some s') :
    ∃ d, s.dispatchers jobId = some d ∧ s' = sampleJob s jobId d := by
  cases hd : s.dispatchers jobId with
  | none => simp [agentStep,hd] at h
  | some d =>
    cases hp : d.phase <;> simp only [agentStep,hd,hp,reduceCtorEq,
      Option.ite_none_right_eq_some,Option.some.injEq] at h
    exact ⟨d,rfl,h.2.symm⟩

theorem pollSelect_some {agent org : Uuid}
    (h : agentStep s (.pollSelect pollId agent org) = some s') :
    ∃ p, s' = s.setPoll pollId p := by
  simp only [agentStep] at h
  split at h
  · exact ⟨_,(Option.some.inj h).symm⟩
  · cases h

theorem pollCommit_some (h : agentStep s (.pollCommit pollId jobId) = some s') :
    ∃ job, s.jobs[jobId]? = some job ∧
      s' = { s with jobs := s.jobs.set jobId (claimJob job) }.setPoll pollId none := by
  cases hj : s.jobs[jobId]? with
  | none => simp [agentStep,hj] at h
  | some job =>
    simp only [agentStep,hj,Option.ite_none_right_eq_some,Option.some.injEq] at h
    exact ⟨job,rfl,h.2.symm⟩

theorem postSelect_some {org : Uuid} {body : AgentJobResult}
    (h : agentStep s (.postSelect postId jobId org body) = some s') :
    ∃ job, s.jobs[jobId]? = some job ∧ job.status.terminal = false ∧
      s' = s.setPost postId (some (jobId,job,body)) := by
  cases hp : s.posts postId with
  | some p => simp [agentStep,hp] at h
  | none =>
    cases hj : s.jobs[jobId]? with
    | none => simp [agentStep,hp,hj] at h
    | some job =>
      simp only [agentStep,hp,hj,Option.ite_none_right_eq_some,Option.some.injEq] at h
      exact ⟨job,rfl,h.1.2.2,h.2.symm⟩

theorem postCommit_some (h : agentStep s (.postCommit postId jobId) = some s') :
    ∃ loaded body job, s.posts postId = some (jobId,loaded,body) ∧ s.jobs[jobId]? = some job ∧
      s' = { s with
        jobs := s.jobs.set jobId (recordResult job loaded body)
        recordedAt := fun j =>
          if j = jobId ∧ s.recordedAt j = none ∧ (recordResult job loaded body).status.terminal
          then some s.now else s.recordedAt j }.setPost postId none := by
  cases hp : s.posts postId with
  | none => simp [agentStep,hp] at h
  | some p =>
    obtain ⟨jobId',loaded,body⟩ := p
    cases hj : s.jobs[jobId]? with
    | none => simp [agentStep,hp,hj] at h
    | some job =>
      simp only [agentStep,hp,hj,Option.ite_none_right_eq_some,Option.some.injEq] at h
      obtain ⟨rfl,h⟩ := h
      exact ⟨loaded,body,job,rfl,rfl,h.symm⟩

/-- What holds in every run whose posts bring terminal statuses and whose polls claim pending
jobs. -/
structure AgentInv (s : AgentState) : Prop where
  dispatched : ∀ j d, s.dispatchers j = some d → j < s.jobs.length
  recorded : ∀ j r, s.recordedAt j = some r →
    ∃ job, s.jobs[j]? = some job ∧ job.status.terminal = true
  posts : ∀ i j loaded body, s.posts i = some (j,loaded,body) → loaded.status.terminal = false

theorem AgentInv.set (hi : AgentInv s) (job : AgentJob) (recordedAt : Nat → Option Nat)
    (hj : jobId < s.jobs.length)
    (hrec : ∀ j r, recordedAt j = some r →
      j = jobId ∧ job.status.terminal = true ∨ j ≠ jobId ∧ s.recordedAt j = some r) :
    AgentInv { s with jobs := s.jobs.set jobId job, recordedAt := recordedAt } := by
  refine ⟨?_,?_,hi.posts⟩
  · intro j d hd
    simpa using hi.dispatched j d hd
  · intro j r hr
    rcases hrec j r hr with ⟨rfl,ht⟩ | ⟨hne,hr⟩
    · exact ⟨job,by simp [hj],ht⟩
    · obtain ⟨job',hj',ht⟩ := hi.recorded j r hr
      exact ⟨job',by simpa [Ne.symm hne] using hj',ht⟩

theorem recordResult_status (job : AgentJob) {loaded : AgentJob} {body : AgentJobResult}
    (hl : loaded.status.terminal = false) (hb : body.status.terminal = true) :
    (recordResult job loaded body).status = body.status := by
  have hne : body.status ≠ loaded.status := by
    intro he
    rw [he,hl] at hb
    cases hb
  simp [recordResult,flushColumn,hne]

theorem claimJob_status (job : AgentJob) : (claimJob job).status = .running := by
  simp [claimJob,flushColumn]

theorem AgentInv.setDispatcher (hi : AgentInv s) {d d' : Dispatcher}
    (hd : s.dispatchers jobId = some d) : AgentInv (s.setDispatcher jobId d') := by
  refine ⟨?_,hi.recorded,hi.posts⟩
  intro j e he
  by_cases hj : j = jobId
  · exact hj ▸ hi.dispatched jobId d hd
  · exact hi.dispatched j e (by simpa [AgentState.setDispatcher,hj] using he)

theorem checkDeadline_inv (hi : AgentInv s) {d : Dispatcher}
    (hd : s.dispatchers jobId = some d) : AgentInv (checkDeadline s jobId d) := by
  unfold checkDeadline
  split
  · exact hi.setDispatcher hd
  · exact hi.setDispatcher hd

theorem sampleJob_inv (hi : AgentInv s) {d : Dispatcher} (hd : s.dispatchers jobId = some d) :
    AgentInv (sampleJob s jobId d) := by
  unfold sampleJob
  repeat' split
  all_goals exact hi.setDispatcher hd

theorem dispatch_inv {agent org : Uuid} {command : String} {timeoutSeconds : Nat}
    (hi : AgentInv s) (h : agentStep s (.dispatch agent org command timeoutSeconds) = some s') :
    AgentInv s' := by
  obtain rfl := Option.some.inj h
  refine ⟨?_,?_,hi.posts⟩
  · intro j d hd
    by_cases hj : j = s.jobs.length
    · simp [AgentState.setDispatcher,hj]
    · have := hi.dispatched j d (by simpa [AgentState.setDispatcher,hj] using hd)
      simp only [AgentState.setDispatcher,List.length_append,List.length_singleton]
      omega
  · intro j r hr
    obtain ⟨job,hjob,ht⟩ := hi.recorded j r hr
    have hlt : j < s.jobs.length := (List.getElem?_eq_some_iff.mp hjob).1
    exact ⟨job,(List.getElem?_append_left hlt).trans hjob,ht⟩

theorem pollCommit_inv {pollId : Nat} (hi : AgentInv s)
    (hG : Undisturbed s (.pollCommit pollId jobId))
    (h : agentStep s (.pollCommit pollId jobId) = some s') : AgentInv s' := by
  obtain ⟨job,hjob,rfl⟩ := pollCommit_some h
  have hlt : jobId < s.jobs.length := (List.getElem?_eq_some_iff.mp hjob).1
  have hpending := hG job hjob
  have hset := hi.set (claimJob job) s.recordedAt hlt fun j r hr => by
    refine Or.inr ⟨?_,hr⟩
    rintro rfl
    obtain ⟨job',hjob',ht⟩ := hi.recorded j r hr
    obtain rfl : job = job' := Option.some.inj (hjob.symm.trans hjob')
    simp [hpending,AgentJobStatus.terminal] at ht
  exact ⟨hset.dispatched,hset.recorded,hset.posts⟩

theorem postCommit_inv {postId : Nat} (hi : AgentInv s)
    (hG : Undisturbed s (.postCommit postId jobId))
    (h : agentStep s (.postCommit postId jobId) = some s') : AgentInv s' := by
  obtain ⟨loaded,body,job,hpost,hjob,rfl⟩ := postCommit_some h
  have hlt : jobId < s.jobs.length := (List.getElem?_eq_some_iff.mp hjob).1
  have hst := recordResult_status job (hi.posts postId jobId loaded body hpost)
    (hG jobId loaded body hpost)
  have hterm := hG jobId loaded body hpost
  have hset := hi.set (recordResult job loaded body) (fun j =>
      if j = jobId ∧ s.recordedAt j = none ∧ (recordResult job loaded body).status.terminal
      then some s.now else s.recordedAt j) hlt fun j r hr => by
    by_cases hj : j = jobId
    · exact Or.inl ⟨hj,by rw [hst,hterm]⟩
    · exact Or.inr ⟨hj,by simpa [hj] using hr⟩
  refine ⟨hset.dispatched,hset.recorded,?_⟩
  intro i j loaded' body' hp
  by_cases hpi : i = postId
  · simp [AgentState.setPost,hpi] at hp
  · exact hi.posts i j loaded' body' (by simpa [AgentState.setPost,hpi] using hp)

theorem agentInv_inductive : InductiveUnder agentSystem Undisturbed AgentInv := by
  refine ⟨?_,?_⟩
  · rintro s ⟨h1,h2,_,h4,h5⟩
    exact ⟨by simp [h2],by simp [h5],by simp [h4]⟩
  · intro s e s' hi hG h
    cases e with
    | tick =>
      obtain rfl := Option.some.inj h
      exact ⟨hi.dispatched,hi.recorded,hi.posts⟩
    | dispatch agent org command timeoutSeconds => exact dispatch_inv hi h
    | check jobId =>
      obtain ⟨d,hd,rfl⟩ := check_some h
      exact checkDeadline_inv hi hd
    | sample jobId =>
      obtain ⟨d,hd,rfl⟩ := sample_some h
      exact sampleJob_inv hi hd
    | pollSelect pollId agent org =>
      obtain ⟨p,rfl⟩ := pollSelect_some h
      exact ⟨hi.dispatched,hi.recorded,hi.posts⟩
    | pollCommit pollId jobId => exact pollCommit_inv hi hG h
    | postSelect postId jobId org body =>
      obtain ⟨job,hjob,ht,rfl⟩ := postSelect_some h
      refine ⟨hi.dispatched,hi.recorded,?_⟩
      intro i j loaded body' hp
      by_cases hpi : i = postId
      · simp only [AgentState.setPost,hpi,if_true,Option.some.injEq,Prod.mk.injEq] at hp
        exact hp.2.1 ▸ ht
      · exact hi.posts i j loaded body' (by simpa [AgentState.setPost,hpi] using hp)
    | postCommit postId jobId => exact postCommit_inv hi hG h

/-- The job is past the point where a poll can select it. -/
def Claimed (jobId : Nat) (s : AgentState) : Prop :=
  ∃ job, s.jobs[jobId]? = some job ∧ job.status ≠ .pending

theorem claimed_set {j : Nat} {job : AgentJob} (hne : job.status ≠ .pending)
    (h : Claimed jobId s) :
    ∃ job', (s.jobs.set j job)[jobId]? = some job' ∧ job'.status ≠ .pending := by
  obtain ⟨job',hjob',hs⟩ := h
  by_cases hj : j = jobId
  · subst hj
    exact ⟨job,by simp [(List.getElem?_eq_some_iff.mp hjob').1],hne⟩
  · exact ⟨job',by simpa [hj] using hjob',hs⟩

theorem checkDeadline_jobs (s : AgentState) (jobId : Nat) (d : Dispatcher) :
    (checkDeadline s jobId d).jobs = s.jobs := by
  unfold checkDeadline
  split <;> rfl

theorem sampleJob_jobs (s : AgentState) (jobId : Nat) (d : Dispatcher) :
    (sampleJob s jobId d).jobs = s.jobs := by
  unfold sampleJob
  repeat' split
  all_goals rfl

theorem terminal_ne_pending {status : AgentJobStatus} (h : status.terminal = true) :
    status ≠ .pending := by
  rintro rfl
  cases h

/-- What a step does to the jobs. -/
theorem agentStep_jobs {e : AgentEvent} (h : agentStep s e = some s') :
    s'.jobs = s.jobs ∨
    (∃ job : AgentJob, job.status = .pending ∧ s'.jobs = s.jobs ++ [job]) ∨
    (∃ pollId jobId job, e = .pollCommit pollId jobId ∧ s.jobs[jobId]? = some job ∧
      s'.jobs = s.jobs.set jobId (claimJob job)) ∨
    ∃ postId jobId loaded body job, e = .postCommit postId jobId ∧
      s.posts postId = some (jobId,loaded,body) ∧ s.jobs[jobId]? = some job ∧
      s'.jobs = s.jobs.set jobId (recordResult job loaded body) := by
  cases e with
  | tick =>
    obtain rfl := Option.some.inj h
    exact Or.inl rfl
  | dispatch agent org command timeoutSeconds =>
    obtain rfl := Option.some.inj h
    exact Or.inr (Or.inl ⟨_,rfl,rfl⟩)
  | check j =>
    obtain ⟨d,_,rfl⟩ := check_some h
    exact Or.inl (checkDeadline_jobs s j d)
  | sample j =>
    obtain ⟨d,_,rfl⟩ := sample_some h
    exact Or.inl (sampleJob_jobs s j d)
  | pollSelect pollId agent org =>
    obtain ⟨p,rfl⟩ := pollSelect_some h
    exact Or.inl rfl
  | pollCommit pollId j =>
    obtain ⟨job,hjob,rfl⟩ := pollCommit_some h
    exact Or.inr (Or.inr (Or.inl ⟨pollId,j,job,rfl,hjob,rfl⟩))
  | postSelect postId j org body =>
    obtain ⟨job,_,_,rfl⟩ := postSelect_some h
    exact Or.inl rfl
  | postCommit postId j =>
    obtain ⟨loaded,body,job,hpost,hjob,rfl⟩ := postCommit_some h
    exact Or.inr (Or.inr (Or.inr ⟨postId,j,loaded,body,job,rfl,hpost,hjob,rfl⟩))

/-- A claimed job stays claimed while no post makes it pending again. -/
theorem Claimed.keep {e : AgentEvent} (h : agentStep s e = some s')
    (hposts : ∀ postId j loaded body job, e = .postCommit postId j →
      s.posts postId = some (j,loaded,body) → s.jobs[j]? = some job →
      (recordResult job loaded body).status ≠ .pending) (hq : Claimed jobId s) :
    Claimed jobId s' := by
  unfold Claimed
  rcases agentStep_jobs h with hjobs | ⟨job,_,hjobs⟩ | ⟨pollId,j,job,_,_,hjobs⟩ |
    ⟨postId,j,loaded,body,job,he,hpost,hjob,hjobs⟩
  · rw [hjobs]
    exact hq
  · obtain ⟨job',hjob',hs⟩ := hq
    rw [hjobs]
    have hlt : jobId < s.jobs.length := (List.getElem?_eq_some_iff.mp hjob').1
    exact ⟨job',(List.getElem?_append_left hlt).trans hjob',hs⟩
  · rw [hjobs]
    exact claimed_set (by simp [claimJob_status]) hq
  · rw [hjobs]
    exact claimed_set (hposts postId j loaded body job he hpost hjob) hq

theorem Claimed.step {e : AgentEvent} (hi : AgentInv s) (hG : Undisturbed s e)
    (h : agentStep s e = some s') (hq : Claimed jobId s) : Claimed jobId s' := by
  refine hq.keep h fun postId j loaded body job he hpost _ => ?_
  subst he
  have hterm := hG j loaded body hpost
  rw [recordResult_status job (hi.posts postId j loaded body hpost) hterm]
  exact terminal_ne_pending hterm

theorem checkDeadline_ended {d d' : Dispatcher} {outcome : DispatchOutcome}
    (hd' : (checkDeadline s jobId d).dispatchers jobId = some d')
    (hp : d'.phase = .ended outcome) :
    d.deadline ≤ s.now ∧ d'.deadline = d.deadline ∧ outcome = .timedOut := by
  unfold checkDeadline at hd'
  by_cases hlt : s.now < d.deadline
  · simp only [hlt,if_true,AgentState.setDispatcher,Option.some.injEq] at hd'
    simp [← hd'] at hp
  · simp only [hlt,if_false,AgentState.setDispatcher,if_true,Option.some.injEq] at hd'
    subst hd'
    exact ⟨Nat.le_of_not_lt hlt,rfl,by simpa using hp.symm⟩

theorem sampleJob_ended {d d' : Dispatcher} {outcome : DispatchOutcome} {job : AgentJob}
    (hjob : s.jobs[jobId]? = some job)
    (hd' : (sampleJob s jobId d).dispatchers jobId = some d')
    (hp : d'.phase = .ended outcome) : reportJob job = some outcome := by
  cases hr : reportJob job with
  | none =>
    simp only [sampleJob,hjob,hr,AgentState.setDispatcher,if_true,Option.some.injEq] at hd'
    simp [← hd'] at hp
  | some o =>
    simp only [sampleJob,hjob,hr,AgentState.setDispatcher,if_true,Option.some.injEq] at hd'
    simp only [← hd',DispatchPhase.ended.injEq] at hp
    rw [hp]

theorem reportJob_terminal {job : AgentJob} {outcome : DispatchOutcome}
    (h : reportJob job = some outcome) : job.status.terminal = true := by
  cases hs : job.status <;> simp_all [reportJob,AgentJobStatus.terminal]

theorem AgentInv.job (hi : AgentInv s) {d : Dispatcher} (hd : s.dispatchers jobId = some d) :
    ∃ job, s.jobs[jobId]? = some job :=
  ⟨_,List.getElem?_eq_getElem (hi.dispatched jobId d hd)⟩

theorem timeout_claimed (hi : AgentInv s) (hG : Undisturbed s (.check jobId)) {d : Dispatcher}
    (hd : s.dispatchers jobId = some d) (hnow : d.deadline ≤ s.now) : Claimed jobId s := by
  obtain ⟨job,hjob⟩ := hi.job hd
  rcases hG d job hd hjob hnow with hr | ⟨r,hr,_⟩
  · exact ⟨job,hjob,by simp [hr]⟩
  · obtain ⟨job',hjob',ht⟩ := hi.recorded jobId r hr
    exact ⟨job',hjob',terminal_ne_pending ht⟩

theorem raises_claimed {e : AgentEvent} (hi : AgentInv s) (hG : Undisturbed s e)
    (h : agentStep s e = some s') (hr : Raises jobId ⟨s,e,s'⟩) : Claimed jobId s' := by
  obtain ⟨rfl | rfl,d',outcome,hd',hp,_⟩ := hr
  · obtain ⟨d,hd,rfl⟩ := check_some h
    obtain ⟨hnow,_,_⟩ := checkDeadline_ended hd' hp
    rw [Claimed,checkDeadline_jobs]
    exact timeout_claimed hi hG hd hnow
  · obtain ⟨d,hd,rfl⟩ := sample_some h
    obtain ⟨job,hjob⟩ := hi.job hd
    have hrep := sampleJob_ended hjob hd' hp
    rw [Claimed,sampleJob_jobs]
    exact ⟨job,hjob,terminal_ne_pending (reportJob_terminal hrep)⟩

theorem step_reportsRecorded {e : AgentEvent} (hi : AgentInv s) (hG : Undisturbed s e)
    (h : agentStep s e = some s') : ReportsRecorded ⟨s,e,s'⟩ := by
  rintro jobId d' outcome recorded (rfl | rfl) hd' hp hrec hlt
  · obtain ⟨d,hd,rfl⟩ := check_some h
    obtain ⟨hnow,hdl,_⟩ := checkDeadline_ended hd' hp
    obtain ⟨job,hjob,ht⟩ := hi.recorded jobId recorded hrec
    rcases hG d job hd hjob hnow with hrun | ⟨r,hr,hle⟩
    · simp [hrun,AgentJobStatus.terminal] at ht
    · obtain rfl : recorded = r := Option.some.inj (hrec.symm.trans hr)
      omega
  · obtain ⟨d,hd,rfl⟩ := sample_some h
    obtain ⟨job,hjob⟩ := hi.job hd
    exact ⟨job,hjob,sampleJob_ended hjob hd' hp⟩

end

/-- In every undisturbed run an abandoned job is never handed out afterwards, and a result
recorded before the deadline is the one reported. -/
theorem abandoned_jobs_stay_abandoned {tr : List (Transition AgentState AgentEvent)}
    {s : AgentState} (h : Run agentSystem tr s) (hG : ∀ t ∈ tr, Undisturbed t.pre t.label) :
    (∀ jobId, tr.Pairwise fun later earlier => HandsOut jobId later → ¬Raises jobId earlier) ∧
      ∀ t ∈ tr, ReportsRecorded t := by
  constructor
  · intro jobId
    refine h.never_after (Q := Claimed jobId) agentInv_inductive ?_ ?_ ?_ hG
    · rintro ⟨s,e,s'⟩ hi hg hs hr
      exact raises_claimed hi hg hs hr
    · rintro ⟨s,e,s'⟩ hi hg hs hq
      exact hq.step hi hg hs
    · rintro ⟨s,e,s'⟩ hg hs ⟨job,hjob,hne⟩ ⟨pollId,he⟩
      subst he
      exact hne (hg job hjob)
  · intro t ht
    obtain ⟨hi,hs⟩ := h.transition_guarded agentInv_inductive hG t ht
    exact step_reportsRecorded hi (hG t ht) hs

def AgentState.initial : AgentState where
  now := 0
  jobs := []
  dispatchers := fun _ => none
  polls := fun _ => none
  posts := fun _ => none
  recordedAt := fun _ => none

theorem initial_start : agentSystem.start .initial := ⟨rfl,rfl,rfl,rfl,rfl⟩

/-- A dispatch that gives up at once, on a job that the agent has just claimed. -/
def sampleTimeout : List AgentEvent :=
  [.dispatch "agent-1" "org" "service_restart" 0,.pollSelect 0 "agent-1" "org",.pollCommit 0 0,
    .check 0]

/-- The state after the first `n` of these steps. -/
def sampleAgent (n : Nat) : AgentState :=
  (agentSystem.replay .initial (sampleTimeout.take n)).getD .initial

theorem sample_abandoned_jobs_stay_abandoned :
    ∃ tr s, Run agentSystem tr s ∧ tr.map Transition.label = sampleTimeout.reverse ∧
      (∀ jobId, tr.Pairwise fun later earlier => HandsOut jobId later → ¬Raises jobId earlier) ∧
      ∀ t ∈ tr, ReportsRecorded t := by
  have h1 : agentSystem.step .initial (.dispatch "agent-1" "org" "service_restart" 0) =
      some (sampleAgent 1) := rfl
  have h2 : agentSystem.step (sampleAgent 1) (.pollSelect 0 "agent-1" "org") =
      some (sampleAgent 2) := rfl
  have h3 : agentSystem.step (sampleAgent 2) (.pollCommit 0 0) = some (sampleAgent 3) := rfl
  have h4 : agentSystem.step (sampleAgent 3) (.check 0) = some (sampleAgent 4) := rfl
  have h := ((((Run.start initial_start).step h1).step h2).step h3).step h4
  refine ⟨_,_,h,rfl,abandoned_jobs_stay_abandoned h ?_⟩
  intro t ht
  simp only [List.mem_cons,List.not_mem_nil,or_false] at ht
  rcases ht with rfl | rfl | rfl | rfl
  · intro d job _ hjob _
    obtain rfl := Option.some.inj hjob
    exact Or.inl rfl
  · intro job hjob
    obtain rfl := Option.some.inj hjob
    rfl
  · trivial
  · trivial

/-- A dispatch with a timeout of ten seconds up to its last look at the clock; the agent's host
is offline. -/
def sampleOffline : List AgentEvent :=
  .dispatch "agent-1" "org" "service_restart" 10 :: .check 0 :: List.replicate 10 .tick ++
    [.sample 0]

def sampleWaiting (more : List AgentEvent) : AgentState :=
  (agentSystem.replay .initial (sampleOffline ++ more)).getD .initial

/-- The host comes back after the dispatcher has given up, and its agent is handed the job. -/
theorem offline_agent_gets_abandoned_job :
    ¬∀ (tr : List (Transition AgentState AgentEvent)) (s : AgentState), Run agentSystem tr s →
      (∀ jobId, tr.Pairwise fun later earlier => HandsOut jobId later → ¬Raises jobId earlier) ∧
        ∀ t ∈ tr, ReportsRecorded t := by
  intro hall
  have hwait : agentSystem.replay .initial sampleOffline = some (sampleWaiting []) := rfl
  have hcheck : agentSystem.step (sampleWaiting []) (.check 0) =
      some (sampleWaiting [.check 0]) := rfl
  have hpoll : agentSystem.step (sampleWaiting [.check 0]) (.pollSelect 0 "agent-1" "org") =
      some (sampleWaiting [.check 0,.pollSelect 0 "agent-1" "org"]) := rfl
  have hclaim : agentSystem.step (sampleWaiting [.check 0,.pollSelect 0 "agent-1" "org"])
      (.pollCommit 0 0) = some _ := rfl
  have h := ((((Run.start initial_start).replay hwait).step hcheck).step hpoll).step hclaim
  have hpair := (hall _ _ h).1 0
  refine (List.pairwise_cons.mp hpair).1 _ (List.mem_cons_of_mem _ List.mem_cons_self) ⟨0,rfl⟩ ?_
  exact ⟨Or.inl rfl,_,.timedOut,rfl,rfl,rfl⟩

end Nexplane
