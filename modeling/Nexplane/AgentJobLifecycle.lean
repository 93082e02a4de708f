import Nexplane.AgentJobRuns

set_option autoImplicit false

/-! The lifecycle of an agent job under overlapping polls and result posts: handed out once, from
pending to running to a terminal status, and left alone from then on. -/

namespace Nexplane
open PyValue Runs Orm

def AgentJobStatus.precedes : AgentJobStatus → AgentJobStatus → Bool
  | .pending, .running => true
  | .running, .completed => true
  | .running, .failed => true
  | _, _ => false

/-- A change of a job that its lifecycle allows. -/
structure AgentJob.MovesTo (job job' : AgentJob) : Prop where
  inOrder : job'.status = job.status ∨ job.status.precedes job'.status = true
  recorded : job.status.terminal = true →
    job'.status = job.status ∧ job'.result = job.result ∧ job'.error = job.error

/-- The step creates jobs as pending, and moves the others on as their lifecycle allows. -/
structure FollowsLifecycle (t : Transition AgentState AgentEvent) : Prop where
  moved : ∀ (jobId : Nat) (job : AgentJob), t.pre.jobs[jobId]? = some job →
    ∃ job', t.post.jobs[jobId]? = some job' ∧ job.MovesTo job'
  created : ∀ (jobId : Nat) (job' : AgentJob), t.pre.jobs[jobId]? = none →
    t.post.jobs[jobId]? = some job' → job'.status = .pending

/-- A poll claims a job that is still pending, and a post reports on one that is running, with any
status but pending. -/
def InTurn (s : AgentState) : AgentEvent → Prop
  | .pollCommit _ jobId => ∀ job, s.jobs[jobId]? = some job → job.status = .pending
  | .postCommit postId jobId => ∀ job loaded body, s.jobs[jobId]? = some job →
      s.posts postId = some (jobId,loaded,body) → job.status = .running ∧ body.status ≠ .pending
  | _ => True

section Steps

variable {s s' : AgentState} {e : AgentEvent} {jobId : Nat} {job : AgentJob}

theorem AgentJob.MovesTo.refl (job : AgentJob) : job.MovesTo job :=
  ⟨Or.inl rfl,fun _ => ⟨rfl,rfl,rfl⟩⟩

theorem claimJob_moves (h : job.status = .pending) : job.MovesTo (claimJob job) := by
  constructor
  · simp [claimJob_status,h,AgentJobStatus.precedes]
  · simp [h,AgentJobStatus.terminal]

theorem recordResult_moves (loaded : AgentJob) {body : AgentJobResult}
    (h : job.status = .running) (hb : body.status ≠ .pending) :
    job.MovesTo (recordResult job loaded body) ∧
      (recordResult job loaded body).status ≠ .pending := by
  have hstatus : (recordResult job loaded body).status = .running ∨
      (recordResult job loaded body).status = body.status := by
    rcases flushColumn_cases job.status loaded.status body.status with ⟨_,hkept⟩ | ⟨_,hnew⟩
    · exact Or.inl (hkept.trans h)
    · exact Or.inr hnew
  refine ⟨⟨?_,?_⟩,?_⟩
  · rcases hstatus with hkept | hnew
    · exact Or.inl (hkept.trans h.symm)
    · rw [hnew,h]
      cases hs : body.status <;> simp_all [AgentJobStatus.precedes]
  · simp [h,AgentJobStatus.terminal]
  · rcases hstatus with hkept | hnew
    · simp [hkept]
    · rwa [hnew]

/-- A write to one row that its lifecycle allows. -/
theorem moves_set {j : Nat} {row row' : AgentJob} (hrow : s.jobs[j]? = some row)
    (hmoves : row.MovesTo row') (hjob : s.jobs[jobId]? = some job) :
    ∃ job', (s.jobs.set j row')[jobId]? = some job' ∧ job.MovesTo job' := by
  by_cases hj : j = jobId
  · subst hj
    obtain rfl := Option.some.inj (hrow.symm.trans hjob)
    exact ⟨row',by simp [(List.getElem?_eq_some_iff.mp hrow).1],hmoves⟩
  · exact ⟨job,by simpa [hj] using hjob,.refl job⟩

theorem step_followsLifecycle (hG : InTurn s e) (h : agentStep s e = some s') :
    FollowsLifecycle ⟨s,e,s'⟩ := by
  rcases agentStep_jobs h with hjobs | ⟨row,hrow,hjobs⟩ | ⟨pollId,j,row,rfl,hrow,hjobs⟩ |
    ⟨postId,j,loaded,body,row,rfl,hpost,hrow,hjobs⟩
  · constructor
    · intro jobId job hjob
      exact ⟨job,by simpa [hjobs] using hjob,.refl job⟩
    · intro jobId job' hnone hjob'
      simp_all
  · constructor
    · intro jobId job hjob
      have hlt : jobId < s.jobs.length := (List.getElem?_eq_some_iff.mp hjob).1
      exact ⟨job,by simpa [hjobs,List.getElem?_append_left hlt] using hjob,.refl job⟩
    · intro jobId job' hnone hjob'
      have hle : s.jobs.length ≤ jobId := List.getElem?_eq_none_iff.mp hnone
      simp only [hjobs,List.getElem?_append_right hle,List.getElem?_singleton] at hjob'
      split at hjob'
      · exact Option.some.inj hjob' ▸ hrow
      · cases hjob'
  · have hmoves := claimJob_moves (hG row hrow)
    constructor
    · intro jobId job hjob
      simpa only [hjobs] using moves_set hrow hmoves hjob
    · intro jobId job' hnone hjob'
      simp_all
  · obtain ⟨hrunning,hstatus⟩ := hG row loaded body hrow hpost
    have hmoves := (recordResult_moves loaded hrunning hstatus).1
    constructor
    · intro jobId job hjob
      simpa only [hjobs] using moves_set hrow hmoves hjob
    · intro jobId job' hnone hjob'
      simp_all

theorem Claimed.inTurn (hG : InTurn s e) (h : agentStep s e = some s') (hq : Claimed jobId s) :
    Claimed jobId s' := by
  refine hq.keep h fun postId j loaded body job he hpost hjob => ?_
  subst he
  obtain ⟨hrunning,hstatus⟩ := hG job loaded body hjob hpost
  exact (recordResult_moves loaded hrunning hstatus).2

end Steps

/-- In every run of polls and posts in turn each job is handed out once at most, and follows its
lifecycle. -/
theorem agent_jobs_follow_lifecycle {tr : List (Transition AgentState AgentEvent)}
    {s : AgentState} (h : Run agentSystem tr s) (hG : ∀ t ∈ tr, InTurn t.pre t.label) :
    (∀ jobId, tr.Pairwise fun later earlier => HandsOut jobId later → ¬HandsOut jobId earlier) ∧
      ∀ t ∈ tr, FollowsLifecycle t := by
  constructor
  · intro jobId
    have htrivial : InductiveUnder agentSystem InTurn fun _ => True :=
      ⟨fun _ _ => trivial,fun _ _ _ _ _ _ => trivial⟩
    refine h.never_after (Q := Claimed jobId) htrivial ?_ ?_ ?_ hG
    · rintro ⟨s,e,s'⟩ _ hg hs ⟨pollId,he⟩
      subst he
      replace hs : agentStep s (.pollCommit pollId jobId) = some s' := hs
      obtain ⟨job,hjob,rfl⟩ := pollCommit_some hs
      have hlt : jobId < s.jobs.length := (List.getElem?_eq_some_iff.mp hjob).1
      exact ⟨claimJob job,by simp [AgentState.setPoll,hlt],by simp [claimJob_status]⟩
    · rintro ⟨s,e,s'⟩ _ hg hs hq
      exact hq.inTurn hg hs
    · rintro ⟨s,e,s'⟩ hg hs ⟨job,hjob,hne⟩ ⟨pollId,he⟩
      subst he
      exact hne (hg job hjob)
  · intro t ht
    exact step_followsLifecycle (hG t ht) (h.transition t ht).2

def sampleHandOut : List AgentEvent :=
  [.dispatch "agent-1" "org" "service_restart" 60,.pollSelect 0 "agent-1" "org",.pollCommit 0 0]

def samplePosted (status : AgentJobStatus) : AgentJobResult := ⟨"agent-1",status,none,none⟩

def sampleReported : List AgentEvent :=
  sampleHandOut ++ [.postSelect 0 0 "org" (samplePosted .completed),.postCommit 0 0]

theorem sampleReported_inTurn : agentSystem.Meets InTurn .initial sampleReported := by
  refine ⟨trivial,trivial,?_,trivial,?_,trivial⟩
  · intro job hjob
    obtain rfl := Option.some.inj hjob
    rfl
  · intro job loaded body hjob hpost
    obtain rfl := Option.some.inj hjob
    obtain rfl : samplePosted .completed = body :=
      congrArg (fun post => post.2.2) (Option.some.inj hpost)
    exact ⟨rfl,by decide⟩

theorem sample_agent_jobs_follow_lifecycle :
    ∃ tr s, Run agentSystem tr s ∧ tr.map Transition.label = sampleReported.reverse ∧
      (∀ jobId, tr.Pairwise fun later earlier =>
        HandsOut jobId later → ¬HandsOut jobId earlier) ∧ ∀ t ∈ tr, FollowsLifecycle t := by
  have hrun : agentSystem.replay .initial sampleReported = some _ := rfl
  have h := (Run.start initial_start).replay hrun
  exact ⟨_,_,h,rfl,agent_jobs_follow_lifecycle h
    (System.history_meets sampleReported_inTurn (by simp))⟩

/-- Two polls select the job before either of them claims it. -/
def sampleTwoPolls : List AgentEvent :=
  [.dispatch "agent-1" "org" "service_restart" 60,.pollSelect 0 "agent-1" "org",
    .pollSelect 1 "agent-1" "org",.pollCommit 0 0,.pollCommit 1 0]

/-- A retried post, which has found the job running, follows the one that completed it. -/
def sampleTwoPosts : List AgentEvent :=
  sampleHandOut ++ [.postSelect 0 0 "org" (samplePosted .completed),
    .postSelect 1 0 "org" (samplePosted .failed),.postCommit 0 0,.postCommit 1 0]

/-- A post reports a job as pending that has been handed out. -/
def sampleReopened : List AgentEvent :=
  sampleHandOut ++ [.postSelect 0 0 "org" (samplePosted .pending),.postCommit 0 0]

/-- A job is handed out twice, a completed one is failed afterwards, and a running one becomes
pending again. -/
theorem overlapping_polls_and_posts :
    (∃ tr s, Run agentSystem tr s ∧ tr.map Transition.label = sampleTwoPolls.reverse ∧
      ¬tr.Pairwise fun later earlier => HandsOut 0 later → ¬HandsOut 0 earlier) ∧
    (∃ tr s, Run agentSystem tr s ∧ tr.map Transition.label = sampleTwoPosts.reverse ∧
      ¬∀ t ∈ tr, FollowsLifecycle t) ∧
    ∃ tr s, Run agentSystem tr s ∧ tr.map Transition.label = sampleReopened.reverse ∧
      ¬∀ t ∈ tr, FollowsLifecycle t := by
  have hpolls : agentSystem.replay .initial sampleTwoPolls = some _ := rfl
  have hposts : agentSystem.replay .initial sampleTwoPosts = some _ := rfl
  have hreopened : agentSystem.replay .initial sampleReopened = some _ := rfl
  refine ⟨⟨_,_,(Run.start initial_start).replay hpolls,rfl,fun h => ?_⟩,
    ⟨_,_,(Run.start initial_start).replay hposts,rfl,fun h => ?_⟩,
    ⟨_,_,(Run.start initial_start).replay hreopened,rfl,fun h => ?_⟩⟩
  · exact (List.pairwise_cons.mp h).1 _ List.mem_cons_self ⟨1,rfl⟩ ⟨0,rfl⟩
  · obtain ⟨job',hjob',hmoves⟩ := (h _ List.mem_cons_self).moved 0 _ rfl
    obtain rfl := Option.some.inj hjob'
    have hkept := (hmoves.recorded rfl).1
    cases hkept
  · obtain ⟨job',hjob',hmoves⟩ := (h _ List.mem_cons_self).moved 0 _ rfl
    obtain rfl := Option.some.inj hjob'
    rcases hmoves.inOrder with hkept | hnext
    · cases hkept
    · cases hnext

end Nexplane
