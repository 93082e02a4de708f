import Mathlib.Data.List.Infix
import Nexplane.Lib.Runs

set_option autoImplicit false

/-! The reboot of a kernel upgrade: the host and the polls of its agent, and the executor that waits
for the agent to come back before it has the running kernel verified. -/

namespace Nexplane
open Runs

/-- Times are in microseconds. -/
def second : Nat := 1000000

def reregisterTimeout : Nat := 1800 * second

def reregisterPoll : Nat := 15 * second

/-- A poll under way: the registration it comes from, whether it asks for a job, and the boot of the
host in which it was sent. -/
structure AgentPoll where
  registration : Nat
  forJob : Bool
  boot : Nat
  deriving DecidableEq, Repr

/-- `boots` counts the boots since the upgrade began. -/
structure UpgradedHost where
  up : Bool
  boots : Nat
  kernel : String
  /-- The time of `shutdown -r +1`. -/
  rebootAt : Option Nat
  /-- The result of `execute_kernel_upgrade` is posted. -/
  resultPosted : Bool
  /-- The agent runs the verify job. -/
  verifying : Bool
  deriving DecidableEq, Repr

/-- The `verify_kernel_upgrade` job; `boot` is the boot in which the host was examined. -/
inductive VerifyJob where
  | pending
  | running
  | done (verified : Bool) (runningKernel : String) (boot : Nat)
  deriving DecidableEq, Repr

inductive UpgradePhase where
  /-- Waiting for the result of `execute_kernel_upgrade`. -/
  | executing
  /-- The result is there, and the baseline is about to be read. -/
  | baseline
  /-- `_wait_for_agent`, whose next look at the registrations is due at `next`. -/
  | waiting (seenBefore : Option Nat) (deadline next : Nat)
  | rebootWaitFailed
  | verifying (deadline : Nat)
  | verifyServices
  | rolledBack (runningKernel : String)
  /-- `dispatch_agent_job` has raised. -/
  | raised
  deriving DecidableEq, Repr

/-- `registrations` holds the `last_seen` of the agents of the asset, and `longPolls` the boots from
which job polls are waiting for a job. -/
structure KernelUpgrade where
  now : Nat
  registrations : List Nat
  polls : List AgentPoll
  longPolls : List Nat
  host : UpgradedHost
  phase : UpgradePhase
  job : Option VerifyJob
  deriving DecidableEq, Repr

inductive UpgradeEvent where
  | tick (duration : Nat)
  | poll (registration : Nat) (forJob : Bool)
  | servePoll (poll : Nat)
  | pickUp (longPoll : Nat)
  | expire (longPoll : Nat)
  | executeOS
  | postResult
  | seeResult
  | readBaseline
  | baselineFails
  | sample
  | sampleFails
  | shutdown
  | boot (kernel : String)
  | verifyOS
  | seeVerify
  | verifyTimesOut
  deriving DecidableEq, Repr

section Model

variable (targetKernel : String)

/-- One look of `_wait_for_agent` at the registration that was seen last. -/
def cameBack (now : Nat) (seenBefore : Option Nat) (registrations : List Nat) : Bool :=
  match registrations.max? with
  | none => false
  | some seen =>
    match seenBefore with
    | some before => before < seen
    | none => now - seen < 120 * second

def versionMatch (kernel : String) : Bool :=
  targetKernel ≠ "" && decide (targetKernel.toList <:+: kernel.toList)

/-- The loop is left at its deadline, and looks again after fifteen seconds. -/
def KernelUpgrade.wait (s : KernelUpgrade) (seenBefore : Option Nat) (deadline : Nat)
    (came : Bool) : KernelUpgrade :=
  if deadline ≤ s.now then { s with phase := .rebootWaitFailed }
  else if came = true then
    { s with phase := .verifying (s.now + 120 * second), job := some .pending }
  else { s with phase := .waiting seenBefore deadline (s.now + reregisterPoll) }

def KernelUpgrade.startWaiting (s : KernelUpgrade) (seenBefore : Option Nat) : KernelUpgrade :=
  { s with phase := .waiting seenBefore (s.now + reregisterTimeout) s.now }

def servePoll (s : KernelUpgrade) (i : Nat) (p : AgentPoll) : KernelUpgrade :=
  { s with
    polls := s.polls.eraseIdx i
    registrations := s.registrations.set p.registration s.now
    longPolls := if p.forJob = true then s.longPolls ++ [p.boot] else s.longPolls }

/-- The steps of the host and its agent. -/
def hostStep (s : KernelUpgrade) : UpgradeEvent → Option KernelUpgrade
  | .poll registration forJob =>
    if s.host.up = true then
      some { s with polls := s.polls ++ [⟨registration,forJob,s.host.boots⟩] }
    else none
  | .executeOS =>
    if s.host.up = true ∧ s.host.rebootAt = none then
      some { s with host := { s.host with rebootAt := some (s.now + 60 * second) } }
    else none
  | .postResult =>
    if s.host.up = true ∧ s.host.rebootAt.isSome = true then
      some { s with host := { s.host with resultPosted := true } }
    else none
  | .shutdown =>
    if s.host.up = true ∧ s.host.boots = 0 ∧ s.host.rebootAt.any (· ≤ s.now) = true then
      some { s with host := { s.host with up := false, verifying := false } }
    else none
  | .boot kernel =>
    if s.host.up = false then
      some { s with host := { s.host with up := true, boots := s.host.boots + 1, kernel } }
    else none
  | .verifyOS =>
    if s.host.up = true ∧ s.host.verifying = true then
      some { s with
        host := { s.host with verifying := false }
        job := some (.done (versionMatch targetKernel s.host.kernel) s.host.kernel s.host.boots) }
    else none
  | _ => none

/-- The steps of the control plane. -/
def controlStep (s : KernelUpgrade) : UpgradeEvent → Option KernelUpgrade
  | .servePoll i => (s.polls[i]?).map (servePoll s i)
  -- a poll of an earlier boot takes the job and loses it
  | .pickUp i =>
    match s.longPolls[i]?, s.job with
    | some boot, some .pending => some
        { s with
          longPolls := s.longPolls.eraseIdx i
          job := some .running
          host := { s.host with verifying := s.host.up && boot == s.host.boots } }
    | _, _ => none
  | .expire i => (s.longPolls[i]?).map fun _ => { s with longPolls := s.longPolls.eraseIdx i }
  | .seeResult =>
    if s.phase = .executing ∧ s.host.resultPosted = true then some { s with phase := .baseline }
    else none
  | .readBaseline =>
    if s.phase = .baseline then some (s.startWaiting s.registrations.max?) else none
  | .baselineFails => if s.phase = .baseline then some (s.startWaiting none) else none
  | .sample =>
    match s.phase with
    | .waiting seenBefore deadline next =>
      if next ≤ s.now then
        some (s.wait seenBefore deadline (cameBack s.now seenBefore s.registrations))
      else none
    | _ => none
  | .sampleFails =>
    match s.phase with
    | .waiting seenBefore deadline next =>
      if next ≤ s.now then some (s.wait seenBefore deadline false) else none
    | _ => none
  | .seeVerify =>
    match s.phase, s.job with
    | .verifying _, some (.done true _ _) => some { s with phase := .verifyServices }
    | .verifying _, some (.done false runningKernel _) => some
        { s with phase := .rolledBack runningKernel }
    | _, _ => none
  | .verifyTimesOut =>
    match s.phase with
    | .verifying deadline => if deadline ≤ s.now then some { s with phase := .raised } else none
    | _ => none
  | _ => none

def upgradeStep (s : KernelUpgrade) (e : UpgradeEvent) : Option KernelUpgrade :=
  match e with
  | .tick duration => some { s with now := s.now + duration }
  | .poll .. | .executeOS | .postResult | .shutdown | .boot _ | .verifyOS => hostStep targetKernel s e
  | .servePoll _ | .pickUp _ | .expire _ | .seeResult | .readBaseline | .baselineFails | .sample
  | .sampleFails | .seeVerify | .verifyTimesOut => controlStep s e

/-- The upgrade is handed to the agent of a host that runs and has no reboot pending. -/
def upgradeSystem : System KernelUpgrade UpgradeEvent where
  start s := s.phase = .executing ∧ s.job = none ∧ s.host.up = true ∧ s.host.boots = 0 ∧
    s.host.rebootAt = none ∧ s.host.resultPosted = false ∧ s.host.verifying = false
  step := upgradeStep targetKernel

end Model

/-- The verify job is created on a host that has rebooted, and a rollback is due to the kernel that
runs after the reboot. -/
structure VerifiesRebooted (targetKernel : String)
    (t : Transition KernelUpgrade UpgradeEvent) : Prop where
  created : t.pre.job = none → t.post.job ≠ none → 0 < t.pre.host.boots
  rolledBack : ∀ kernel, t.post.phase = .rolledBack kernel →
    versionMatch targetKernel kernel = false ∧
      ∃ boot, 0 < boot ∧ t.post.job = some (.done false kernel boot)

/-- Until the host has rebooted, no agent of the asset is found seen after the baseline or, without
a baseline, within the last two minutes. -/
def NoEarlyHeartbeat (s : KernelUpgrade) : UpgradeEvent → Prop
  | .sample => ∀ seenBefore deadline next, s.phase = .waiting seenBefore deadline next →
      s.now < deadline → s.host.boots = 0 → ∀ seen ∈ s.registrations,
        match seenBefore with
        | some before => seen ≤ before
        | none => 120 * second ≤ s.now - seen
  | _ => True

/-- The phases in which there may be a verify job. -/
def UpgradePhase.examines : UpgradePhase → Bool
  | .verifying _ | .verifyServices | .rolledBack _ | .raised => true
  | _ => false

structure UpgradeInv (targetKernel : String) (s : KernelUpgrade) : Prop where
  idle : s.job ≠ none → s.phase.examines = true
  rebooted : s.job ≠ none → 0 < s.host.boots
  running : s.host.verifying = true → s.job = some .running
  examined : ∀ verified kernel boot, s.job = some (.done verified kernel boot) →
    0 < boot ∧ verified = versionMatch targetKernel kernel
  rolledBack : ∀ kernel, s.phase = .rolledBack kernel → ∃ boot, s.job = some (.done false kernel boot)

section Steps

variable {targetKernel : String} {s s' : KernelUpgrade}

theorem cameBack_eq_false {now : Nat} {seenBefore : Option Nat} {registrations : List Nat} :
    cameBack now seenBefore registrations = false ↔ ∀ seen ∈ registrations,
      match seenBefore with
      | some before => seen ≤ before
      | none => 120 * second ≤ now - seen := by
  unfold cameBack
  cases hmax : registrations.max? with
  | none =>
    obtain rfl := List.max?_eq_none_iff.mp hmax
    simp
  | some newest =>
    obtain ⟨hmem,hle⟩ := List.max?_eq_some_iff.mp hmax
    cases seenBefore with
    | none =>
      simp only [decide_eq_false_iff_not,Nat.not_lt]
      constructor
      · intro h seen hseen
        have := hle seen hseen
        omega
      · intro h
        exact h newest hmem
    | some before =>
      simp only [decide_eq_false_iff_not,Nat.not_lt]
      constructor
      · intro h seen hseen
        exact (hle seen hseen).trans h
      · intro h
        exact h newest hmem

/-- What concerns the verify job neither reads nor writes the rest. -/
theorem UpgradeInv.frame (hI : UpgradeInv targetKernel s) (hphase : s'.phase = s.phase)
    (hjob : s'.job = s.job) (hboots : s.host.boots ≤ s'.host.boots)
    (hverifying : s'.host.verifying = true → s.host.verifying = true) :
    UpgradeInv targetKernel s' where
  idle := by
    rw [hphase,hjob]
    exact hI.idle
  rebooted := by
    rw [hjob]
    intro h
    exact (hI.rebooted h).trans_le hboots
  running := by
    rw [hjob]
    exact fun h => hI.running (hverifying h)
  examined := by
    rw [hjob]
    exact hI.examined
  rolledBack := by
    rw [hphase,hjob]
    exact hI.rolledBack

theorem UpgradeInv.job_none (hI : UpgradeInv targetKernel s) (hphase : s.phase.examines = false) :
    s.job = none := by
  by_contra hjob
  simp [hI.idle hjob] at hphase

theorem UpgradeInv.withPhase (hI : UpgradeInv targetKernel s) {phase : UpgradePhase}
    (hjob : s.job = none) (hphase : ∀ kernel, phase ≠ .rolledBack kernel) :
    UpgradeInv targetKernel { s with phase } where
  idle h := absurd hjob h
  rebooted h := absurd hjob h
  running := hI.running
  examined := hI.examined
  rolledBack kernel h := absurd h (hphase kernel)

theorem UpgradeInv.laterPhase (hI : UpgradeInv targetKernel s) {phase : UpgradePhase}
    (hphase : phase.examines = true)
    (hrolled : ∀ kernel, phase = .rolledBack kernel →
      ∃ boot, s.job = some (.done false kernel boot)) :
    UpgradeInv targetKernel { s with phase } where
  idle _ := hphase
  rebooted := hI.rebooted
  running := hI.running
  examined := hI.examined
  rolledBack := hrolled

theorem upgradeInv_wait {seenBefore : Option Nat} {deadline next : Nat} {came : Bool}
    (hI : UpgradeInv targetKernel s) (hphase : s.phase = .waiting seenBefore deadline next)
    (hcame : s.now < deadline → came = true → 0 < s.host.boots) :
    UpgradeInv targetKernel (s.wait seenBefore deadline came) := by
  have hjob : s.job = none := hI.job_none (by rw [hphase]; rfl)
  unfold KernelUpgrade.wait
  split
  · exact hI.withPhase hjob (by simp)
  · next hdeadline =>
    split
    · next h =>
      have hboots := hcame (by omega) h
      constructor
      · simp [UpgradePhase.examines]
      · intro
        exact hboots
      · intro h
        exact absurd (hI.running h) (by simp [hjob])
      · simp
      · simp
    · exact hI.withPhase hjob (by simp)

theorem upgradeInv_host {e : UpgradeEvent} (hI : UpgradeInv targetKernel s)
    (hstep : hostStep targetKernel s e = some s') : UpgradeInv targetKernel s' := by
  unfold hostStep at hstep
  split at hstep
  case h_6 =>
    -- the agent runs the job that it has, on the kernel of this boot
    split at hstep
    · next hup =>
      obtain rfl := Option.some.inj hstep
      have hjob := hI.running hup.2
      have hsome : s.job ≠ none := by simp [hjob]
      constructor
      · intro
        exact hI.idle hsome
      · intro
        exact hI.rebooted hsome
      · simp
      · intro verified kernel boot h
        simp only [Option.some.injEq,VerifyJob.done.injEq] at h
        obtain ⟨rfl,rfl,rfl⟩ := h
        exact ⟨hI.rebooted hsome,rfl⟩
      · intro kernel h
        obtain ⟨boot,hdone⟩ := hI.rolledBack kernel h
        simp [hjob] at hdone
    · cases hstep
  case h_7 => cases hstep
  all_goals
    split at hstep
    · obtain rfl := Option.some.inj hstep
      exact hI.frame rfl rfl (by simp) (by simp)
    · cases hstep

theorem upgradeInv_control {e : UpgradeEvent} (hI : UpgradeInv targetKernel s)
    (hg : NoEarlyHeartbeat s e) (hstep : controlStep s e = some s') :
    UpgradeInv targetKernel s' := by
  cases e with
  | servePoll i =>
    obtain ⟨p,-,rfl⟩ := Option.map_eq_some_iff.mp hstep
    exact hI.frame rfl rfl (by simp [servePoll]) (by simp [servePoll])
  | expire i =>
    obtain ⟨p,-,rfl⟩ := Option.map_eq_some_iff.mp hstep
    exact hI.frame rfl rfl (by simp) (by simp)
  | pickUp i =>
    simp only [controlStep] at hstep
    split at hstep
    · next boot hboot hjob =>
      obtain rfl := Option.some.inj hstep
      have hsome : s.job ≠ none := by simp [hjob]
      constructor
      · intro
        exact hI.idle hsome
      · intro
        exact hI.rebooted hsome
      · simp
      · simp
      · intro kernel h
        obtain ⟨boot,hdone⟩ := hI.rolledBack kernel h
        simp [hjob] at hdone
    · cases hstep
  | seeResult =>
    simp only [controlStep,Option.ite_none_right_eq_some] at hstep
    obtain ⟨⟨hphase,-⟩,hstep⟩ := hstep
    obtain rfl := Option.some.inj hstep
    exact hI.withPhase (hI.job_none (by rw [hphase]; rfl)) (by simp)
  | readBaseline | baselineFails =>
    simp only [controlStep,Option.ite_none_right_eq_some] at hstep
    obtain ⟨hphase,hstep⟩ := hstep
    obtain rfl := Option.some.inj hstep
    exact hI.withPhase (hI.job_none (by rw [hphase]; rfl)) (by simp)
  | sample =>
    simp only [controlStep] at hstep
    split at hstep
    · next seenBefore deadline next hphase =>
      simp only [Option.ite_none_right_eq_some,Option.some.injEq] at hstep
      obtain ⟨-,rfl⟩ := hstep
      refine upgradeInv_wait hI hphase fun hdeadline hcame => ?_
      by_contra hboots
      have hnone := cameBack_eq_false.mpr (hg seenBefore deadline next hphase hdeadline (by omega))
      simp [hnone] at hcame
    · cases hstep
  | sampleFails =>
    simp only [controlStep] at hstep
    split at hstep
    · next seenBefore deadline next hphase =>
      simp only [Option.ite_none_right_eq_some,Option.some.injEq] at hstep
      obtain ⟨-,rfl⟩ := hstep
      exact upgradeInv_wait hI hphase (by simp)
    · cases hstep
  | seeVerify =>
    simp only [controlStep] at hstep
    split at hstep
    · obtain rfl := Option.some.inj hstep
      exact hI.laterPhase rfl (by simp)
    · next runningKernel boot hphase hjob =>
      obtain rfl := Option.some.inj hstep
      refine hI.laterPhase rfl fun kernel h => ?_
      obtain rfl : runningKernel = kernel := by simpa using h
      exact ⟨boot,hjob⟩
    · cases hstep
  | verifyTimesOut =>
    simp only [controlStep] at hstep
    split at hstep
    · next deadline hphase =>
      simp only [Option.ite_none_right_eq_some,Option.some.injEq] at hstep
      obtain ⟨-,rfl⟩ := hstep
      exact hI.laterPhase rfl (by simp)
    · cases hstep
  | tick | poll | executeOS | postResult | shutdown | boot | verifyOS => cases hstep

theorem upgradeStep_cases {e : UpgradeEvent} (h : upgradeStep targetKernel s e = some s') :
    (∃ duration, s' = { s with now := s.now + duration }) ∨
      hostStep targetKernel s e = some s' ∨ controlStep s e = some s' := by
  cases e with
  | tick duration => exact Or.inl ⟨duration,(Option.some.inj h).symm⟩
  | poll | executeOS | postResult | shutdown | boot | verifyOS => exact Or.inr (Or.inl h)
  | servePoll | pickUp | expire | seeResult | readBaseline | baselineFails | sample | sampleFails
  | seeVerify | verifyTimesOut => exact Or.inr (Or.inr h)

theorem upgradeInv_step {e : UpgradeEvent} (hI : UpgradeInv targetKernel s)
    (hg : NoEarlyHeartbeat s e) (hstep : upgradeStep targetKernel s e = some s') :
    UpgradeInv targetKernel s' := by
  rcases upgradeStep_cases hstep with ⟨duration,rfl⟩ | hhost | hcontrol
  · exact hI.frame rfl rfl (by simp) (by simp)
  · exact upgradeInv_host hI hhost
  · exact upgradeInv_control hI hg hcontrol

theorem upgradeInv_inductive :
    InductiveUnder (upgradeSystem targetKernel) NoEarlyHeartbeat (UpgradeInv targetKernel) where
  start := by
    rintro s ⟨hphase,hjob,-,-,-,-,hverifying⟩
    constructor <;> simp [hphase,hjob,hverifying]
  step _ _ _ hI hg hstep := upgradeInv_step hI hg hstep

theorem hostStep_job {e : UpgradeEvent} (hI : UpgradeInv targetKernel s) (hnone : s.job = none)
    (hstep : hostStep targetKernel s e = some s') : s'.job = none := by
  unfold hostStep at hstep
  split at hstep
  case h_6 =>
    split at hstep
    · next hup => simp [hI.running hup.2] at hnone
    · cases hstep
  case h_7 => cases hstep
  all_goals
    split at hstep
    · obtain rfl := Option.some.inj hstep
      exact hnone
    · cases hstep

theorem wait_job {seenBefore : Option Nat} {deadline : Nat} {came : Bool} (hnone : s.job = none)
    (hsome : (s.wait seenBefore deadline came).job ≠ none) : s.now < deadline ∧ came = true := by
  unfold KernelUpgrade.wait at hsome
  split at hsome
  · exact absurd hnone hsome
  · next hdeadline =>
    cases came with
    | false => exact absurd hnone hsome
    | true => exact ⟨by omega,rfl⟩

/-- Only a look at the registrations creates the verify job. -/
theorem job_created {e : UpgradeEvent} (hI : UpgradeInv targetKernel s) (hnone : s.job = none)
    (hsome : s'.job ≠ none) (hstep : upgradeStep targetKernel s e = some s') :
    ∃ seenBefore deadline next, e = .sample ∧ s.phase = .waiting seenBefore deadline next ∧
      s.now < deadline ∧ cameBack s.now seenBefore s.registrations = true := by
  rcases upgradeStep_cases hstep with ⟨duration,rfl⟩ | hhost | hcontrol
  · exact absurd hnone hsome
  · exact absurd (hostStep_job hI hnone hhost) hsome
  · cases e with
    | sample =>
      simp only [controlStep] at hcontrol
      split at hcontrol
      · next seenBefore deadline next hphase =>
        simp only [Option.ite_none_right_eq_some,Option.some.injEq] at hcontrol
        obtain ⟨-,rfl⟩ := hcontrol
        obtain ⟨hdeadline,hcame⟩ := wait_job hnone hsome
        exact ⟨seenBefore,deadline,next,rfl,hphase,hdeadline,hcame⟩
      · cases hcontrol
    | sampleFails =>
      simp only [controlStep] at hcontrol
      split at hcontrol
      · simp only [Option.ite_none_right_eq_some,Option.some.injEq] at hcontrol
        obtain ⟨-,rfl⟩ := hcontrol
        exact absurd (wait_job hnone hsome).2 (by decide)
      · cases hcontrol
    | servePoll i | expire i =>
      obtain ⟨p,-,rfl⟩ := Option.map_eq_some_iff.mp hcontrol
      exact absurd hnone hsome
    | pickUp i => simp [controlStep,hnone] at hcontrol
    | seeVerify => simp [controlStep,hnone] at hcontrol
    | seeResult | readBaseline | baselineFails =>
      simp only [controlStep,Option.ite_none_right_eq_some] at hcontrol
      obtain rfl := Option.some.inj hcontrol.2
      exact absurd hnone hsome
    | verifyTimesOut =>
      simp only [controlStep] at hcontrol
      split at hcontrol
      · simp only [Option.ite_none_right_eq_some,Option.some.injEq] at hcontrol
        obtain ⟨-,rfl⟩ := hcontrol
        exact absurd hnone hsome
      · cases hcontrol
    | tick | poll | executeOS | postResult | shutdown | boot | verifyOS => cases hcontrol

theorem verifiesRebooted_iff {e : UpgradeEvent} (hI : UpgradeInv targetKernel s)
    (hstep : upgradeStep targetKernel s e = some s') :
    VerifiesRebooted targetKernel ⟨s,e,s'⟩ ↔ NoEarlyHeartbeat s e := by
  constructor
  · rintro ⟨hcreated,-⟩
    cases e with
    | sample =>
      intro seenBefore deadline next hphase hdeadline hboots
      rw [← cameBack_eq_false]
      by_contra hcame
      rw [Bool.not_eq_false] at hcame
      have hnone : s.job = none := hI.job_none (by rw [hphase]; rfl)
      simp only [upgradeStep,controlStep,hphase,Option.ite_none_right_eq_some,
        Option.some.injEq] at hstep
      obtain ⟨-,rfl⟩ := hstep
      have hsome : (s.wait seenBefore deadline
          (cameBack s.now seenBefore s.registrations)).job ≠ none := by
        rw [hcame]
        simp [KernelUpgrade.wait,Nat.not_le.mpr hdeadline]
      have hpositive := hcreated hnone hsome
      simp only at hpositive
      omega
    | _ => trivial
  · intro hg
    have hI' := upgradeInv_step hI hg hstep
    constructor
    · intro hnone hsome
      obtain ⟨seenBefore,deadline,next,rfl,hphase,hdeadline,hcame⟩ :=
        job_created hI hnone hsome hstep
      by_contra hboots
      have hnot := cameBack_eq_false.mpr (hg seenBefore deadline next hphase hdeadline
        (Nat.eq_zero_of_not_pos hboots))
      simp [hnot] at hcame
    · intro kernel hphase
      obtain ⟨boot,hjob⟩ := hI'.rolledBack kernel hphase
      obtain ⟨hboot,hverified⟩ := hI'.examined false kernel boot hjob
      exact ⟨hverified.symm,boot,hboot,hjob⟩

end Steps

/-- A run examines the rebooted host alone exactly when none of its looks at the registrations
before the reboot finds an agent that was seen after the baseline. -/
theorem verified_after_reboot_iff {targetKernel : String}
    {tr : List (Transition KernelUpgrade UpgradeEvent)} {s : KernelUpgrade}
    (h : Run (upgradeSystem targetKernel) tr s) :
    (∀ t ∈ tr, VerifiesRebooted targetKernel t) ↔ ∀ t ∈ tr, NoEarlyHeartbeat t.pre t.label :=
  h.all_iff_under upgradeInv_inductive fun _ _ _ => verifiesRebooted_iff

section Examples

def upgradeStart : KernelUpgrade where
  now := 1000 * second
  registrations := [990 * second]
  polls := []
  longPolls := []
  host := ⟨true,0,"5.10.0-28-amd64",none,false,false⟩
  phase := .executing
  job := none

theorem upgradeStart_starts : (upgradeSystem "6.1.0-21").start upgradeStart :=
  ⟨rfl,rfl,rfl,rfl,rfl,rfl,rfl⟩

/-- The agent asks for its next job before the host goes down. -/
def earlyPoll : List UpgradeEvent :=
  [.executeOS,.postResult,.seeResult,.readBaseline,.tick (20 * second),.poll 0 true,.servePoll 0,
    .sample]

def earlyJob : KernelUpgrade where
  now := 1020 * second
  registrations := [1020 * second]
  polls := []
  longPolls := [0]
  host := ⟨true,0,"5.10.0-28-amd64",some (1060 * second),true,false⟩
  phase := .verifying (1140 * second)
  job := some .pending

def givenUp : KernelUpgrade where
  now := 1060 * second
  registrations := [1020 * second]
  polls := []
  longPolls := []
  host := ⟨true,1,"6.1.0-21-amd64",some (1060 * second),true,false⟩
  phase := .rolledBack "5.10.0-28-amd64"
  job := some (.done false "5.10.0-28-amd64" 0)

/-- The host is examined at once, and boots the target kernel after it has been given up. -/
theorem examined_before_reboot :
    ∃ tr, Run (upgradeSystem "6.1.0-21") tr givenUp ∧
      ¬∀ t ∈ tr, VerifiesRebooted "6.1.0-21" t := by
  have hearly : (upgradeSystem "6.1.0-21").replay upgradeStart earlyPoll = some earlyJob := by
    decide
  have hrest : (upgradeSystem "6.1.0-21").replay earlyJob
      [.pickUp 0,.verifyOS,.seeVerify,.tick (40 * second),.shutdown,.boot "6.1.0-21-amd64"] =
        some givenUp := by
    decide
  have h := ((Run.start upgradeStart_starts).replay hearly).replay hrest
  refine ⟨_,h,fun hall => ?_⟩
  have hexamined := h.last
    (P := fun s => ∀ kernel, s.phase = .rolledBack kernel →
      ∃ boot, 0 < boot ∧ s.job = some (.done false kernel boot))
    (fun s hs kernel hphase => by simp [hs.1] at hphase)
    (fun t ht kernel hphase => ((hall t ht).rolledBack kernel hphase).2)
  obtain ⟨boot,hboot,hjob⟩ := hexamined "5.10.0-28-amd64" rfl
  simp only [givenUp,Option.some.injEq,VerifyJob.done.injEq,true_and] at hjob
  omega

/-- The agent's next poll comes from the rebooted host. -/
def latePoll : List UpgradeEvent :=
  [.executeOS,.postResult,.seeResult,.readBaseline,.tick (60 * second),.shutdown,
    .boot "6.1.0-21-amd64",.poll 0 true,.servePoll 0]

def rebootedUpgrade : KernelUpgrade where
  now := 1060 * second
  registrations := [1060 * second]
  polls := []
  longPolls := [1]
  host := ⟨true,1,"6.1.0-21-amd64",some (1060 * second),true,false⟩
  phase := .waiting (some (990 * second)) (2800 * second) (1000 * second)
  job := none

theorem examined_after_reboot :
    ∃ tr s, Run (upgradeSystem "6.1.0-21") tr s ∧ s.job = some .pending ∧
      ∀ t ∈ tr, VerifiesRebooted "6.1.0-21" t := by
  have hlate : (upgradeSystem "6.1.0-21").replay upgradeStart latePoll = some rebootedUpgrade := by
    decide
  have hmeets : (upgradeSystem "6.1.0-21").Meets NoEarlyHeartbeat upgradeStart latePoll :=
    ⟨trivial,trivial,trivial,trivial,trivial,trivial,trivial,trivial,trivial,trivial⟩
  have h := ((Run.start upgradeStart_starts).replay hlate).step (a := .sample) rfl
  have hsample : NoEarlyHeartbeat rebootedUpgrade .sample :=
    fun _ _ _ _ _ hboots => absurd hboots (by decide)
  exact ⟨_,_,h,rfl,(verified_after_reboot_iff h).mpr
    (List.forall_mem_cons.mpr ⟨hsample,System.history_meets hmeets (by simp)⟩)⟩

end Examples
end Nexplane
