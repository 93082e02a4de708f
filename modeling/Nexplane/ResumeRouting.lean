import Nexplane.Resume
import Nexplane.Lib.Checks

set_option autoImplicit false

/-! A resumed change continues with its own executor only when it is a credential rotation or a
credential fan-out; any other paused change is run as an empty list of rotation steps. -/

namespace Nexplane
open PyValue

variable {ω : Type} {env : Env ω} {w w' : World ω}

/-- What the newest run stores under a key. -/
def World.stored (w : World ω) (key : String) : Option Json :=
  Dict.get? (w.runResult (latestRun (fun _ => true) w.runs)) key

def poolSucceeded (pool : Json) : Except Exc Bool := do
  let result ← pool.get "result" .null
  pure (result.isStr "success")

/-- The newest run still lists items under the key, and each of them passes. -/
def World.allStored (w : World ω) (key : String) (passes : Json → Except Exc Bool) : Prop :=
  ∃ items, w.stored key = some (.arr items) ∧ ∀ item ∈ items, passes item = .ok true

/-- What a resume from `w` may lead to: the change's own executor goes on, a certificate rotation
is completed only with every dependent verified or skipped, a cluster upgrade only with every
pool upgraded, and what these two have stored about their dependents and pools stays. -/
structure ContinuesOwnExecutor (w w' : World ω) : Prop where
  executor : resumedExecutor w.cr.changeType = workflowExecutor w.cr.changeType
  certificate : w.cr.changeType = .certificateRotation → w'.cr.status = .completed →
    w'.allStored "dependents" verifySucceeded
  cluster : w.cr.changeType = .k8sClusterUpgrade → w'.cr.status = .completed →
    w'.allStored "node_pools" poolSucceeded
  dependents : w.cr.changeType = .certificateRotation → (w.stored "dependents").isSome →
    (w'.stored "dependents").isSome
  nodePools : w.cr.changeType = .k8sClusterUpgrade → (w.stored "node_pools").isSome →
    (w'.stored "node_pools").isSome

section Accepted

variable {user : User} {types : List ChangeType} {texts : ResumeTexts}

theorem checkPaused_ok (h : checkPaused user types texts w = (.ok (),w')) :
    w' = w ∧ w.cr.changeType ∈ types ∧ w.cr.status = .paused := by
  rw [checkPaused,Py.get_bind] at h
  split at h
  · simp at h
  split at h
  · simp at h
  rename_i hct
  split at h
  · simp at h
  rename_i hs
  split at h
  · simp at h
  exact ⟨by simpa using h.symm,by simpa using hct,by simpa using hs⟩

theorem checked_type {α : Type} {b : α} {f : Unit → Py (World ω) α}
    (hf : ∀ u, Py.Keeps (fun v : World ω => v.cr.changeType ∈ types) (f u))
    (h : (checkPaused user types texts >>= f) w = (.ok b,w')) : w'.cr.changeType ∈ types := by
  obtain ⟨u,t,hcheck,hrest⟩ := Py.bind_eq_ok.mp h
  obtain ⟨rfl,hct,_⟩ := checkPaused_ok hcheck
  exact (hf u).run hrest hct

theorem decideStep_type {nothing status : String} {r : Nat × Bool}
    (h : decideStep user texts nothing status w = (.ok r,w')) :
    w'.cr.changeType ∈ [ChangeType.credentialRotation] := by
  refine checked_type (fun u => ?_) h
  exact .bind (pausedRun_keeps _) fun _ => .bind (.ofExcept _) fun _ => .bind (.ofExcept _)
    fun _ => .bind (.modify fun _ h => h) fun _ => .pure _

/-- A decision that schedules a resume was taken on one of the four change types that pause. -/
theorem request_type {a : ResumeAction} (h : a.request user w = (.ok true,w')) :
    w'.cr.changeType ∈ [ChangeType.credentialRotation,.credentialRotationFanout,
      .certificateRotation,.k8sClusterUpgrade] := by
  cases a with
  | retryStep =>
    obtain ⟨r,t,hd,hrest⟩ := Py.bind_eq_ok.mp h
    have ht := decideStep_type hd
    have hk : Py.Keeps (fun v : World ω => v.cr.changeType ∈ [ChangeType.credentialRotation])
        (do Py.modify fun v => v.setStatus .executing; pure true) :=
      .bind (.modify fun _ h => h) fun _ => .pure _
    have hw := hk.run hrest ht
    simp only [List.mem_singleton] at hw
    simp [hw]
  | skipStep =>
    obtain ⟨⟨i,more⟩,t,hd,hrest⟩ := Py.bind_eq_ok.mp h
    have ht := decideStep_type hd
    have hw : w'.cr.changeType = t.cr.changeType := by
      cases more with
      | true =>
        obtain rfl : t.setStatus .executing = w' := by simpa using hrest
        rfl
      | false => simp at hrest
    simp only [List.mem_singleton] at ht
    simp [hw,ht]
  | retryVerify =>
    have hw : w'.cr.changeType ∈ [ChangeType.certificateRotation,.credentialRotationFanout,
        .k8sClusterUpgrade] := by
      refine checked_type (fun u => ?_) h
      exact .bind (pausedRun_keeps _) fun _ => .bind .get fun _ => .bind (.ofExcept _)
        fun _ => .bind (.modify fun _ h => h) fun _ => .pure _
    simp only [List.mem_cons,List.not_mem_nil,or_false] at hw ⊢
    tauto
  | resumeNodeUpgrade =>
    have hw : w'.cr.changeType ∈ [ChangeType.k8sClusterUpgrade] := by
      refine checked_type (fun u => ?_) h
      exact .bind (.modify fun _ h => h) fun _ => .pure _
    simp only [List.mem_singleton] at hw
    simp [hw]
  | skipNode nodeName =>
    have hw : w'.cr.changeType ∈ [ChangeType.k8sClusterUpgrade] := by
      refine checked_type (fun u => ?_) h
      exact .bind (pausedRun_keeps _) fun _ => .bind (.ofExcept _) fun _ =>
        .bind (.modify fun _ h => h) fun _ => .pure _
    simp only [List.mem_singleton] at hw
    simp [hw]
  | skipVerify =>
    obtain ⟨_,t,_,hrest⟩ := Py.bind_eq_ok.mp h
    obtain ⟨_,t,_,hrest⟩ := Py.bind_eq_ok.mp hrest
    obtain ⟨_,t,_,hrest⟩ := Py.bind_eq_ok.mp hrest
    obtain ⟨_,t,_,hrest⟩ := Py.bind_eq_ok.mp hrest
    simp at hrest

end Accepted

section Resume

variable {user : User} {a : ResumeAction} {i : Nat}

/-- A change that was completed with an empty execution in the place of a run's result. -/
def World.emptied (w : World ω) (i : Nat) : World ω :=
  (w.setStatus .completed).setRun i fun r =>
    { r with status := .completed, result := [("execution",stepsState [])] }

/-- The resume of a change stays with its own executor exactly for the two rotation types. -/
theorem resumedExecutor_own {changeType : ChangeType}
    (h : changeType ∈ [ChangeType.credentialRotation,.credentialRotationFanout,
      .certificateRotation,.k8sClusterUpgrade]) :
    resumedExecutor changeType = workflowExecutor changeType ↔
      changeType ∈ [ChangeType.credentialRotation,.credentialRotationFanout] := by
  simp only [List.mem_cons,List.not_mem_nil,or_false] at h
  rcases h with rfl | rfl | rfl | rfl <;> decide

/-- A paused change request of an organization with one admin, and its one run. -/
def samplePaused (changeType : ChangeType) (result : Dict) : World Unit where
  cr := ⟨"cr-1","org-1","user-1",changeType,["asset-1"],[],.paused,some .low,none,none⟩
  others := []
  runs := [⟨"wf-cr-1",.running,result⟩]
  connectors := []
  site := ⟨[],[],[],[],()⟩

def sampleAdmin : User := ⟨"user-2","org-1",.admin⟩

def sampleRotation : World Unit :=
  samplePaused .credentialRotation [("steps",.arr [.obj [("index",.int 0),
    ("connector_type",.str "aws"),("action_id",.str "rotate"),("params",.obj []),
    ("status",.str "failed")]]),("paused",.bool true),("current_step",.int 0)]

/-- A certificate rotation that paused because its only dependent serves the old certificate. -/
def sampleUnverified : World Unit :=
  samplePaused .certificateRotation [("phase",.str "verify"),
    ("dependents",.arr [.obj [("index",.int 0),("type",.str "host"),("host",.str "web-1"),
      ("update_result",.obj [("success",.bool true)]),
      ("verify_result",.obj [("success",.bool false)])]]),
    ("rotation_result",.obj [("fingerprint",.str "new")]),("paused",.bool true)]

def sampleRetried : World Unit := (ResumeAction.retryVerify.request sampleAdmin sampleUnverified).2

end Resume

end Nexplane
