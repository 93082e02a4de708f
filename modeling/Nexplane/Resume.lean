import Nexplane.Activities
import Nexplane.Lib.Orm

set_option autoImplicit false

/-! The operator's decisions on a paused change, and the execution that they resume in the
background. -/

namespace Nexplane
open PyValue

variable {ω : Type}

/-- The executor that `_resume_execution` continues. -/
def resumedExecutor : ChangeType → Executor
  | .credentialRotationFanout => .credentialFanout
  | _ => .executeSteps

/-- `_resume_execution`: an exception fails the change. -/
def resumeExecution (env : Env ω) : Py (World ω) Unit := do
  let w ← Py.get
  let outcome ← Py.attempt ((resumedExecutor w.cr.changeType).run env)
  match outcome with
  | .ok _ => pure ()
  | .error _ => Py.modify fun w => w.setStatus .failed

inductive ResumeAction where
  | retryStep
  | skipStep
  | retryVerify
  | resumeNodeUpgrade
  | skipNode (nodeName : Json)
  | skipVerify
  deriving Repr

/-- The texts of an endpoint's refusals. -/
structure ResumeTexts where
  wrongType : String
  notPaused : String
  wrongRole : String

/-- The checks that every endpoint makes on the change request and the user, in their order. -/
def checkPaused (user : User) (types : List ChangeType) (texts : ResumeTexts) :
    Py (World ω) Unit := do
  let w ← Py.get
  if w.cr.organizationId ≠ user.organizationId then
    Py.raise (.http 404 "Change request not found")
  else if w.cr.changeType ∉ types then Py.raise (.http 400 texts.wrongType)
  else if w.cr.status ≠ .paused then Py.raise (.http 400 texts.notPaused)
  else if user.role ≠ .admin ∧ user.role ≠ .approver then Py.raise (.http 403 texts.wrongRole)
  else pure ()

/-- The newest run, which the decision works on. -/
def pausedRun : Py (World ω) (Nat × Dict) := do
  let w ← Py.get
  match latestRun (fun _ => true) w.runs with
  | none => Py.raise (.http 404 "No execution run found")
  | some i => pure (i,w.runResult (some i))

/-- Applies `f` to the first item that `f` takes up. -/
def changeFirst (f : Json → Except Exc (Option Json)) :
    List Json → Except Exc (Option (List Json))
  | [] => .ok none
  | item :: items => do
    match ← f item with
    | some changed => pure (some (changed :: items))
    | none => do
      let rest ← changeFirst f items
      pure (rest.map (item :: ·))

def changeAll (f : Json → Except Exc (Option Json)) (items : List Json) :
    Except Exc (Option (List Json)) := do
  let changes ← items.mapM f
  if changes.any Option.isSome then
    pure (some (List.zipWith (fun item change => change.getD item) items changes))
  else pure none

/-- A step in status `failed` gets another status and no error. -/
def resolveFailedStep (status : String) (step : Json) : Except Exc (Option Json) := do
  let current ← step.get "status" .null
  if current.isStr "failed" then do
    let moved ← step.put "status" (.str status)
    let moved ← moved.put "error" .null
    pure (some moved)
  else pure none

/-- A pool that paused, at the given node if one is given, goes on without that node. -/
def skipPausedNode (target : Json) (pool : Json) : Except Exc (Option Json) := do
  let result ← pool.get "result" .null
  let node ← pool.get "paused_at_node" .null
  if result.isStr "paused" && (target matches .null || Json.eq node target) then do
    let skipped ← pool.get "skipped_nodes" (.arr []) >>= Json.list
    let fields ← pool.mapping
    let fields := (fields.set "skipped_nodes" (.arr (skipped ++ [node]))).set "result"
      (.str "pending")
    pure (some (.obj (((fields.erase "paused_at_node").erase "drain_error").erase
      "pdb_violations")))
  else pure none

/-- An item whose verification did not succeed gets another verdict. -/
def replaceVerdict (verdict : Json) (item : Json) : Except Exc (Option Json) := do
  let verify ← item.get "verify_result" .null
  let success ← (verify.orElse (.obj [])).get "success" .null
  if success.truthy then pure none
  else do
    let changed ← item.put "verify_result" verdict
    pure (some changed)

/-- What the endpoint leaves in the row of the run: the list of the loaded value is changed in
place, so an assignment of an equal dictionary writes nothing. -/
def assignResult (loaded : Dict) (key : String) (items : List Json) (assigned : Dict) : Dict :=
  Orm.flushWith (fun a b => Json.eq (.obj a) (.obj b)) loaded (loaded.set key (.arr items)) assigned

def replaceItems (loaded : Dict) (key : String)
    (change : List Json → Except Exc (Option (List Json))) (nothing : String) :
    Except Exc (List Json) := do
  let items ← (loaded.getD key (.arr [])).iter
  match ← change items with
  | none => .error (.http 409 nothing)
  | some changed => pure changed

/-- `retry-step` and `skip-step` on the run's step list; the result says whether steps are left
to execute. -/
def decideStep (user : User) (texts : ResumeTexts) (nothing status : String) :
    Py (World ω) (Nat × Bool) := do
  checkPaused user [.credentialRotation] texts
  let (i,loaded) ← pausedRun
  let steps ← Py.ofExcept
    (replaceItems loaded "steps" (changeFirst (resolveFailedStep status)) nothing)
  let more ← Py.ofExcept (steps.anyM fun s => do
    let status ← s.get "status" .null
    pure (status.isStr "pending" || status.isStr "executing"))
  Py.modify fun w => w.setRun i fun r =>
    { r with result := assignResult loaded "steps" steps [("steps",.arr steps)] }
  pure (i,more)

def retryStep (user : User) : Py (World ω) Bool := do
  let _ ← decideStep user
    ⟨"retry-step is only valid for credential_rotation CRs","CR must be paused to retry a step",
      "Only admins and approvers can retry a rotation step"⟩
    "No failed step found to retry" "pending"
  Py.modify fun w => w.setStatus .executing
  pure true

def skipStep (user : User) : Py (World ω) Bool := do
  let (i,more) ← decideStep user
    ⟨"skip-step is only valid for credential_rotation CRs","CR must be paused to skip a step",
      "Only admins and approvers can skip a rotation step"⟩
    "No failed step found to skip" "skipped"
  if more then do
    Py.modify fun w => w.setStatus .executing
    pure true
  else do
    Py.modify fun w =>
      (w.setStatus .completed).setRun i fun r => { r with status := .completed }
    pure false

def resumeNodeUpgrade (user : User) : Py (World ω) Bool := do
  checkPaused user [.k8sClusterUpgrade]
    ⟨"resume-node-upgrade is only valid for k8s_cluster_upgrade CRs",
      "CR must be paused to resume node upgrade",
      "Only admins and approvers can resume a node upgrade"⟩
  Py.modify fun w => w.setStatus .executing
  pure true

def skipNode (user : User) (nodeName : Json) : Py (World ω) Bool := do
  checkPaused user [.k8sClusterUpgrade]
    ⟨"skip-node is only valid for k8s_cluster_upgrade CRs","CR must be paused to skip a node",
      "Only admins and approvers can skip a node"⟩
  let (i,loaded) ← pausedRun
  let pools ← Py.ofExcept (replaceItems loaded "node_pools"
    (changeFirst (skipPausedNode nodeName)) "No paused node found to skip")
  Py.modify fun w => (w.setRun i fun r => { r with
    result := assignResult loaded "node_pools" pools
      ((loaded.set "node_pools" (.arr pools)).set "paused" (.bool false)) }).setStatus .executing
  pure true

/-- The list that the verification of a change type is about. -/
def verifiedListKey : ChangeType → String
  | .credentialRotationFanout => "consumers"
  | _ => "dependents"

def retryVerify (user : User) : Py (World ω) Bool := do
  checkPaused user [.certificateRotation,.credentialRotationFanout,.k8sClusterUpgrade]
    ⟨"retry-verify is only valid for certificate_rotation, credential_rotation_fanout, and " ++
        "k8s_cluster_upgrade CRs",
      "CR must be paused to retry verification",
      "Only admins and approvers can retry verification"⟩
  let (i,loaded) ← pausedRun
  let w ← Py.get
  let key := verifiedListKey w.cr.changeType
  let items ← Py.ofExcept (replaceItems loaded key (changeAll (replaceVerdict .null))
    "No failed verify result found to retry")
  Py.modify fun w => (w.setRun i fun r => { r with
    status := .running
    result := assignResult loaded key items
      ((loaded.set key (.arr items)).set "paused" (.bool false)) }).setStatus .executing
  pure true

def skippedVerdict : Json :=
  .obj [("success",.bool true),("skipped",.bool true),("fingerprint",.null),("error",.null)]

/-- `skip-verify` completes the change itself. -/
def skipVerify (user : User) : Py (World ω) Bool := do
  checkPaused user [.certificateRotation,.credentialRotationFanout]
    ⟨"skip-verify is only valid for certificate_rotation and credential_rotation_fanout CRs",
      "CR must be paused to skip verification",
      "Only admins and approvers can skip verification"⟩
  let (i,loaded) ← pausedRun
  let w ← Py.get
  let key := verifiedListKey w.cr.changeType
  let items ← Py.ofExcept (replaceItems loaded key (changeAll (replaceVerdict skippedVerdict))
    "No failed verify result found to skip")
  Py.modify fun w => (w.setRun i fun r => { r with
    status := .completed
    result := assignResult loaded key items
      ((loaded.set key (.arr items)).set "paused" (.bool false)) }).setStatus .completed
  pure false

/-- One decision of a user; the result says whether the background resume is scheduled. -/
def ResumeAction.request (user : User) : ResumeAction → Py (World ω) Bool
  | .retryStep => Nexplane.retryStep user
  | .skipStep => Nexplane.skipStep user
  | .retryVerify => Nexplane.retryVerify user
  | .resumeNodeUpgrade => Nexplane.resumeNodeUpgrade user
  | .skipNode nodeName => Nexplane.skipNode user nodeName
  | .skipVerify => Nexplane.skipVerify user

theorem checkPaused_keeps {I : World ω → Prop} (user : User) (types : List ChangeType)
    (texts : ResumeTexts) : Py.Keeps I (checkPaused user types texts) :=
  .bind .get fun _ =>
    .ite (.raise _) (.ite (.raise _) (.ite (.raise _) (.ite (.raise _) (.pure _))))

theorem pausedRun_keeps (I : World ω → Prop) : Py.Keeps I (pausedRun (ω := ω)) := by
  refine .bind .get fun w => ?_
  split
  · exact .raise _
  · exact .pure _

/-- A decision writes to the runs and to the status only. -/
theorem request_keeps {I : World ω → Prop} (hrun : ∀ w i f, I w → I (w.setRun i f))
    (hstatus : ∀ w s, I w → I (w.setStatus s)) (user : User) (action : ResumeAction) :
    Py.Keeps I (action.request user) := by
  have hdecide : ∀ texts nothing status, Py.Keeps I (decideStep user texts nothing status) :=
    fun texts nothing status => .bind (checkPaused_keeps _ _ _) fun _ => .bind (pausedRun_keeps I)
      fun _ => .bind (.ofExcept _) fun _ => .bind (.ofExcept _) fun _ =>
      .bind (.modify fun w => hrun w _ _) fun _ => .pure _
  cases action with
  | retryStep =>
    exact (hdecide _ _ _).bind fun _ => .bind (.modify fun w => hstatus w _) fun _ => .pure _
  | skipStep =>
    refine (hdecide _ _ _).bind fun decided => .ite ?_ ?_
    · exact .bind (.modify fun w => hstatus w _) fun _ => .pure _
    · exact .bind (.modify fun w h => hrun _ _ _ (hstatus w _ h)) fun _ => .pure _
  | retryVerify =>
    exact .bind (checkPaused_keeps _ _ _) fun _ => .bind (pausedRun_keeps I) fun _ =>
      .bind .get fun _ => .bind (.ofExcept _) fun _ =>
      .bind (.modify fun w h => hstatus _ _ (hrun w _ _ h)) fun _ => .pure _
  | resumeNodeUpgrade =>
    exact .bind (checkPaused_keeps _ _ _) fun _ => .bind (.modify fun w => hstatus w _) fun _ =>
      .pure _
  | skipNode nodeName =>
    exact .bind (checkPaused_keeps _ _ _) fun _ => .bind (pausedRun_keeps I) fun _ =>
      .bind (.ofExcept _) fun _ =>
      .bind (.modify fun w h => hstatus _ _ (hrun w _ _ h)) fun _ => .pure _
  | skipVerify =>
    exact .bind (checkPaused_keeps _ _ _) fun _ => .bind (pausedRun_keeps I) fun _ =>
      .bind .get fun _ => .bind (.ofExcept _) fun _ =>
      .bind (.modify fun w h => hstatus _ _ (hrun w _ _ h)) fun _ => .pure _

end Nexplane
